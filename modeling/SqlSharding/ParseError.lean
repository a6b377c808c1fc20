import SqlSharding.Lexer
import SqlSharding.Statement.Family

/-!
# Why a statement is refused

The causes for which no statement is read, and their wording.
-/

namespace SqlSharding

/-- The causes for which reading a statement fails. -/
inductive ParseError
  /-- The statement does not begin with a reserved word. -/
  | unsupportedClassification (kind : Kind)
  /-- The statement begins with a reserved word that begins no family. -/
  | unsupportedKeyword (kind : Kind)
  /-- The family has no parser for the dialect. The built-in parsers cover every dialect. -/
  | unsupportedDialect (dialect : Dialect) (family : Family)
  /-- The statement defines something other than a table; the head names what. -/
  | unsupportedStatement (family : Family) (object : String)
  /-- The token is understood, and what it asks for is not supported. -/
  | unsupportedToken (token : Token)
  /-- The token cannot stand here. -/
  | unexpectedToken (token : Token)
  /-- Another kind of token has to stand here. -/
  | expectedToken (expected : Kind) (actual : Token)
  /-- The text is no token. -/
  | illegalInput (input : IllegalInput)
  deriving DecidableEq

namespace ParseError

/-- The wording of the cause. -/
def message : ParseError → String
  | unsupportedClassification kind => "Unsupported token classification: " ++ kind.label
  | unsupportedKeyword kind => "Unsupported statement keyword: " ++ kind.label
  | unsupportedDialect dialect family =>
    family.label ++ " statements are not supported for " ++ dialect.productName
  | unsupportedStatement family object =>
    "Unsupported statement: " ++ family.label ++ " " ++ object
  | unsupportedToken token => "Unsupported token: " ++ token.label
  | unexpectedToken token => "Unexpected token: " ++ token.label
  | expectedToken expected actual =>
    "Expected token: " ++ expected.label ++ ", found: " ++ actual.label
  | illegalInput input =>
    "Illegal input '" ++ input.text ++ "' at position " ++ toString input.position

end ParseError

end SqlSharding
