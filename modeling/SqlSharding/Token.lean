import SqlSharding.Token.Keyword

/-!
# Tokens

A token is a piece of SQL text with its kind and its place. Places are counted in characters from
the beginning of the text.
-/

namespace SqlSharding

/-- The kinds of literals and names. -/
inductive LiteralKind
  | int
  | float
  | hex
  | chars
  | identifier
  | sessionVariable
  deriving DecidableEq

/-- The name of the kind in messages. -/
def LiteralKind.label : LiteralKind → String
  | int => "INT"
  | float => "FLOAT"
  | hex => "HEX"
  | chars => "CHARS"
  | identifier => "IDENTIFIER"
  | sessionVariable => "VARIABLE"

/-- Operators and punctuation. -/
inductive Symbol
  | leftParen
  | rightParen
  | comma
  | semicolon
  | dot
  | equals
  | notEqual
  | lessThan
  | lessEqual
  | greaterThan
  | greaterEqual
  | plus
  | minus
  | multiply
  | divide
  | modulo
  | question
  | concat
  deriving DecidableEq

namespace Symbol

/-- All symbols, in the order of their declaration. -/
def all : List Symbol := [
  leftParen, rightParen, comma, semicolon, dot, equals, notEqual, lessThan, lessEqual, greaterThan,
  greaterEqual, plus, minus, multiply, divide, modulo, question, concat]

/-- The usual spelling; inequality may also be written `!=`. -/
def spelling : Symbol → String
  | leftParen => "("
  | rightParen => ")"
  | comma => ","
  | semicolon => ";"
  | dot => "."
  | equals => "="
  | notEqual => "<>"
  | lessThan => "<"
  | lessEqual => "<="
  | greaterThan => ">"
  | greaterEqual => ">="
  | plus => "+"
  | minus => "-"
  | multiply => "*"
  | divide => "/"
  | modulo => "%"
  | question => "?"
  | concat => "||"

end Symbol

/-- What a token is: a keyword of one of the vocabularies, a literal, a symbol, or the end of the
text. -/
inductive Kind
  | reserved (word : ReservedWord)
  | mySQL (word : MySQLWord)
  | oracle (word : OracleWord)
  | sqlServer (word : SQLServerWord)
  | postgreSQL (word : PostgreSQLWord)
  | literal (kind : LiteralKind)
  | symbol (mark : Symbol)
  | endOfText
  deriving DecidableEq

namespace Kind

/-- Whether the kind is a keyword of any vocabulary. -/
def isKeyword : Kind → Bool
  | reserved _ | mySQL _ | oracle _ | sqlServer _ | postgreSQL _ => true
  | literal _ | symbol _ | endOfText => false

/-- Whether the kind is a keyword of one dialect. -/
def isDialectKeyword : Kind → Bool
  | mySQL _ | oracle _ | sqlServer _ | postgreSQL _ => true
  | reserved _ | literal _ | symbol _ | endOfText => false

/-- Whether the kind may name a table, a column or an alias. The words of a dialect are not reserved,
so they still may. -/
def isName (kind : Kind) : Bool :=
  kind == literal .identifier || kind.isDialectKeyword

/-- The kind as messages name it. -/
def label : Kind → String
  | reserved word => word.spelling
  | mySQL word => word.spelling
  | oracle word => word.spelling
  | sqlServer word => word.spelling
  | postgreSQL word => word.spelling
  | literal kind => kind.label
  | symbol mark => "'" ++ mark.spelling ++ "'"
  | endOfText => "END"

end Kind

/-- A piece of SQL text. -/
structure Token where
  kind : Kind
  /-- The text as it is written; a string literal gives its value instead. -/
  text : String
  /-- The place of the first character. -/
  start : Nat
  /-- The place just after the last character. -/
  stop : Nat
  deriving DecidableEq

namespace Token

/-- The token as messages name it. -/
def label (token : Token) : String :=
  token.kind.label ++ "(" ++ token.text ++ ")@" ++ toString token.start

end Token

/-- Whether an identifier is written between quotation marks that begin with `first` and end with
`last`. -/
def areQuotes (first last : Char) : Bool :=
  first == '\x60' && last == '\x60' || first == '"' && last == '"' || first == '[' && last == ']'

/-- The name that an identifier stands for: quotation marks around it are taken off. A lone
quotation mark is a name of its own. -/
def unquote (written : String) : String :=
  match written.toList with
  | first :: second :: rest =>
    if areQuotes first ((second :: rest).getLast (by simp)) then
      String.ofList (second :: rest).dropLast
    else
      written
  | _ => written

end SqlSharding
