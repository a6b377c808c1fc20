import SqlSharding.ParseError

/-!
# Tapes

A tape is what a lexer answers, call after call, to the end: tokens, and then the way the text ends.
Statements are read off a tape, so that what they depend on is a list of tokens.
-/

namespace SqlSharding

/-- How the answers of a lexer go on after the last token on the tape. -/
inductive Ending
  /-- The last token, which ends the text, is answered again and again. -/
  | finished
  /-- The fault is answered again and again. -/
  | blocked (fault : IllegalInput)
  /-- The fault is answered once, and then the end token again and again. -/
  | unclosed (fault : IllegalInput) (last : Token)
  deriving DecidableEq

/-- Tokens to come, and what follows them. -/
structure Tape where
  tokens : List Token
  ending : Ending
  deriving DecidableEq

namespace Tape

/-- A tape with a token before it. -/
def cons (token : Token) (tape : Tape) : Tape :=
  { tape with tokens := token :: tape.tokens }

/-- The answers of a lexer, of which at most `calls` come before the ending. -/
def record : (calls : Nat) → Lexer → Tape
  | 0, _ => ⟨[], .finished⟩
  | calls + 1, lexer =>
    match lexer.next with
    | (.ok token, after) =>
      if token.kind = .endOfText then ⟨[token], .finished⟩ else (record calls after).cons token
    | (.error fault, after) =>
      match after.next with
      | (.ok last, _) => ⟨[], .unclosed fault last⟩
      | (.error _, _) => ⟨[], .blocked fault⟩

/-- All answers of a lexer. Each token but the last takes at least one character. -/
def ofLexer (lexer : Lexer) : Tape :=
  record (lexer.rest.length + 1) lexer

/-- The tape of a text in a dialect. -/
def ofText (dialect : Dialect) (text : String) : Tape :=
  ofLexer (.ofDialect dialect text)

/-- Whether the text holds no fault. -/
def isClean (tape : Tape) : Bool :=
  tape.ending = .finished

end Tape

end SqlSharding
