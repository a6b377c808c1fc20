import SqlSharding.Lexer.Scan

/-!
# Lexers

A lexer stands in a text and answers one token per call. Blanks and comments before a token are
skipped. At the end of the text every call answers the end token; after a quote that is not closed
the lexer stands at the end, and before a character that begins no token it stays.
-/

namespace SqlSharding

/-- The part of a comment or gap that a lexer is in. -/
inductive Gap
  | betweenTokens
  | lineComment
  | blockComment
  deriving DecidableEq

/-- The place after the blanks and comments at the front of a text, and what follows them. A comment
to the end of the line begins with `--`, or with `#` where the rules say so; a block comment that is
not closed reaches the end. -/
def Gap.skip (rules : LexicalRules) : Gap → (place : Nat) → List Char → Nat × List Char
  | _, place, [] => (place, [])
  | .lineComment, place, c :: rest =>
    skip rules (if c = '\n' then .betweenTokens else .lineComment) (place + 1) rest
  | .blockComment, place, '*' :: '/' :: rest => skip rules .betweenTokens (place + 2) rest
  | .blockComment, place, _ :: rest => skip rules .blockComment (place + 1) rest
  | .betweenTokens, place, '-' :: '-' :: rest => skip rules .lineComment (place + 2) rest
  | .betweenTokens, place, '/' :: '*' :: rest => skip rules .blockComment (place + 2) rest
  | .betweenTokens, place, c :: rest =>
    if Text.isBlank c then skip rules .betweenTokens (place + 1) rest
    else if c = '#' ∧ rules.hashComments then skip rules .lineComment (place + 1) rest
    else (place, c :: rest)

/-- A piece of text that is no token. -/
structure IllegalInput where
  position : Nat
  text : String
  deriving DecidableEq

/-- A place in a text. -/
structure Lexer where
  rules : LexicalRules
  dictionary : Dictionary
  /-- The number of characters before the place. -/
  offset : Nat
  /-- The characters from the place on. -/
  rest : List Char
  deriving DecidableEq

namespace Lexer

/-- A lexer at the beginning of a text. -/
def ofText (rules : LexicalRules) (dictionary : Dictionary) (text : String) : Lexer :=
  ⟨rules, dictionary, 0, text.toList⟩

/-- A lexer for SQL of a dialect. -/
def ofDialect (dialect : Dialect) (text : String) : Lexer :=
  ofText (.ofGrammar dialect.grammar) (.ofDialect dialect) text

/-- The lexer after the blanks and comments before it. -/
def skipGap (lexer : Lexer) : Lexer :=
  let (offset, rest) := Gap.betweenTokens.skip lexer.rules lexer.offset lexer.rest
  { lexer with offset, rest }

/-- The next token or the fault in its place, and the lexer after it. -/
def next (lexer : Lexer) : Except IllegalInput Token × Lexer :=
  let lexer := lexer.skipGap
  match lexer.rest with
  | [] => (.ok ⟨.endOfText, "", lexer.offset, lexer.offset⟩, lexer)
  | first :: others =>
    match Scan.lexeme lexer.rules lexer.dictionary first others with
    | .ok lexeme =>
      let stop := lexer.offset + lexeme.written.length
      (.ok ⟨lexeme.kind, String.ofList lexeme.text, lexer.offset, stop⟩,
        { lexer with offset := stop, rest := lexeme.rest })
    | .error .unclosed =>
      (.error ⟨lexer.offset, String.ofList lexer.rest⟩,
        { lexer with offset := lexer.offset + lexer.rest.length, rest := [] })
    | .error (.illegal character) =>
      (.error ⟨lexer.offset, String.ofList [character]⟩, lexer)

end Lexer

end SqlSharding
