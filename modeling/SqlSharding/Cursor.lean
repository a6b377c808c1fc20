import SqlSharding.Tape

/-!
# Cursors

A cursor stands on a token of a text. It is moved by readings, which may fail; a failed reading
leaves the cursor where the failure arose. Before the first move the cursor stands on an end token
in front of the text.
-/

namespace SqlSharding

/-- A place in the tokens of a text. -/
structure Cursor where
  dialect : Dialect
  /-- The whole text. -/
  text : String
  /-- The token under the cursor. -/
  current : Token
  /-- The tokens after it. -/
  ahead : Tape
  deriving DecidableEq

/-- A movement of a cursor that gives a value or fails. -/
abbrev Reading (α : Type) := EStateM ParseError Cursor α

namespace Cursor

/-- A cursor in front of a text. -/
def ofText (dialect : Dialect) (text : String) : Cursor :=
  ⟨dialect, text, ⟨.endOfText, "", 0, 0⟩, .ofText dialect text⟩

/-- Whether the cursor is on an end token. -/
def isAtEnd (cursor : Cursor) : Bool :=
  cursor.current.kind == .endOfText

/-- A bound on the moves that are left. It gets smaller with every move that leaves a token other than
the end, or that reaches a token. -/
def remaining (cursor : Cursor) : Nat :=
  2 * cursor.ahead.tokens.length + if cursor.isAtEnd then 0 else 1

/-- Whether the token under the cursor has one of the kinds. -/
def isOn (cursor : Cursor) (kinds : List Kind) : Bool :=
  kinds.contains cursor.current.kind

/-- The characters of the text from one place to another. -/
def slice (cursor : Cursor) (start stop : Nat) : String :=
  String.ofList ((cursor.text.toList.drop start).take (stop - start))

end Cursor

namespace Reading

/-- Moves the cursor to the next token. After the last one it is at the end, and a fault in the text
leaves it where it is. -/
def advance : Reading Unit := fun cursor =>
  match cursor.ahead with
  | ⟨token :: later, ending⟩ => .ok () { cursor with current := token, ahead := ⟨later, ending⟩ }
  | ⟨[], .finished⟩ =>
    let place := cursor.current.stop
    .ok () { cursor with current := ⟨.endOfText, "", place, place⟩ }
  | ⟨[], .blocked fault⟩ => .error (.illegalInput fault) cursor
  | ⟨[], .unclosed fault last⟩ =>
    .error (.illegalInput fault) { cursor with ahead := ⟨[last], .finished⟩ }

/-- The token under the cursor. -/
def current : Reading Token := fun cursor =>
  .ok cursor.current cursor

/-- Whether the cursor is on an end token. -/
def isAtEnd : Reading Bool := fun cursor =>
  .ok cursor.isAtEnd cursor

/-- Whether the token under the cursor has one of the kinds. -/
def isOn (kinds : List Kind) : Reading Bool := fun cursor =>
  .ok (cursor.isOn kinds) cursor

/-- Fails because the token under the cursor cannot stand there. -/
def unexpected {α : Type} : Reading α := fun cursor =>
  .error (.unexpectedToken cursor.current) cursor

/-- Fails if the token under the cursor has one of the kinds. -/
def refuse (kinds : List Kind) : Reading Unit := fun cursor =>
  if cursor.isOn kinds then .error (.unsupportedToken cursor.current) cursor else .ok () cursor

/-- Moves past a token of the kind and gives it; fails on any other token. -/
def accept (expected : Kind) : Reading Token := do
  let token ← current
  if token.kind = expected then
    advance
    return token
  else
    throw (.expectedToken expected token)

/-- Moves past a token of one of the kinds, and tells whether there was one. -/
def skipIf (kinds : List Kind) : Reading Bool := do
  if ← isOn kinds then
    advance
    return true
  else
    return false

end Reading

end SqlSharding
