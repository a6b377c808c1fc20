import SqlSharding.Json.Fault
import SqlSharding.Json.Number
import SqlSharding.Json.Text

/-!
# Reading JSON

A reader takes the value it wants from the front of a text. Records may be written as objects, in
which unknown names are passed over, or as lists of their fields in order. The text is read once from
left to right, so a value that is refused hides all faults after it.
-/

namespace SqlSharding.Json

/-- Takes a value from the front of a text. -/
abbrev Reader (α : Type) := StateT (List Char) (Except Fault) α

namespace Reader

variable {α β σ : Type}

/-- Refuses the text as malformed. -/
def malformed : Reader α :=
  throw .malformed

/-- Refuses a value at this place. -/
def refuse (cause : Cause) : Reader α := do
  throw (.data cause (← get).length)

/-- Whether a character is blank in JSON. -/
def isSpace (c : Char) : Bool :=
  c == ' ' || c == '\n' || c == '\t' || c == '\r'

/-- Passes over blanks. -/
def skipSpace : Reader Unit :=
  modify (·.dropWhile isSpace)

/-- The next character, which stays. -/
def peek? : Reader (Option Char) := do
  return (← get).head?

/-- Takes the next character. -/
def drop : Reader Unit :=
  modify (·.drop 1)

/-- Takes the given characters. -/
def literal (characters : List Char) : Reader Unit := do
  let rest ← get
  if characters.isPrefixOf rest then set (rest.drop characters.length) else malformed

/-- The result of a reading that fails on malformed text. -/
def take (read? : List Char → Option (α × List Char)) : Reader α := do
  match read? (← get) with
  | some (value, rest) =>
    set rest
    return value
  | none => malformed

/-- Takes a number. -/
def number : Reader Number := do
  match (← take NumberText.read?).toNumber? with
  | some value => return value
  | none => malformed

/-- Takes a string whose quotation mark comes next. -/
def string : Reader String := do
  drop
  return String.ofList (← take Text.decode?)

/-- Names the value that comes next. A scalar is read; of a list or an object only the bracket is
seen. -/
def found : Reader Found := do
  match ← peek? with
  | some 'n' =>
    literal ['n', 'u', 'l', 'l']
    return .null
  | some 't' =>
    literal ['t', 'r', 'u', 'e']
    return .boolean true
  | some 'f' =>
    literal ['f', 'a', 'l', 's', 'e']
    return .boolean false
  | some '"' => return .string (← string)
  | some '[' => return .sequence
  | some '\x7b' => return .map
  | some c =>
    if c = '-' ∨ c.isDigit then
      match ← number with
      | .integer value => return .integer value
      | .floating value => return .floating (floatText value)
    else
      malformed
  | none => malformed

/-- Refuses the value that comes next, where another kind of value has to stand. -/
def wrongType (expected : String) : Reader α := do
  let found ← found
  refuse (.wrongType found expected)

/-- Takes a string. -/
def text : Reader String := do
  skipSpace
  if (← peek?) = some '"' then string else wrongType "a string"

/-- Takes a string or null. -/
def text? : Reader (Option String) := do
  skipSpace
  if (← peek?) = some 'n' then
    literal ['n', 'u', 'l', 'l']
    return none
  else
    return some (← text)

/-- Whether another item follows before the closing bracket. Items are separated by commas, and no
comma stands before the bracket. -/
def hasItem (closing : Char) (isFirst : Bool) : Reader Bool := do
  skipSpace
  let next? ← peek?
  if next? = some closing then
    return false
  else if isFirst then
    if next?.isSome then return true else malformed
  else if next? = some ',' then
    drop
    skipSpace
    match ← peek? with
    | some c => if c = closing then malformed else return true
    | none => malformed
  else
    malformed

/-- Takes the closing bracket, before which nothing else may stand. -/
def close (closing : Char) : Reader Unit := do
  skipSpace
  if (← peek?) = some closing then drop else malformed

/-- Refuses a value inside brackets. The place of the fault is after the bracket or the comma that
follows the value, if one does. -/
def refuseInside (closing : Char) (cause : Cause) : Reader α := do
  skipSpace
  let next? ← peek?
  if next? = some closing then
    drop
  else if next? = some ',' then
    drop
    skipSpace
  refuse cause

/-- Takes at most `bound` items up to the closing bracket. -/
def itemsWithin (item : Reader α) : (bound : Nat) → (isFirst : Bool) → Reader (List α)
  | 0, _ => malformed
  | bound + 1, isFirst => do
    if ← hasItem ']' isFirst then
      let first ← item
      let others ← itemsWithin item bound false
      return first :: others
    else
      return []

/-- Takes a list. Each item takes at least one character. -/
def list (item : Reader α) : Reader (List α) := do
  skipSpace
  if (← peek?) = some '[' then
    drop
    let items ← itemsWithin item ((← get).length + 1) true
    close ']'
    return items
  else
    wrongType "a sequence"

/-- Takes a list item, and refuses it for the reason the check gives. -/
def checked (item : Reader α) (check : α → Except String β) : Reader β := do
  match check (← item) with
  | .ok value => return value
  | .error reason => refuseInside ']' (.refused reason)

/-- What comes next when a value is passed over. -/
inductive Pending
  /-- A value. -/
  | value
  /-- What follows a value inside the brackets that are open. -/
  | afterValue
  deriving DecidableEq

/-- Takes a name and the colon after it. -/
def skipName : Reader Unit := do
  skipSpace
  if (← peek?) = some '"' then
    drop
    discard <| take Text.pieces?
    skipSpace
    literal [':']
  else
    malformed

/-- Passes over the beginning of a value, and gives the brackets that are open after it and what
comes next. -/
def skipValueStart (enclosing : List Char) : Reader (Pending × List Char) := do
  skipSpace
  match ← peek? with
  | some '[' =>
    drop
    skipSpace
    if (← peek?) = some ']' then
      drop
      return (.afterValue, enclosing)
    else
      return (.value, ']' :: enclosing)
  | some '\x7b' =>
    drop
    skipSpace
    if (← peek?) = some '\x7d' then
      drop
      return (.afterValue, enclosing)
    else
      skipName
      return (.value, '\x7d' :: enclosing)
  | some '"' =>
    drop
    discard <| take Text.pieces?
    return (.afterValue, enclosing)
  | some 'n' =>
    literal ['n', 'u', 'l', 'l']
    return (.afterValue, enclosing)
  | some 't' =>
    literal ['t', 'r', 'u', 'e']
    return (.afterValue, enclosing)
  | some 'f' =>
    literal ['f', 'a', 'l', 's', 'e']
    return (.afterValue, enclosing)
  | _ =>
    discard <| take NumberText.read?
    return (.afterValue, enclosing)

/-- Passes over a value in at most `bound` steps, given what comes next and the closing brackets of
the brackets that are open. -/
def skipWithin : (bound : Nat) → Pending → List Char → Reader Unit
  | 0, _, _ => malformed
  | bound + 1, .value, enclosing => do
    let (pending, enclosing) ← skipValueStart enclosing
    skipWithin bound pending enclosing
  | _ + 1, .afterValue, [] => pure ()
  | bound + 1, .afterValue, closing :: enclosing => do
    skipSpace
    let next? ← peek?
    if next? = some closing then
      drop
      skipWithin bound .afterValue enclosing
    else if next? = some ',' then
      drop
      if closing = '\x7d' then skipName
      skipWithin bound .value (closing :: enclosing)
    else
      malformed

/-- Passes over any value. Each step but the last takes at least one character. -/
def skipValue : Reader Unit := do
  skipWithin ((← get).length + 2) .value []

/-- A field of a record that is being read. -/
structure Field (σ : Type) where
  name : String
  /-- Whether the field has been read. -/
  isSet : σ → Bool
  /-- Takes the value of the field. -/
  read : σ → Reader σ

/-- Takes a name and the value of the field it names; a field comes once. -/
def member (fields : List (Field σ)) (record : σ) : Reader σ := do
  if (← peek?) = some '"' then
    let name ← string
    match fields.find? (·.name == name) with
    | some field =>
      if field.isSet record then
        refuseInside '\x7d' (.duplicateField name)
      else
        skipSpace
        literal [':']
        field.read record
    | none =>
      skipSpace
      literal [':']
      skipValue
      return record
  else
    malformed

/-- Takes at most `bound` members up to the closing brace. -/
def membersWithin (fields : List (Field σ)) : (bound : Nat) → (isFirst : Bool) → σ → Reader σ
  | 0, _, _ => malformed
  | bound + 1, isFirst, record => do
    if ← hasItem '\x7d' isFirst then
      membersWithin fields bound false (← member fields record)
    else
      return record

/-- Takes the values of the fields in order, up to the closing bracket. -/
def values (isFirst : Bool) : List (Field σ) → σ → Reader σ
  | [], record => pure record
  | field :: others, record => do
    if ← hasItem ']' isFirst then
      values false others (← field.read record)
    else
      return record

/-- How a record is written. -/
inductive Layout
  | object
  | array
  deriving DecidableEq

/-- Takes the closing bracket of a record that is complete. -/
def finish (closing : Char) : Except Cause α → Reader α
  | .ok value => do
    close closing
    return value
  | .error cause => refuseInside closing cause

/-- Takes a record. What it lacks at its end is found by `complete`. -/
def record (expected : String) (fields : List (Field σ)) (blank : σ)
    (complete : Layout → σ → Except Cause α) : Reader α := do
  skipSpace
  match ← peek? with
  | some '\x7b' =>
    drop
    let record ← membersWithin fields ((← get).length + 1) true blank
    finish '\x7d' (complete .object record)
  | some '[' =>
    drop
    let record ← values true fields blank
    finish ']' (complete .array record)
  | _ => wrongType expected

/-- Reads a whole text, after whose value only blanks may stand. -/
def run (reader : Reader α) (text : String) : Except Fault α := do
  let (value, rest) ← StateT.run reader text.toList
  if rest.all isSpace then return value else throw .malformed

end Reader

end SqlSharding.Json
