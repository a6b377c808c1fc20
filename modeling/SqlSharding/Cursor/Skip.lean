import SqlSharding.Cursor.Repeat

/-!
# Skipping

Most of a statement is skipped, not read. A group between parentheses is skipped whole with all
groups in it, so that nothing inside a group can be taken for a part of the statement.
-/

namespace SqlSharding.Reading

/-- Moves past all tokens of the kinds, up to the first token of another kind. -/
def skipAll (kinds : List Kind) : Reading Unit :=
  repeatTurns (fun _ => do
    if ← isOn kinds then
      advance
      return .again ()
    else
      return .done ()) ()

/-- Moves to the next token of one of the kinds, or to the end. -/
def skipUntil (kinds : List Kind) : Reading Unit :=
  repeatTurns (fun _ => do
    if ← isAtEnd then
      return .done ()
    else if ← isOn kinds then
      return .done ()
    else
      advance
      return .again ()) ()

/-- How far a group has been read. -/
structure GroupProgress where
  /-- The number of parentheses that are open. -/
  depth : Nat
  /-- The place after the last token of the group so far. -/
  stop : Nat
  deriving DecidableEq

/-- The number of open parentheses after a token of the kind. -/
def depthAfter (depth : Nat) : Kind → Nat
  | .symbol .leftParen => depth + 1
  | .symbol .rightParen => depth - 1
  | _ => depth

/-- Reads one token of a group. The end of the text cannot stand in a group. -/
def groupTurn (progress : GroupProgress) : Reading (Turn GroupProgress) := do
  let token ← current
  if token.kind = .endOfText then
    unexpected
  else
    let after : GroupProgress := ⟨depthAfter progress.depth token.kind, token.stop⟩
    advance
    if after.depth = 0 then
      return .done after
    else
      return .again after

/-- Moves past the group that opens under the cursor and gives its text; without a group there, the
cursor stays and the text is empty. -/
def skipGroup : Reading String := do
  if ← isOn [.symbol .leftParen] then
    let start := (← current).start
    let progress ← repeatTurns groupTurn ⟨0, start⟩
    return (← get).slice start progress.stop
  else
    return ""

/-- Moves past one item: a group, or a token that opens none. -/
def skipItem : Reading Unit := do
  if ← isOn [.symbol .leftParen] then
    discard skipGroup
  else
    advance

/-- Moves over items to the first one that stops the skipping, or to the end. Whether a token stops
it may depend on whether it follows a dot. -/
def skipItems (stops : (afterDot : Bool) → Kind → Bool) : Reading Unit :=
  discard <| repeatTurns (fun afterDot => do
    let token ← current
    if token.kind = .endOfText || stops afterDot token.kind then
      return .done afterDot
    else
      skipItem
      return .again (token.kind = .symbol .dot)) false

/-- Moves over items to the first token of one of the kinds, or to the end. -/
def skipItemsUntil (kinds : List Kind) : Reading Unit :=
  skipItems fun _ kind => kinds.contains kind

/-- Moves past the rest of the statement and the semicolon that ends it. -/
def skipToStatementEnd : Reading Unit := do
  skipUntil [.symbol .semicolon]
  discard <| skipIf [.symbol .semicolon]

end SqlSharding.Reading
