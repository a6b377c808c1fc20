import SqlSharding.Proofs.Composition.Parts

/-!
# Single moves

Below the steps there are six ways to use a cursor: to ask about it, to move it by one token, and to
fail where it stands, which blames the token under it. Every statement is read by such moves. The only
keyword of a family that is demanded is the first word of the statement.
-/

namespace SqlSharding.Reading

variable {α : Type} {expects : Kind → Prop} {kinds : List Kind}

/-- What a cursor is used for at once. Only kinds of a certain sort are demanded. -/
inductive Move (expects : Kind → Prop) : ∀ α : Type, Reading α → Prop
  | asks {α : Type} (answer : Cursor → α) : Move expects α fun cursor => .ok (answer cursor) cursor
  | advance : Move expects Unit advance
  | refuse (kinds : List Kind) : Move expects Unit (refuse kinds)
  | unexpected {α : Type} : Move expects α unexpected
  | unsupported {α : Type} (family : Family) :
      Move expects α fun cursor => .error (.unsupportedStatement family cursor.current.text) cursor
  | accept {expected : Kind} (isExpected : expects expected) : Move expects Token (accept expected)

/-- Put together from moves. -/
abbrev Moves (expects : Kind → Prop) {α : Type} (reading : Reading α) : Prop :=
  Composed (Move expects) reading

/-- Moves that demand some kinds are moves that demand more kinds. -/
theorem Moves.weaken {wider : Kind → Prop} (within : ∀ kind, expects kind → wider kind)
    {reading : Reading α} (moves : Moves expects reading) : Moves wider reading :=
  moves.trans fun isMove => match isMove with
    | .asks answer => .basic (.asks answer)
    | .advance => .basic .advance
    | .refuse kinds => .basic (.refuse kinds)
    | .unexpected => .basic .unexpected
    | .unsupported family => .basic (.unsupported family)
    | .accept isExpected => .basic (.accept (within _ isExpected))

/-- Looking at the token under the cursor is a move. -/
theorem moves_isOn (kinds : List Kind) : Moves expects (isOn kinds) :=
  .basic (.asks fun cursor => cursor.isOn kinds)

/-- Taking the token under the cursor is a move. -/
theorem moves_current : Moves expects current :=
  .basic (.asks fun cursor => cursor.current)

/-- Skipping a token is put together from moves. -/
theorem moves_skipIf (kinds : List Kind) : Moves expects (skipIf kinds) :=
  .bind (moves_isOn kinds) fun _ => .ite (.bind (.basic .advance) fun _ => .pure _) (.pure _)

/-- Demanding an expected token is put together from moves. -/
theorem moves_accept {expected : Kind} (isExpected : expects expected) :
    Moves expects (discard <| accept expected) :=
  .discard (.basic (.accept isExpected))

/-- Reading a part of a name is put together from moves. -/
theorem moves_namePart : Moves expects namePart :=
  .bind moves_current fun _ =>
    .ite (.bind (.basic .advance) fun _ => .pure _) (.basic .unexpected)

/-- A group is skipped by moves, token by token. -/
theorem moves_skipGroup : Moves expects skipGroup := by
  have turns (progress : GroupProgress) : Moves expects (groupTurn progress) :=
    .bind moves_current fun _ => .ite (.basic .unexpected)
      (.bind (.basic .advance) fun _ => .ite (.pure _) (.pure _))
  refine .bind (moves_isOn _) fun _ => .ite ?_ (.pure _)
  refine .bind moves_current fun _ => .bind (.repeatTurns turns _) fun progress => ?_
  exact .bind (.basic (.asks id)) fun _ => .pure _

/-- A token or a group is skipped by moves. -/
theorem moves_skipItem : Moves expects skipItem :=
  .bind (moves_isOn _) fun _ => .ite (.discard moves_skipGroup) (.basic .advance)

/-- A turn of the skipping of items is put together from moves. -/
theorem moves_itemTurn (stops : (afterDot : Bool) → Kind → Bool) (afterDot : Bool) :
    Moves expects (itemTurn stops afterDot) :=
  .bind moves_current fun _ => .ite (.pure _) (.bind moves_skipItem fun _ => .pure _)

/-- A step is put together from moves, and it demands no first word. -/
theorem moves_of_step {anyItem : Prop} {reading : Reading α} (isStep : Step anyItem α reading) :
    Moves (· ∉ leadingKinds) reading :=
  match isStep with
  | .asks answer => .basic (.asks answer)
  | .refuse kinds => .basic (.refuse kinds)
  | .unexpected => .basic .unexpected
  | .unsupported family => .basic (.unsupported family)
  | .skipIf _ => moves_skipIf _
  | .accept _ leadsNone => .basic (.accept leadsNone)
  | .namePart => moves_namePart
  | .skipGroup => moves_skipGroup
  | .itemTurn afterDot _ => moves_itemTurn _ afterDot
  | .skipItem _ => moves_skipItem

/-- What is read in steps is put together from moves that demand no first word. -/
theorem moves_of_steps {reading : Reading α} (steps : Steps True reading) :
    Moves (· ∉ leadingKinds) reading :=
  steps.trans moves_of_step

/-- What is put together from parts is put together from moves that demand no first word. -/
theorem moves_of_parts {reading : Reading α} (parts : Parts reading) :
    Moves (· ∉ leadingKinds) reading :=
  parts.trans fun isPart => match isPart with
    | .step isStep => moves_of_step isStep
    | .accept _ leadsNone => .basic (.accept leadsNone)
    | .untilSemicolon =>
      .bind (.basic (.asks fun cursor => cursor.isAtEnd)) fun _ => .ite (.pure _)
        (.bind (moves_isOn _) fun _ => .ite (.pure _) (.bind (.basic .advance) fun _ => .pure _))

/-- An assignment is read by moves that demand no first word. -/
theorem moves_assignment : Moves (· ∉ leadingKinds) assignment :=
  moves_of_parts parts_assignment

/-- The columns of an insertion are read by moves that demand no first word. -/
theorem moves_insertColumns (grammar : Grammar) :
    Moves (· ∉ leadingKinds) (insertColumns grammar) :=
  moves_of_parts (parts_insertColumns grammar)

/-- Behind its first word no statement demands a first word again. -/
theorem moves_behind_keyword (grammar : Grammar) (family : Family) :
    Moves (· ∉ leadingKinds) (do
      family.skipWords grammar
      family.body grammar) :=
  .bind (moves_of_steps (family.steps_skipWords grammar fun _ _ => trivial)) fun _ =>
    moves_of_parts (parts_body grammar family)

/-- Behind the outline only a semicolon is skipped. -/
theorem moves_rest {body : Reading Outline} (moves : Moves expects body) (rule : ShardingRule)
    (family : Family) : Moves expects (do
      let outline ← body
      discard <| skipIf [.symbol .semicolon]
      return outline.statement rule family) :=
  .bind moves fun _ => .bind (.discard (moves_skipIf _)) fun _ => .pure _

/-- Every parser is put together from moves. -/
theorem moves_family (grammar : Grammar) (rule : ShardingRule) (family : Family) :
    Moves (fun _ => True) (family.parser grammar rule) := by
  rw [Family.parser_eq, Family.outline_eq_keyword]
  refine moves_rest (.bind (moves_accept trivial) fun _ => ?_) rule family
  exact (moves_behind_keyword grammar family).weaken fun _ _ => trivial

end SqlSharding.Reading
