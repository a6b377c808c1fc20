import SqlSharding.Proofs.InText.Calls

/-!
# Rounds of a loop

The turns of a loop that ask for another one are its rounds. Where a loop is entered in a text, each round
begins on a token and ends behind it, so that there is no more than one round for the token under the
cursor and one for each character that is left. Then one more turn ends the loop or fails.
-/

namespace SqlSharding.Reading

open Cursor

variable {α : Type} {turn : α → Reading (Turn α)} {value next found : α} {count : Nat}
  {before start middle after : Cursor}

/-- The turns of a loop that ask for another one: so many lead from a value and a cursor to others. -/
inductive Rounds (turn : α → Reading (Turn α)) : α → Cursor → Nat → α → Cursor → Prop
  | none {value : α} {cursor : Cursor} : Rounds turn value cursor 0 value cursor
  | again {value next found : α} {start middle after : Cursor} {count : Nat}
      (taken : turn value start = .ok (.again next) middle)
      (later : Rounds turn next middle count found after) : Rounds turn value start (count + 1) found after

/-- The turn is the last one of a loop that comes out like this. -/
inductive Concludes (turn : α → Reading (Turn α)) (value : α) (before : Cursor) :
    EStateM.Result ParseError Cursor α → Prop
  | done {result : α} {after : Cursor} (taken : turn value before = .ok (.done result) after) :
      Concludes turn value before (.ok result after)
  | failed {cause : ParseError} {after : Cursor} (taken : turn value before = .error cause after) :
      Concludes turn value before (.error cause after)

/-- A loop of consuming turns is some rounds and a last turn. -/
theorem exists_rounds (consumes : Consumes turn) (value : α) (start : Cursor) :
    ∃ count found middle, Rounds turn value start count found middle ∧
      Concludes turn found middle (repeatTurns turn value start) := by
  induction bound : start.remaining using Nat.strongRecOn generalizing value start with
  | _ bound inductionHypothesis =>
    cases taken : turn value start with
    | error cause after =>
      have fails : repeatTurns turn value start = .error cause after := by
        rw [repeatTurns_eq consumes, bind_error_iff]
        exact .inl taken
      exact ⟨0, value, start, .none, fails ▸ .failed taken⟩
    | ok decision after =>
      cases decision with
      | done result =>
        refine ⟨0, value, start, .none, ?_⟩
        rw [repeatTurns_of_done consumes taken]
        exact .done taken
      | again next =>
        obtain ⟨count, found, middle, rounds, concludes⟩ :=
          inductionHypothesis _ (bound ▸ consumes _ _ _ _ taken) next after rfl
        refine ⟨count + 1, found, middle, .again taken rounds, ?_⟩
        rw [repeatTurns_of_again consumes taken]
        exact concludes

/-- The number of characters behind the calls of so many moves. -/
def unread (dialect : Dialect) (text : String) (moves : Nat) : Nat :=
  ((Lexer.ofDialect dialect text).afterCalls moves).rest.length

/-- Wherever a loop of such turns is entered in a text, it makes progress. -/
structure Progresses (turn : α → Reading (Turn α)) : Prop where
  /-- A turn that asks for another one begins on a token and ends behind it. -/
  onward : ∀ (dialect : Dialect) (text : String) (moves : Nat) (value next : α) (after : Cursor),
    let before := movedInto dialect text moves
    turn value before = .ok (.again next) after →
      before.current.kind ≠ .endOfText ∧ before.current.start < before.current.stop ∧
        before.current.stop ≤ after.current.start ∧
        ∃ further, moves < further ∧ after = movedInto dialect text further
  /-- The turns of the loop, the last one among them, are no more than two and one for each character
  left. -/
  bounded : ∀ (dialect : Dialect) (text : String) (moves : Nat) (value : α) (count : Nat) (found : α)
    (middle : Cursor), Rounds turn value (movedInto dialect text moves) count found middle →
      count + 1 ≤ unread dialect text moves + 2
  /-- The loop comes to its last turn, whose outcome it has. -/
  concludes : ∀ (dialect : Dialect) (text : String) (moves : Nat) (value : α),
    let start := movedInto dialect text moves
    ∃ count found middle, Rounds turn value start count found middle ∧
      Concludes turn found middle (repeatTurns turn value start)

/-- Whatever is put together from moves leaves the cursor in the text. -/
theorem exists_movedInto_of_moves {β : Type} {expects : Kind → Prop} {reading : Reading β} {found : β}
    {dialect : Dialect} {text : String} {moves : Nat} (composed : Moves expects reading)
    (passed : reading (movedInto dialect text moves) = .ok found after) :
    ∃ further, moves ≤ further ∧ after = movedInto dialect text further := by
  let holds (cursor : Cursor) : Prop := ∃ further, moves ≤ further ∧ cursor = movedInto dialect text further
  have advances : Maintains holds (fun _ _ => True) advance := by
    refine ⟨?_, fun _ _ => trivial⟩
    rintro before value after ⟨further, atLeast, rfl⟩ moved
    refine ⟨further + 1, by omega, ?_⟩
    have left : leaves advance (movedInto dialect text further) = after := by rw [leaves, moved]
    rw [← left, movedInto, movedInto, Function.iterate_succ_apply']
  exact (Maintains.of_moves advances (fun _ _ => trivial) composed).passes ⟨moves, Nat.le_refl _, rfl⟩ passed

/-- Whatever is put together from moves passes tokens of the text. -/
theorem exists_passes_of_moves {β : Type} {expects : Kind → Prop} {reading : Reading β} {found : β}
    (composed : Moves expects reading) (settled : before.Settled)
    (passed : reading before = .ok found after) : ∃ taken, before.Passes taken after := by
  let holds (cursor : Cursor) : Prop := cursor.Settled ∧ ∃ taken, before.Passes taken cursor
  have advances : Maintains holds (fun _ _ => True) advance := by
    refine ⟨?_, fun _ _ => trivial⟩
    rintro middle value after ⟨settledHere, taken, passes⟩ moved
    rcases (advance_ok_iff settledHere).mp moved with onward | ⟨-, rfl⟩
    · exact ⟨onward.settled settledHere, _, passes.trans onward⟩
    · exact ⟨settledHere, taken, passes⟩
  exact ((Maintains.of_moves advances (fun _ _ => trivial) composed).passes
    ⟨settled, [], .refl _⟩ passed).2

variable {expects : Kind → Prop}

/-- A turn that asks for another one passes the token that it begins on. -/
theorem exists_passes_of_again (consumes : Consumes turn) (composed : ∀ value, Moves expects (turn value))
    (settled : before.Settled) (taken : turn value before = .ok (.again next) after) :
    ∃ more, before.Passes (before.current :: more) after := by
  obtain ⟨passed, passes⟩ := exists_passes_of_moves (composed value) settled taken
  cases passed with
  | nil =>
    have consumed := consumes _ _ _ _ taken
    rw [passes_nil_iff.mp passes] at consumed
    exact absurd consumed (Nat.lt_irrefl _)
  | cons token more =>
    obtain rfl := passes.current_eq
    exact ⟨more, passes⟩

/-- Where no turn that asks for another one begins on the end, there is no more than one for each token
but the end. -/
theorem Rounds.count_le (consumes : Consumes turn) (composed : ∀ value, Moves expects (turn value))
    (onToken : ∀ {value next before after}, turn value before = .ok (.again next) after →
      before.current.kind ≠ .endOfText)
    (rounds : Rounds turn value start count found after)
    (inText : start.current.kind = .endOfText ∨ start.Settled) :
    count ≤ start.tokens.countP (·.kind ≠ .endOfText) := by
  induction rounds with
  | none => exact Nat.zero_le _
  | again taken _ inductionHypothesis =>
    have settled := inText.resolve_left (onToken taken)
    obtain ⟨more, passes⟩ := exists_passes_of_again consumes composed settled taken
    have behind := inductionHypothesis (.inr (passes.settled settled))
    rw [passes.tokens, List.cons_append, List.countP_cons_of_pos (by simpa using onToken taken),
      List.countP_append]
    omega

/-- Turns that consume, are put together from moves, and never ask for another one on the end, make
progress wherever their loop is entered. -/
theorem Progresses.of_moves (consumes : Consumes turn) (composed : ∀ value, Moves expects (turn value))
    (onToken : ∀ {value next before after}, turn value before = .ok (.again next) after →
      before.current.kind ≠ .endOfText) : Progresses turn where
  onward dialect text moves value next after := by
    intro before taken
    have notEnd : before.current.kind ≠ .endOfText := onToken taken
    have settled := (isInText_movedInto dialect text moves).here.resolve_left notEnd
    obtain ⟨notEmpty, places⟩ := (inStep_movedInto dialect text moves).places_ahead notEnd
    obtain ⟨more, passes⟩ := exists_passes_of_again consumes composed settled taken
    obtain ⟨further, atLeast, rfl⟩ := exists_movedInto_of_moves (composed value) taken
    have ahead : before.ahead.tokens = more ++ (movedInto dialect text further).tokens :=
      (List.cons.inj passes.tokens).2
    have isAhead : (movedInto dialect text further).current ∈ before.ahead.tokens := by
      rw [ahead]
      exact List.mem_append_right _ List.mem_cons_self
    refine ⟨notEnd, notEmpty, (places _ isAhead).1, further, Nat.lt_of_le_of_ne atLeast ?_, rfl⟩
    rintro rfl
    exact absurd (consumes _ _ _ _ taken) (Nat.lt_irrefl _)
  bounded dialect text moves value count found middle rounds := by
    have here := rounds.count_le consumes composed onToken (isInText_movedInto dialect text moves).here
    have ahead : (movedInto dialect text moves).ahead.tokens.countP (·.kind ≠ .endOfText) ≤
        unread dialect text moves :=
      (inStep_movedInto dialect text moves).countP_ahead_le
    rw [Cursor.tokens, List.countP_cons] at here
    split at here <;> omega
  concludes dialect text moves value := exists_rounds consumes value _

end SqlSharding.Reading
