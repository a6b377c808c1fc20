import SqlSharding.Cursor

/-!
# Repeated readings

A loop over the tokens takes turns, of which each ends the loop or asks for another one. The number of
turns is bounded by what remains of the text. Where every turn that asks for another one consumes a
token, the bound never cuts a loop short: `repeatTurns_eq` then unfolds a loop by one turn.
-/

namespace SqlSharding

/-- What a turn of a loop decides, with the value so far. -/
inductive Turn (α : Type)
  | again (value : α)
  | done (value : α)
  deriving DecidableEq

namespace Reading

variable {α : Type}

/-- At most `bound` turns, beginning with a value. -/
def repeatWithin (turn : α → Reading (Turn α)) : (bound : Nat) → α → Reading α
  | 0, value => pure value
  | bound + 1, value => do
    match ← turn value with
    | .done result => return result
    | .again next => repeatWithin turn bound next

/-- Turns, beginning with a value, until one ends the loop. -/
def repeatTurns (turn : α → Reading (Turn α)) (value : α) : Reading α := fun cursor =>
  repeatWithin turn (cursor.remaining + 1) value cursor

/-- Whether every turn that asks for another one consumes a token. -/
def Consumes (turn : α → Reading (Turn α)) : Prop :=
  ∀ value next before after,
    turn value before = .ok (.again next) after → after.remaining < before.remaining

/-- Bounds above what remains give the same result. -/
theorem repeatWithin_congr {turn : α → Reading (Turn α)} (consumes : Consumes turn)
    {left right : Nat} {value : α} {cursor : Cursor}
    (leftEnough : cursor.remaining < left) (rightEnough : cursor.remaining < right) :
    repeatWithin turn left value cursor = repeatWithin turn right value cursor := by
  induction left generalizing right value cursor with
  | zero => omega
  | succ left inductionHypothesis =>
    obtain ⟨right, rfl⟩ : ∃ count, right = count + 1 := ⟨right - 1, by omega⟩
    simp only [repeatWithin, bind, EStateM.bind]
    split
    · rename_i decision after taken
      cases decision with
      | done result => rfl
      | again next =>
        have consumed := consumes _ _ _ _ taken
        exact inductionHypothesis (by omega) (by omega)
    · rfl

/-- A loop of consuming turns is its first turn, followed by the loop if the turn asks for it. -/
theorem repeatTurns_eq {turn : α → Reading (Turn α)} (consumes : Consumes turn) (value : α) :
    repeatTurns turn value = (do
      match ← turn value with
      | .done result => return result
      | .again next => repeatTurns turn next) := by
  funext cursor
  simp only [repeatTurns, repeatWithin, bind, EStateM.bind]
  split
  · rename_i decision after taken
    cases decision with
    | done result => rfl
    | again next => exact repeatWithin_congr consumes (consumes _ _ _ _ taken) (Nat.lt_succ_self _)
  · rfl

end Reading

end SqlSharding
