import SqlSharding.Proofs.Within
import SqlSharding.Proofs.Insertion

/-!
# Statements read within a statement

Behind its opening every statement is read within the statement, and the columns of an insertion are
written in the tokens that are passed.
-/

namespace SqlSharding

namespace Reading

open Cursor

variable {α : Type}

/-- Put together from readings that stay within any statement. -/
abbrev Guarded (reading : Reading α) : Prop :=
  Composed (fun _ reading => ∀ start, KeepsWithin start reading) reading

/-- What is put together from readings that stay within a statement does so itself. -/
theorem Guarded.keepsWithin {reading : Reading α} (guarded : Guarded reading) (start : Cursor) :
    KeepsWithin start reading :=
  .of_composed (fun each => each start) guarded

/-- A turn of the skipping to the end of the statement passes no semicolon. -/
theorem keepsWithin_untilTurn (start : Cursor) :
    KeepsWithin start (untilTurn [.symbol .semicolon] ()) := by
  refine keepsWithin_of_from fun before stays => ?_
  by_cases stopped : before.isAtEnd = true ∨ before.isOn [.symbol .semicolon] = true
  · have same : untilTurn [.symbol .semicolon] () before =
        (pure (.done ()) : Reading (Turn Unit)) before := by
      rw [untilTurn_eq, if_pos stopped]
      rfl
    exact .congr same (pure_within stays _)
  · have same : untilTurn [.symbol .semicolon] () before = (do
        advance
        return Turn.again ()) before := by
      rw [untilTurn_eq, if_neg stopped]
    have moves := advance_within stays fun isEnd => stopped (.inr (by simp [Cursor.isOn_iff, isEnd]))
    exact .congr same (moves.thenReturn _)

/-- What is put together from parts stays within a statement. -/
theorem guarded_of_parts {reading : Reading α} (parts : Parts reading) : Guarded reading :=
  parts.trans fun isPart => match isPart with
    | .step isStep => .basic fun _ => keepsWithin_of_steps (.basic isStep)
    | .accept noEnd _ => .basic fun _ => keepsWithin_accept noEnd
    | .untilSemicolon => .basic keepsWithin_untilTurn

/-- What is read in steps stays within a statement. -/
theorem guarded_of_steps {reading : Reading α} (steps : Steps False reading) : Guarded reading :=
  guarded_of_parts (parts_of_steps steps)

/-- Demanding a token other than a semicolon stays within a statement. -/
theorem guarded_accept {expected : Kind} (noEnd : expected ≠ .symbol .semicolon) :
    Guarded (discard <| accept expected) :=
  .discard (.basic fun _ => keepsWithin_accept noEnd)

end Reading

/-- Every column is written by one of the tokens. -/
def WrittenIn (tokens : List Token) (columns : List String) : Prop :=
  ∀ column ∈ columns, ∃ token ∈ tokens, column = unquote token.text

/-- The columns are written in tokens between the two cursors. -/
structure Cursor.HasPassed (start : Cursor) (columns : List String) (cursor : Cursor) : Prop where
  settled : cursor.Settled
  passed : ∃ taken, start.Passes taken cursor ∧ WrittenIn taken columns

namespace Reading

variable {α : Type} {reading : Reading α} {start before after : Cursor} {columns found : List String}

/-- Behind columns that are written, a reading that stays within the statement leaves them so. -/
theorem HasPassed.guarded {value : α} (hasPassed : start.HasPassed columns before)
    (guarded : Guarded reading) (read : reading before = .ok value after) :
    start.HasPassed columns after := by
  obtain ⟨taken, toBefore, written⟩ := hasPassed.passed
  obtain ⟨settled, later, toAfter, -⟩ :=
    (guarded.keepsWithin before).passes hasPassed.settled.staysWithin read
  refine ⟨settled, _, toBefore.trans toAfter, fun column isColumn => ?_⟩
  obtain ⟨token, isIn, isWritten⟩ := written column isColumn
  exact ⟨token, List.mem_append_left _ isIn, isWritten⟩

/-- The reading passes tokens in which the column that it gives is written. -/
def Writes (item : Reading String) : Prop :=
  ∀ start found before column after, Cursor.HasPassed start found before →
    item before = .ok column after → start.HasPassed (found ++ [column]) after

/-- The name of a column is written in the tokens that it passes. -/
theorem writes_columnName : Writes columnName := by
  intro start found before column after hasPassed read
  obtain ⟨taken, toBefore, written⟩ := hasPassed.passed
  obtain ⟨name, last, toAfter, isName, -, rfl⟩ := (columnName_ok_iff hasPassed.settled).mp read
  refine ⟨toAfter.settled hasPassed.settled, _, toBefore.trans toAfter, fun column isColumn => ?_⟩
  rw [List.mem_append, List.mem_singleton] at isColumn
  rcases isColumn with isColumn | rfl
  · obtain ⟨token, isIn, isWritten⟩ := written column isColumn
    exact ⟨token, List.mem_append_left _ isIn, isWritten⟩
  · exact ⟨last, List.mem_append_right _ isName.last_mem, rfl⟩

/-- The column of an assignment is written in the tokens that it passes. -/
theorem writes_assignment : Writes assignment := by
  intro start found before column after hasPassed read
  obtain ⟨column, atEquals, named, read⟩ := bind_ok_iff.mp read
  obtain ⟨_, atValue, equals, read⟩ := bind_ok_iff.mp read
  obtain ⟨_, _, skipped, read⟩ := bind_ok_iff.mp read
  obtain ⟨rfl, rfl⟩ := pure_ok_iff.mp read
  have behindName := writes_columnName _ _ _ _ _ hasPassed named
  have behindEquals := HasPassed.guarded behindName (guarded_accept (by decide)) equals
  exact HasPassed.guarded behindEquals (guarded_of_steps (steps_skipItems (by decide))) skipped

/-- Further columns are written in the tokens of the list, each behind a comma. -/
theorem HasPassed.further {item : Reading String} (writes : Writes item) (proceeds : Proceeds item)
    (hasPassed : start.HasPassed found before)
    (read : repeatTurns (itemAfter (.symbol .comma) item) found before = .ok columns after) :
    start.HasPassed columns after := by
  replace read := turns_of_repeatTurns (consumes_itemAfter (by decide) proceeds) read
  induction read with
  | last done =>
    obtain ⟨skipped, rfl⟩ := turnAfter_done_iff.mp done
    exact HasPassed.guarded hasPassed (guarded_of_steps (steps_skipIf (by decide))) skipped
  | again taken _ inductionHypothesis =>
    obtain ⟨middle, skipped, read⟩ := turnAfter_again_iff.mp taken
    obtain ⟨column, _, read, added⟩ := bind_ok_iff.mp read
    obtain ⟨rfl, rfl⟩ := pure_ok_iff.mp added
    have atItem := HasPassed.guarded hasPassed (guarded_of_steps (steps_skipIf (by decide))) skipped
    exact inductionHypothesis (writes _ _ _ _ _ atItem read)

/-- The columns of an insertion are written in the tokens that are passed. -/
theorem hasPassed_insertColumns {grammar : Grammar} (nothing : start.HasPassed [] before)
    (read : insertColumns grammar before = .ok columns after) : start.HasPassed columns after := by
  rw [insertColumns, isOn_bind] at read
  split at read
  · rw [columnList_eq] at read
    obtain ⟨_, behindOpening, opened, read⟩ := bind_ok_iff.mp read
    obtain ⟨first, behindFirst, named, read⟩ := bind_ok_iff.mp read
    obtain ⟨all, behindAll, listed, read⟩ := bind_ok_iff.mp read
    obtain ⟨_, behindClosing, closed, read⟩ := bind_ok_iff.mp read
    obtain ⟨rfl, rfl⟩ := pure_ok_iff.mp read
    have atFirst := HasPassed.guarded nothing (guarded_accept (by decide)) opened
    have atMore := writes_columnName _ _ _ _ _ atFirst named
    have atClosing := HasPassed.further writes_columnName proceeds_columnName atMore listed
    exact HasPassed.guarded atClosing (guarded_accept (by decide)) closed
  · split at read
    · obtain ⟨onSet, middle, skipped, read⟩ := bind_ok_iff.mp read
      have atFirst := HasPassed.guarded nothing (guarded_of_steps (steps_skipIf (by decide))) skipped
      cases onSet with
      | true =>
        rw [if_pos rfl, assignedColumns_eq] at read
        obtain ⟨first, behindFirst, named, read⟩ := bind_ok_iff.mp read
        have atMore := writes_assignment _ _ _ _ _ atFirst named
        exact HasPassed.further writes_assignment proceeds_assignment atMore read
      | false =>
        obtain ⟨rfl, rfl⟩ := pure_ok_iff.mp read
        exact atFirst
    · obtain ⟨rfl, rfl⟩ := pure_ok_iff.mp read
      exact nothing

end Reading

end SqlSharding
