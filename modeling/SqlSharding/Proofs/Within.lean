import SqlSharding.Proofs.Faults
import SqlSharding.Proofs.Outline.Target

/-!
# Within a statement

A semicolon outside of groups ends a statement. What is put together from steps that are not over any
item whatever passes no such semicolon, and it does not when it fails either: a failed reading leaves the
cursor behind the tokens that it has passed.
-/

namespace SqlSharding

open Reading (depthAfter)

/-- No token outside of groups ends a statement. -/
def WithinStatement (tokens : List Token) : Prop :=
  ∀ token ∈ ungrouped 0 tokens, token.kind ≠ .symbol .semicolon

section WithinStatement

variable {tokens taken later : List Token} {token : Token} {depth deeper : Nat}

/-- The deeper a token stands, the deeper is what follows it. -/
theorem depthAfter_mono (shallower : depth ≤ deeper) (kind : Kind) :
    depthAfter depth kind ≤ depthAfter deeper kind := by
  unfold depthAfter
  split <;> omega

/-- With fewer groups open before them, no fewer of the tokens are outside of groups. -/
theorem mem_ungrouped_of_le (shallower : depth ≤ deeper) (isIn : token ∈ ungrouped deeper tokens) :
    token ∈ ungrouped depth tokens := by
  induction tokens generalizing depth deeper with
  | nil => exact isIn
  | cons first rest inductionHypothesis =>
    have later := @inductionHypothesis _ _ (depthAfter_mono shallower first.kind)
    simp only [ungrouped] at isIn ⊢
    by_cases outside : deeper = 0
    · obtain rfl : depth = 0 := by omega
      rw [if_pos outside, List.mem_cons] at isIn
      rw [if_pos rfl, List.mem_cons]
      exact isIn.imp_right later
    · rw [if_neg outside] at isIn
      split
      · exact List.mem_cons_of_mem _ (later isIn)
      · exact later isIn

/-- No tokens end no statement. -/
theorem withinStatement_nil : WithinStatement [] := nofun

/-- A token other than a semicolon ends no statement. -/
theorem withinStatement_token (noEnd : token.kind ≠ .symbol .semicolon) : WithinStatement [token] := by
  simpa [WithinStatement, ungrouped] using noEnd

/-- Two pieces that end no statement make one. -/
theorem WithinStatement.append (left : WithinStatement taken) (right : WithinStatement later) :
    WithinStatement (taken ++ later) := by
  intro token isIn
  rw [ungrouped_append, List.mem_append] at isIn
  rcases isIn with isIn | isIn
  · exact left token isIn
  · exact right token (mem_ungrouped_of_le (Nat.zero_le _) isIn)

/-- Inside of a group nothing is outside of groups, up to the parenthesis that closes it. -/
theorem ClosesFrom.ungrouped_eq (closes : ClosesFrom depth tokens) (opened : depth ≠ 0) :
    ungrouped depth tokens = [] := by
  induction tokens generalizing depth with
  | nil => rfl
  | cons token rest inductionHypothesis =>
    rw [ungrouped, if_neg opened]
    obtain ⟨-, closes⟩ := closes
    split at closes
    · rw [closes, ungrouped]
    · rename_i stillOpen
      exact inductionHypothesis closes stillOpen

/-- An opening parenthesis with tokens behind it that are all in groups. -/
theorem withinStatement_of_opening (opens : token.kind = .symbol .leftParen)
    (inGroup : ungrouped 1 tokens = []) : WithinStatement (token :: tokens) := by
  have behind : depthAfter 0 token.kind = 1 := by rw [opens]; rfl
  intro found isIn
  rw [ungrouped, if_pos rfl, behind, inGroup, List.mem_singleton] at isIn
  rw [isIn, opens]
  decide

/-- Where no group opens, none is open. -/
theorem openBehind_of_no_group {tokens : List Token}
    (noOpen : ∀ token ∈ tokens, token.kind ≠ .symbol .leftParen) : openBehind 0 tokens = 0 := by
  induction tokens with
  | nil => rfl
  | cons token tokens inductionHypothesis =>
    rw [List.forall_mem_cons] at noOpen
    rw [openBehind, List.foldl_cons, depthAfter_of_ne noOpen.1]
    exact inductionHypothesis noOpen.2

end WithinStatement

namespace Cursor

/-- The second cursor stands behind the tokens, which begin under the first. A move that met a quote
which is not closed has left the end of the text ahead. -/
inductive Reaches : Cursor → List Token → Cursor → Prop
  | passes {before after : Cursor} {taken : List Token} (passed : before.Passes taken after) :
      Reaches before taken after
  | unclosed {before middle : Cursor} {taken : List Token} {fault : IllegalInput} {last : Token}
      (passed : before.Passes taken middle) (ahead : middle.ahead = ⟨[], .unclosed fault last⟩) :
      Reaches before taken { middle with ahead := ⟨[last], .finished⟩ }

variable {start before middle after : Cursor} {taken later : List Token}

/-- What is reached behind tokens that are passed is reached. -/
theorem Passes.reaches (left : before.Passes taken middle) (right : middle.Reaches later after) :
    before.Reaches (taken ++ later) after := by
  cases right with
  | passes passed => exact .passes (left.trans passed)
  | unclosed passed ahead => exact .unclosed (left.trans passed) ahead

/-- No end of the text is left behind. -/
theorem Reaches.ne_end (settled : before.Settled) (reaches : before.Reaches taken after) :
    ∀ token ∈ taken, token.kind ≠ .endOfText := by
  cases reaches with
  | passes passed => exact passed.ne_end settled
  | unclosed passed ahead => exact passed.ne_end settled

/-- The second cursor is in the text, in the statement that the first is in. -/
structure StaysWithin (start cursor : Cursor) : Prop where
  settled : cursor.Settled
  passed : ∃ taken, start.Passes taken cursor ∧ WithinStatement taken

/-- The second cursor has been left in the statement that the first is in. -/
def LeftWithin (start cursor : Cursor) : Prop :=
  ∃ taken, start.Reaches taken cursor ∧ WithinStatement taken

/-- A settled cursor is in its own statement. -/
theorem Settled.staysWithin (settled : start.Settled) : start.StaysWithin start :=
  ⟨settled, [], .refl start, withinStatement_nil⟩

/-- A cursor that stays within a statement has been left there. -/
theorem StaysWithin.leftWithin (stays : start.StaysWithin before) : start.LeftWithin before := by
  obtain ⟨taken, passed, within⟩ := stays.passed
  exact ⟨taken, .passes passed, within⟩

/-- A cursor stays within a statement behind tokens that do not end it. -/
theorem StaysWithin.passes (stays : start.StaysWithin before) (passed : before.Passes taken after)
    (within : WithinStatement taken) : start.StaysWithin after := by
  obtain ⟨front, toBefore, withinFront⟩ := stays.passed
  exact ⟨passed.settled stays.settled, _, toBefore.trans passed, withinFront.append within⟩

/-- A cursor is left within a statement behind tokens that do not end it. -/
theorem StaysWithin.reaches (stays : start.StaysWithin before) (reaches : before.Reaches taken after)
    (within : WithinStatement taken) : start.LeftWithin after := by
  obtain ⟨front, toBefore, withinFront⟩ := stays.passed
  exact ⟨_, toBefore.reaches reaches, withinFront.append within⟩

end Cursor

namespace Reading

open Cursor

variable {α β : Type} {start before after : Cursor} {reading : Reading α} {kinds : List Kind}
  {cause : ParseError}

/-- A move that fails leaves the cursor where it is. -/
theorem reaches_of_advance_error (failed : advance before = .error cause after) :
    before.Reaches [] after := by
  obtain ⟨dialect, text, current, ⟨tokens, ending⟩⟩ := before
  cases tokens with
  | cons token later => cases failed
  | nil =>
    cases ending with
    | finished => cases failed
    | blocked fault =>
      cases failed
      exact .passes (.refl _)
    | unclosed fault last =>
      cases failed
      exact .unclosed (.refl _) rfl

/-- Whether the reading succeeds or fails, it stays within the statement. -/
abbrev KeepsWithin (start : Cursor) (reading : Reading α) : Prop :=
  Maintains start.StaysWithin (fun _ => start.LeftWithin) reading

/-- Run from one cursor, the reading stays within the statement. -/
structure StaysWithinFrom (start before : Cursor) (reading : Reading α) : Prop where
  passes : ∀ {value after}, reading before = .ok value after → start.StaysWithin after
  fails : ∀ {cause after}, reading before = .error cause after → start.LeftWithin after

namespace StaysWithinFrom

/-- A reading that stays within any statement does so from a cursor that is in one. -/
theorem of_keeps (keeps : KeepsWithin start reading) (stays : start.StaysWithin before) :
    StaysWithinFrom start before reading :=
  ⟨keeps.passes stays, keeps.fails stays⟩

/-- Readings that come to the same from a cursor stay alike within a statement. -/
theorem congr {other : Reading α} (same : reading before = other before)
    (stays : StaysWithinFrom start before other) : StaysWithinFrom start before reading :=
  ⟨fun passed => stays.passes (same ▸ passed), fun failed => stays.fails (same ▸ failed)⟩

/-- A sequence stays within a statement if its second part does behind the first. -/
theorem bind {next : α → Reading β} (starts : StaysWithinFrom start before reading)
    (goesOn : ∀ value middle, reading before = .ok value middle → start.StaysWithin middle →
      StaysWithinFrom start middle (next value)) :
    StaysWithinFrom start before (reading >>= next) where
  passes passed := by
    obtain ⟨value, middle, first, rest⟩ := bind_ok_iff.mp passed
    exact (goesOn value middle first (starts.passes first)).passes rest
  fails failed := by
    rcases bind_error_iff.mp failed with failed | ⟨value, middle, first, failed⟩
    · exact starts.fails failed
    · exact (goesOn value middle first (starts.passes first)).fails failed

/-- Another answer leaves the cursor where it was left. -/
theorem thenReturn (starts : StaysWithinFrom start before reading) (answer : α → β) :
    StaysWithinFrom start before (reading >>= fun value => pure (answer value)) :=
  starts.bind fun _ _ _ stays => .of_keeps (.pure _) stays

/-- Leaving out its value, a reading stays within a statement. -/
theorem discard (starts : StaysWithinFrom start before reading) :
    StaysWithinFrom start before (discard reading) where
  passes passed := by
    obtain ⟨_, passed⟩ := discard_ok_iff.mp passed
    exact starts.passes passed
  fails failed := starts.fails (discard_error_iff.mp failed)

end StaysWithinFrom

/-- A token other than a semicolon is moved past. -/
theorem advance_within (stays : start.StaysWithin before)
    (noEnd : before.current.kind ≠ .symbol .semicolon) : StaysWithinFrom start before advance where
  passes moved := by
    rcases (advance_ok_iff stays.settled).mp moved with passed | ⟨-, rfl⟩
    · exact stays.passes passed (withinStatement_token noEnd)
    · exact stays
  fails failed := stays.reaches (reaches_of_advance_error failed) withinStatement_nil

/-- A value stays within a statement. -/
theorem pure_within (stays : start.StaysWithin before) (value : α) :
    StaysWithinFrom start before (pure value) :=
  .of_keeps (.pure value) stays

/-- What stays within the statement wherever it is run from. -/
theorem keepsWithin_of_from
    (each : ∀ before, start.StaysWithin before → StaysWithinFrom start before reading) :
    KeepsWithin start reading where
  passes stays := (each _ stays).passes
  fails stays := (each _ stays).fails

/-- Skipping a token stays within a statement, if a semicolon is not skipped. -/
theorem keepsWithin_skipIf (noEnd : .symbol .semicolon ∉ kinds) :
    KeepsWithin start (skipIf kinds) := by
  refine keepsWithin_of_from fun before stays => ?_
  by_cases onKind : before.isOn kinds = true
  · have same : skipIf kinds before = (do
        advance
        return true) before := by
      rw [skipIf, isOn_bind, if_pos onKind]
    have moves := advance_within stays fun isEnd => noEnd (isEnd ▸ isOn_iff.mp onKind)
    exact .congr same (moves.thenReturn _)
  · have same : skipIf kinds before = (pure false : Reading Bool) before := by
      rw [skipIf, isOn_bind, if_neg onKind]
    exact .congr same (pure_within stays false)

/-- Demanding a token stays within a statement, if it is no semicolon. -/
theorem keepsWithin_accept {expected : Kind} (noEnd : expected ≠ .symbol .semicolon) :
    KeepsWithin start (accept expected) := by
  refine keepsWithin_of_from fun before stays => ?_
  by_cases onExpected : before.current.kind = expected
  · have same : accept expected before = (do
        advance
        return before.current) before := by
      rw [accept, current_bind, if_pos onExpected]
    have moves := advance_within stays (onExpected ▸ noEnd)
    exact .congr same (moves.thenReturn _)
  · refine ⟨fun passed => ?_, fun failed => ?_⟩
    · exact absurd (kind_of_discard_accept (discard_ok_iff.mpr ⟨_, passed⟩)) onExpected
    · obtain ⟨onExpected', -⟩ | ⟨-, -, rfl⟩ := accept_error_iff.mp failed
      · exact absurd onExpected' onExpected
      · exact stays.leftWithin

/-- What always fails stays within a statement. -/
theorem unexpected_within (stays : start.StaysWithin before) :
    StaysWithinFrom start before (unexpected : Reading α) where
  passes passed := by cases passed
  fails failed := by
    cases failed
    exact stays.leftWithin

/-- A part of a name stays within a statement. -/
theorem keepsWithin_namePart : KeepsWithin start namePart := by
  refine keepsWithin_of_from fun before stays => ?_
  by_cases isName : before.current.kind.isName = true
  · have same : namePart before = (do
        advance
        return before.current) before := by
      rw [namePart, current_bind, if_pos isName]
    have notEnd : before.current.kind ≠ .symbol .semicolon := by
      intro isEnd
      simp [isEnd, Kind.isName, Kind.isDialectKeyword] at isName
    have moves := advance_within stays notEnd
    exact .congr same (moves.thenReturn _)
  · have same : namePart before = (unexpected : Reading Token) before := by
      rw [namePart, current_bind, if_neg isName]
    exact .congr same (unexpected_within stays)

/-- A turn in a group that fails passes nothing. -/
theorem reaches_of_groupTurn_error {progress : GroupProgress}
    (failed : groupTurn progress before = .error cause after) : before.Reaches [] after := by
  rcases groupTurn_error_cases failed with ⟨-, -, rfl⟩ | failed
  · exact .passes (.refl _)
  · exact reaches_of_advance_error failed

/-- A group that cannot be passed is left inside of it. -/
theorem reaches_of_groupLoop_error {bound depth stop : Nat} (settled : before.Settled)
    (opened : depth ≠ 0)
    (failed : repeatWithin groupTurn bound ⟨depth, stop⟩ before = .error cause after) :
    ∃ taken, before.Reaches taken after ∧ ungrouped depth taken = [] := by
  induction bound generalizing before depth stop with
  | zero => cases failed
  | succ bound inductionHypothesis =>
    rw [repeatWithin] at failed
    rcases bind_error_iff.mp failed with failed | ⟨decision, middle, taken, failed⟩
    · exact ⟨[], reaches_of_groupTurn_error failed, rfl⟩
    · obtain ⟨-, passed, decides⟩ := (groupTurn_ok_iff settled _).mp taken
      split at decides
      · subst decides
        cases failed
      · rename_i stillOpen
        subst decides
        obtain ⟨later, reaches, inGroup⟩ :=
          inductionHypothesis (passed.settled settled) stillOpen failed
        refine ⟨_ :: later, passed.reaches reaches, ?_⟩
        rw [ungrouped, if_neg opened, inGroup]

/-- Skipping a group stays within a statement, whether or not the group is closed. -/
theorem keepsWithin_skipGroup : KeepsWithin start skipGroup where
  passes := by
    intro before text after stays passed
    have skipped := discard_ok_iff.mpr ⟨text, passed⟩
    rw [skipGroup_ok_iff stays.settled] at skipped
    split at skipped
    · rename_i onOpening
      obtain ⟨taken, passed, closes⟩ := skipped
      refine stays.passes passed ?_
      cases taken with
      | nil => exact closes.elim
      | cons opening inner =>
        rw [passed.current_eq] at onOpening
        obtain ⟨-, closes⟩ := closes
        rw [onOpening, depthAfter, if_neg (Nat.succ_ne_zero 0)] at closes
        exact withinStatement_of_opening onOpening (closes.ungrouped_eq (Nat.succ_ne_zero 0))
    · rw [skipped]
      exact stays
  fails := by
    intro before cause after stays failed
    rw [skipGroup, isOn_bind] at failed
    split at failed
    · rename_i onOpening
      have onOpening : before.current.kind = .symbol .leftParen := by
        simpa [isOn_iff] using onOpening
      have opened : depthAfter 0 before.current.kind = 1 := by rw [onOpening]; rfl
      rw [current_bind] at failed
      rcases bind_error_iff.mp failed with failed | ⟨_, _, -, failed⟩
      · rw [repeatTurns, repeatWithin] at failed
        rcases bind_error_iff.mp failed with failed | ⟨decision, middle, taken, failed⟩
        · exact stays.reaches (reaches_of_groupTurn_error failed) withinStatement_nil
        · obtain ⟨-, passed, rfl⟩ := (groupTurn_ok_iff stays.settled _).mp taken
          rw [opened, if_neg (Nat.succ_ne_zero 0)] at failed
          obtain ⟨inner, reaches, inGroup⟩ := reaches_of_groupLoop_error
            (passed.settled stays.settled) (Nat.succ_ne_zero 0) failed
          exact stays.reaches (passed.reaches reaches) (withinStatement_of_opening onOpening inGroup)
      · cases failed
    · cases failed

/-- An item is passed unless it is a semicolon. -/
theorem skipItem_within (stays : start.StaysWithin before)
    (noEnd : before.current.kind ≠ .symbol .semicolon) : StaysWithinFrom start before skipItem := by
  by_cases onOpening : before.isOn [.symbol .leftParen] = true
  · have same : skipItem before = (discard skipGroup) before := by
      rw [skipItem, isOn_bind, if_pos onOpening]
    exact .congr same (.discard (.of_keeps keepsWithin_skipGroup stays))
  · have same : skipItem before = advance before := by
      rw [skipItem, isOn_bind, if_neg onOpening]
    exact .congr same (advance_within stays noEnd)

/-- A turn over items stays within a statement, if a semicolon stops it. -/
theorem keepsWithin_itemTurn {stops : (afterDot : Bool) → Kind → Bool} {afterDot : Bool}
    (atEnd : stops afterDot (.symbol .semicolon) = true) :
    KeepsWithin start (itemTurn stops afterDot) := by
  refine keepsWithin_of_from fun before stays => ?_
  by_cases stopped : (before.current.kind = .endOfText || stops afterDot before.current.kind) = true
  · have same : itemTurn stops afterDot before =
        (pure (.done afterDot) : Reading (Turn Bool)) before := by
      rw [itemTurn, current_bind, if_pos stopped]
    exact .congr same (pure_within stays _)
  · have same : itemTurn stops afterDot before = (do
        skipItem
        return Turn.again (decide (before.current.kind = Kind.symbol .dot))) before := by
      rw [itemTurn, current_bind, if_neg stopped]
    have moves := skipItem_within stays fun isEnd => stopped (by simp [isEnd, atEnd])
    exact .congr same (moves.thenReturn _)

/-- What is put together from steps of which none is over any item whatever stays within the
statement. -/
theorem keepsWithin_of_steps (steps : Steps False reading) : KeepsWithin start reading := by
  refine .of_composed (fun isStep => ?_) steps
  cases isStep with
  | asks answer =>
    refine ⟨fun stays passed => ?_, fun _ failed => (by cases failed)⟩
    cases passed
    exact stays
  | refuse kinds =>
    refine ⟨fun stays passed => (refuse_ok_iff.mp passed).2 ▸ stays, fun stays failed => ?_⟩
    exact (refuse_error_iff.mp failed).2.2 ▸ stays.leftWithin
  | unexpected => exact keepsWithin_of_from fun _ => unexpected_within
  | unsupported family =>
    refine ⟨fun _ passed => (by cases passed), fun stays failed => ?_⟩
    cases failed
    exact stays.leftWithin
  | skipIf inner => exact keepsWithin_skipIf inner.2
  | accept inner => exact keepsWithin_accept fun isEnd => inner.2 (by simp [isEnd])
  | namePart => exact keepsWithin_namePart
  | skipGroup => exact keepsWithin_skipGroup
  | itemTurn afterDot atEnd => exact keepsWithin_itemTurn atEnd
  | skipItem allowed => exact allowed.elim

end Reading

end SqlSharding
