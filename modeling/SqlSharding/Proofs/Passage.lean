import SqlSharding.Proofs.Lexing.Tape
import SqlSharding.Proofs.Progress

/-!
# What a reading passes

`Cursor.Passes` relates a cursor, some tokens and the cursor after these tokens. The basic readings
are described by it exactly: each succeeds just when the tokens from the cursor on begin in the way
that its theorem says. A text without a fault ends with an end token, on which a cursor rests
(`Cursor.Settled`).
-/

namespace SqlSharding

namespace Cursor

/-- The tokens from the cursor on. -/
def tokens (cursor : Cursor) : List Token :=
  cursor.current :: cursor.ahead.tokens

/-- The second cursor stands in the same text, just behind the tokens, which begin under the first. -/
structure Passes (before : Cursor) (taken : List Token) (after : Cursor) : Prop where
  tokens : before.tokens = taken ++ after.tokens
  dialect : after.dialect = before.dialect
  text : after.text = before.text
  ending : after.ahead.ending = before.ahead.ending

/-- The cursor is in its text: without a fault to come the end token is the last token, and an end
token stands nowhere else. -/
structure Settled (cursor : Cursor) : Prop where
  last : cursor.ahead.ending = .finished → ∃ place, cursor.tokens.getLast? = some (.endAt place)
  nothingAfter : ∀ first token later, cursor.tokens = first ++ token :: later →
    token.kind = .endOfText → later = [] ∧ cursor.ahead.ending = .finished

variable {before middle after other : Cursor} {taken first second : List Token}

/-- A cursor passes no tokens to where it is. -/
theorem Passes.refl (cursor : Cursor) : cursor.Passes [] cursor :=
  ⟨rfl, rfl, rfl, rfl⟩

/-- What is passed in two parts is passed. -/
theorem Passes.trans (left : before.Passes first middle) (right : middle.Passes second after) :
    before.Passes (first ++ second) after where
  tokens := by rw [left.tokens, right.tokens, List.append_assoc]
  dialect := right.dialect.trans left.dialect
  text := right.text.trans left.text
  ending := right.ending.trans left.ending

/-- A cursor is known by its text and the tokens from it on. -/
theorem Passes.unique (left : before.Passes taken after) (right : before.Passes taken other) :
    after = other := by
  have same : after.tokens = other.tokens :=
    List.append_cancel_left (left.tokens.symm.trans right.tokens)
  obtain ⟨dialect, text, current, ⟨later, ending⟩⟩ := after
  obtain ⟨dialect', text', current', ⟨later', ending'⟩⟩ := other
  obtain ⟨rfl, rfl⟩ : current = current' ∧ later = later' := by simpa [Cursor.tokens] using same
  obtain rfl : dialect = dialect' := left.dialect.trans right.dialect.symm
  obtain rfl : text = text' := left.text.trans right.text.symm
  obtain rfl : ending = ending' := left.ending.trans right.ending.symm
  rfl

/-- What has been passed is known by where it has led to. -/
theorem Passes.taken_unique (left : before.Passes first after) (right : before.Passes second after) :
    first = second :=
  List.append_cancel_right (left.tokens.symm.trans right.tokens)

/-- Only the cursor itself is reached without a token. -/
theorem passes_nil_iff : before.Passes [] after ↔ after = before := by
  constructor
  · intro passed
    exact passed.unique (.refl before)
  · rintro rfl
    exact .refl _

/-- The cursor behind some of its tokens, if there is a token to stand on. -/
theorem exists_passes {token : Token} {later : List Token}
    (tokens : before.tokens = taken ++ token :: later) :
    ∃ after, before.Passes taken after ∧ after.current = token ∧ after.ahead.tokens = later :=
  ⟨⟨before.dialect, before.text, token, ⟨later, before.ahead.ending⟩⟩,
    ⟨tokens, rfl, rfl, rfl⟩, rfl, rfl⟩

/-- Any tokens may stand before a cursor. -/
theorem exists_passes_to (taken : List Token) (after : Cursor) :
    ∃ before : Cursor, before.Passes taken after := by
  cases taken with
  | nil => exact ⟨after, .refl after⟩
  | cons token rest =>
    exact ⟨⟨after.dialect, after.text, token, ⟨rest ++ after.tokens, after.ahead.ending⟩⟩,
      rfl, rfl, rfl, rfl⟩

/-- What is passed in two parts has a cursor in between. -/
theorem Passes.split (passed : before.Passes (first ++ second) after) :
    ∃ middle, before.Passes first middle ∧ middle.Passes second after := by
  have whole : before.tokens = first ++ (second ++ after.tokens) := by
    rw [passed.tokens, List.append_assoc]
  obtain ⟨token, later, found⟩ : ∃ token later, second ++ after.tokens = token :: later := by
    cases second <;> simp [Cursor.tokens]
  obtain ⟨middle, toMiddle, rfl, rfl⟩ := exists_passes (whole.trans (by rw [found]))
  refine ⟨middle, toMiddle, found.symm, ?_, ?_, ?_⟩
  · exact passed.dialect.trans toMiddle.dialect.symm
  · exact passed.text.trans toMiddle.text.symm
  · exact passed.ending.trans toMiddle.ending.symm

/-- The first token alone. -/
theorem Passes.uncons {token : Token} (passed : before.Passes (token :: taken) after) :
    ∃ middle, before.Passes [token] middle ∧ middle.Passes taken after := by
  rw [← List.singleton_append] at passed
  exact passed.split

/-- The first token that is passed is the one under the cursor. -/
theorem Passes.current_eq {token : Token} (passed : before.Passes (token :: taken) after) :
    before.current = token := by
  have tokens := passed.tokens
  simp only [Cursor.tokens, List.cons_append, List.cons.injEq] at tokens
  exact tokens.1

/-- A cursor stays settled behind the tokens it passes. -/
theorem Passes.settled (passed : before.Passes taken after) (settled : before.Settled) :
    after.Settled where
  last finished := by
    obtain ⟨place, last⟩ := settled.last (passed.ending.symm.trans finished)
    refine ⟨place, ?_⟩
    rw [passed.tokens, List.getLast?_append] at last
    simpa [Cursor.tokens] using last
  nothingAfter first token later tokens isEnd := by
    rw [passed.ending]
    refine settled.nothingAfter (taken ++ first) token later ?_ isEnd
    rw [passed.tokens, tokens, List.append_assoc]

/-- A token that is passed is not the end. -/
theorem Passes.ne_end (passed : before.Passes taken after) (settled : before.Settled) :
    ∀ token ∈ taken, token.kind ≠ .endOfText := by
  intro token isTaken isEnd
  obtain ⟨first, rest, rfl⟩ := List.append_of_mem isTaken
  have whole : before.tokens = first ++ token :: (rest ++ after.tokens) := by
    rw [passed.tokens]
    simp
  obtain ⟨nothing, -⟩ := settled.nothingAfter _ _ _ whole isEnd
  simp [Cursor.tokens] at nothing

/-- A cursor is in its text if it is behind tokens none of which is the end. -/
theorem Passes.settled_before (passed : before.Passes taken after) (settled : after.Settled)
    (noEnd : ∀ token ∈ taken, token.kind ≠ .endOfText) : before.Settled where
  last finished := by
    obtain ⟨place, last⟩ := settled.last (passed.ending.trans finished)
    refine ⟨place, ?_⟩
    rw [passed.tokens, List.getLast?_append, last]
    rfl
  nothingAfter first token later tokens isEnd := by
    rw [passed.tokens] at tokens
    rcases List.append_eq_append_iff.mp tokens with ⟨more, rfl, whole⟩ | ⟨more, rfl, whole⟩
    · rw [← passed.ending]
      exact settled.nothingAfter more token later whole isEnd
    · cases more with
      | nil =>
        rw [← passed.ending]
        exact settled.nothingAfter [] token later whole.symm isEnd
      | cons other more =>
        obtain ⟨rfl, -⟩ := List.cons.inj whole
        exact absurd isEnd (noEnd _ (by simp))

/-- A cursor without tokens before it rests on the end token. -/
theorem Settled.current_of_ahead (settled : before.Settled) (ahead : before.ahead = ⟨[], .finished⟩) :
    ∃ place, before.current = .endAt place := by
  obtain ⟨place, last⟩ := settled.last (by rw [ahead])
  exact ⟨place, by simpa [Cursor.tokens, ahead] using last⟩

/-- On the end token there is nothing ahead. -/
theorem Settled.ahead_of_end (settled : before.Settled) (atEnd : before.current.kind = .endOfText) :
    before.ahead = ⟨[], .finished⟩ := by
  obtain ⟨nothing, finished⟩ := settled.nothingAfter [] before.current before.ahead.tokens rfl atEnd
  exact Tape.mk.injEq .. ▸ ⟨nothing, finished⟩

end Cursor

namespace Reading

open Cursor

variable {α : Type} {before after : Cursor} {kinds : List Kind}

/-- A move passes a token if there is one behind it to stand on. -/
theorem advance_of_passes {token : Token} (passed : before.Passes [token] after) :
    advance before = .ok () after := by
  obtain ⟨dialect, text, current, ⟨later, ending⟩⟩ := before
  have tokens := passed.tokens
  obtain ⟨rfl, rfl⟩ : current = token ∧ later = after.tokens := by
    simpa [Cursor.tokens] using tokens
  have landed : after = ⟨dialect, text, after.current, ⟨after.ahead.tokens, ending⟩⟩ :=
    passed.unique ⟨rfl, rfl, rfl, rfl⟩
  simp only [advance, Cursor.tokens, EStateM.Result.ok.injEq, true_and]
  exact landed.symm

/-- A move passes the token under the cursor, or the cursor rests on the last token. -/
theorem advance_ok_iff (settled : before.Settled) :
    advance before = .ok () after ↔
      before.Passes [before.current] after ∨
        before.ahead = ⟨[], .finished⟩ ∧ after = before := by
  constructor
  · intro moved
    obtain ⟨dialect, text, current, ⟨tokens, ending⟩⟩ := before
    cases tokens with
    | cons token later =>
      simp only [advance, EStateM.Result.ok.injEq, true_and] at moved
      exact .inl (moved ▸ ⟨rfl, rfl, rfl, rfl⟩)
    | nil =>
      cases ending with
      | finished =>
        obtain ⟨place, rfl⟩ := settled.current_of_ahead rfl
        simp only [advance, EStateM.Result.ok.injEq, true_and] at moved
        exact .inr ⟨rfl, moved.symm⟩
      | blocked fault => simp [advance] at moved
      | unclosed fault last => simp [advance] at moved
  · rintro (passed | ⟨ahead, rfl⟩)
    · exact advance_of_passes passed
    · obtain ⟨place, ended⟩ := settled.current_of_ahead ahead
      obtain ⟨dialect, text, current, tape⟩ := after
      obtain rfl : tape = ⟨[], .finished⟩ := ahead
      obtain rfl : current = .endAt place := ended
      rfl

/-- A move from a token other than the end passes it. -/
theorem advance_ok_iff_of_ne (settled : before.Settled) (notEnd : before.current.kind ≠ .endOfText) :
    advance before = .ok () after ↔ before.Passes [before.current] after := by
  rw [advance_ok_iff settled, or_iff_left]
  rintro ⟨ahead, -⟩
  obtain ⟨place, ended⟩ := settled.current_of_ahead ahead
  exact notEnd (by rw [ended]; rfl)

/-- A token is skipped exactly if it has one of the kinds, and otherwise nothing is passed. -/
theorem skipIf_ok_iff (settled : before.Settled) (noEnd : .endOfText ∉ kinds) {skipped : Bool} :
    skipIf kinds before = .ok skipped after ↔
      skipped = true ∧ before.current.kind ∈ kinds ∧ before.Passes [before.current] after ∨
        skipped = false ∧ before.current.kind ∉ kinds ∧ after = before := by
  rw [skipIf, isOn_bind]
  by_cases onKind : before.current.kind ∈ kinds
  · have notEnd : before.current.kind ≠ .endOfText := fun ended => noEnd (ended ▸ onKind)
    rw [if_pos (isOn_iff.mpr onKind), bind_ok_iff]
    simp only [advance_ok_iff_of_ne settled notEnd, pure_ok_iff]
    constructor
    · rintro ⟨_, middle, passed, rfl, rfl⟩
      exact .inl ⟨rfl, onKind, passed⟩
    · rintro (⟨rfl, -, passed⟩ | ⟨-, notOn, -⟩)
      · exact ⟨(), after, passed, rfl, rfl⟩
      · exact absurd onKind notOn
  · rw [if_neg (fun on => onKind (isOn_iff.mp on)), pure_ok_iff]
    constructor
    · rintro ⟨rfl, rfl⟩
      exact .inr ⟨rfl, onKind, rfl⟩
    · rintro (⟨-, on, -⟩ | ⟨rfl, -, rfl⟩)
      · exact absurd on onKind
      · exact ⟨rfl, rfl⟩

/-- It is told that a token was skipped exactly where one of the kinds has been passed. -/
theorem skipIf_true_iff (settled : before.Settled) (noEnd : .endOfText ∉ kinds) :
    skipIf kinds before = .ok true after ↔
      before.current.kind ∈ kinds ∧ before.Passes [before.current] after := by
  simp [skipIf_ok_iff settled noEnd]

/-- It is told that no token was skipped exactly where none of the kinds stands. -/
theorem skipIf_false_iff (settled : before.Settled) (noEnd : .endOfText ∉ kinds) :
    skipIf kinds before = .ok false after ↔ before.current.kind ∉ kinds ∧ after = before := by
  simp [skipIf_ok_iff settled noEnd]

/-- A token of one of the kinds is skipped. -/
theorem skipIf_of_passes {token : Token} (settled : before.Settled)
    (noEnd : .endOfText ∉ kinds) (onKind : token.kind ∈ kinds) (passed : before.Passes [token] after) :
    skipIf kinds before = .ok true after := by
  rw [skipIf_true_iff settled noEnd, passed.current_eq]
  exact ⟨onKind, passed⟩

/-- A token of none of the kinds is not skipped. -/
theorem skipIf_of_not_mem (settled : before.Settled)
    (noEnd : .endOfText ∉ kinds) (notOn : before.current.kind ∉ kinds) :
    skipIf kinds before = .ok false before :=
  (skipIf_false_iff settled noEnd).mpr ⟨notOn, rfl⟩

/-- A token is accepted exactly if it is of the expected kind, and it is passed. -/
theorem accept_ok_iff (settled : before.Settled) {expected : Kind} (notEnd : expected ≠ .endOfText)
    {token : Token} :
    accept expected before = .ok token after ↔
      token = before.current ∧ token.kind = expected ∧ before.Passes [token] after := by
  rw [accept, current_bind]
  split
  · rename_i isExpected
    rw [bind_ok_iff]
    simp only [advance_ok_iff_of_ne settled (isExpected ▸ notEnd), pure_ok_iff]
    constructor
    · rintro ⟨_, middle, passed, rfl, rfl⟩
      exact ⟨rfl, isExpected, passed⟩
    · rintro ⟨rfl, -, passed⟩
      exact ⟨(), after, passed, rfl, rfl⟩
  · rename_i isOther
    refine iff_of_false throw_not_ok ?_
    rintro ⟨rfl, isExpected, -⟩
    exact isOther isExpected

/-- A token of the expected kind is accepted. -/
theorem accept_of_passes {expected : Kind} {token : Token} (settled : before.Settled)
    (notEnd : expected ≠ .endOfText) (isExpected : token.kind = expected)
    (passed : before.Passes [token] after) : accept expected before = .ok token after :=
  (accept_ok_iff settled notEnd).mpr ⟨passed.current_eq.symm, isExpected, passed⟩

/-- Where a token is demanded and moved past, it was under the cursor. -/
theorem kind_of_discard_accept {expected : Kind}
    (passed : (discard (accept expected)) before = .ok PUnit.unit after) :
    before.current.kind = expected := by
  obtain ⟨token, accepted⟩ := discard_ok_iff.mp passed
  rw [accept, current_bind] at accepted
  split at accepted
  · assumption
  · cases accepted

/-- A token goes unrefused exactly if it has none of the kinds, and nothing is passed. -/
theorem refuse_ok_iff :
    refuse kinds before = .ok () after ↔ before.current.kind ∉ kinds ∧ after = before := by
  rw [refuse]
  split
  · rename_i onKind
    exact iff_of_false (fun passed => by cases passed) fun ⟨notOn, _⟩ => notOn (isOn_iff.mp onKind)
  · rename_i notOn
    constructor
    · rintro ⟨⟩
      exact ⟨fun onKind => notOn (isOn_iff.mpr onKind), rfl⟩
    · rintro ⟨-, rfl⟩
      rfl

/-- A part of a name is read exactly where a name stands, and it is passed. -/
theorem namePart_ok_iff (settled : before.Settled) {token : Token} :
    namePart before = .ok token after ↔
      token = before.current ∧ token.kind.isName = true ∧ before.Passes [token] after := by
  rw [namePart, current_bind]
  split
  · rename_i isName
    have notEnd : before.current.kind ≠ .endOfText := by
      intro ended
      simp [ended, Kind.isName, Kind.isDialectKeyword] at isName
    rw [bind_ok_iff]
    simp only [advance_ok_iff_of_ne settled notEnd, pure_ok_iff]
    constructor
    · rintro ⟨_, middle, passed, rfl, rfl⟩
      exact ⟨rfl, isName, passed⟩
    · rintro ⟨rfl, -, passed⟩
      exact ⟨(), after, passed, rfl, rfl⟩
  · rename_i notName
    refine iff_of_false (fun passed => by cases passed) ?_
    rintro ⟨rfl, isName, -⟩
    exact notName isName

end Reading

end SqlSharding
