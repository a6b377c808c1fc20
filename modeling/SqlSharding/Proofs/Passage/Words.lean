import SqlSharding.Proofs.Passage

/-!
# Words that are demanded or may be missing

Between the names of a statement stand reserved words. Some are demanded, others are passed where they
stand; in both cases the tokens tell what has been passed.
-/

namespace SqlSharding

/-- The words where they are allowed, or nothing. -/
inductive Optionally (allowed : Bool) (words : List Kind) : List Token → Prop
  | missing : Optionally allowed words []
  | written {tokens : List Token} (isAllowed : allowed = true)
      (areWords : tokens.map (·.kind) = words) : Optionally allowed words tokens

/-- Words that a grammar does not allow are never written. -/
theorem optionally_false_iff {words : List Kind} {tokens : List Token} :
    Optionally false words tokens ↔ tokens = [] := by
  constructor
  · intro isOptional
    cases isOptional with
    | missing => rfl
    | written isAllowed => cases isAllowed
  · rintro rfl
    exact .missing

namespace Reading

open Cursor

variable {before after : Cursor} {allowed : Bool} {word : ReservedWord}

/-- Moves past a word that is allowed and may be missing. -/
def skipWord (allowed : Bool) (word : ReservedWord) : Reading Unit :=
  if allowed then discard <| skipIf [.reserved word] else pure ()

/-- A word that is demanded is passed. -/
theorem acceptWord_ok_iff (settled : before.Settled) :
    (discard <| accept (.reserved word)) before = .ok PUnit.unit after ↔
      ∃ token, before.Passes [token] after ∧ token.kind = .reserved word := by
  have notEnd : Kind.reserved word ≠ .endOfText := nofun
  simp only [discard_ok_iff, accept_ok_iff settled notEnd]
  constructor
  · rintro ⟨token, -, isWord, passed⟩
    exact ⟨token, passed, isWord⟩
  · rintro ⟨token, passed, isWord⟩
    exact ⟨token, passed.current_eq.symm, isWord, passed⟩

/-- A word that is looked for is passed, or it is not there. -/
theorem skipIfWord_ok_iff (settled : before.Settled) {skipped : Bool} :
    skipIf [.reserved word] before = .ok skipped after ↔
      skipped = true ∧ (∃ token, before.Passes [token] after ∧ token.kind = .reserved word) ∨
        skipped = false ∧ before.current.kind ≠ .reserved word ∧ after = before := by
  have noEnd : Kind.endOfText ∉ [Kind.reserved word] := by simp
  rw [skipIf_ok_iff settled noEnd, List.mem_singleton]
  refine or_congr_left (and_congr_right fun _ => ⟨fun ⟨onWord, passed⟩ => ⟨_, passed, onWord⟩, ?_⟩)
  rintro ⟨token, passed, isWord⟩
  obtain rfl := passed.current_eq
  exact ⟨isWord, passed⟩

/-- A word that may be missing is passed if it stands there. -/
theorem skipWord_ok_iff (settled : before.Settled) :
    skipWord allowed word before = .ok () after ↔
      ∃ words, before.Passes words after ∧ Optionally allowed [.reserved word] words ∧
        (words = [] → allowed = true → after.current.kind ≠ .reserved word) := by
  cases allowed with
  | false =>
    rw [skipWord, if_neg Bool.false_ne_true, pure_ok_iff]
    simp only [optionally_false_iff]
    constructor
    · rintro ⟨-, rfl⟩
      exact ⟨[], .refl _, rfl, nofun⟩
    · rintro ⟨_, passed, rfl, -⟩
      exact ⟨trivial, passes_nil_iff.mp passed⟩
  | true =>
    rw [skipWord, if_pos rfl, discard_ok_iff]
    simp only [skipIfWord_ok_iff settled]
    constructor
    · rintro ⟨skipped, ⟨-, token, passed, isWord⟩ | ⟨-, notOn, rfl⟩⟩
      · exact ⟨[token], passed, .written rfl (congrArg (· :: []) isWord), nofun⟩
      · exact ⟨[], .refl _, .missing, fun _ _ => notOn⟩
    · rintro ⟨words, passed, isOptional, stopped⟩
      cases isOptional with
      | missing =>
        obtain rfl := passes_nil_iff.mp passed
        exact ⟨false, .inr ⟨rfl, stopped rfl trivial, rfl⟩⟩
      | written _ areWords =>
        obtain ⟨token, rfl, isWord⟩ := List.map_eq_singleton_iff.mp areWords
        exact ⟨true, .inl ⟨rfl, token, passed, isWord⟩⟩

end Reading

end SqlSharding
