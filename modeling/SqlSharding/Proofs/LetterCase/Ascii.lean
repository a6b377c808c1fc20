import SqlSharding.Proofs.LetterCase

/-!
# What is lowered to ASCII

Beyond ASCII two characters are lowered to something with an ASCII character in it: the Kelvin sign, which
becomes `k`, and the capital `I` with a dot, which becomes an `i` and a dot of its own. A text whose
lower-case form is an ASCII text without a `k` is therefore an ASCII text itself, lowered letter by letter.
-/

namespace SqlSharding.Text

open CodePoints

/-- The images of the run are characters beyond ASCII. -/
def LeadsBeyondAscii (run : Run) : Prop :=
  let (first, last, _, target) := run
  128 ≤ target ∧ (target + (last - first) < 0xD800 ∨
    0xE000 ≤ target ∧ target + (last - first) < 0x110000)

instance : DecidablePred LeadsBeyondAscii := fun _ =>
  inferInstanceAs (Decidable (_ ≤ _ ∧ (_ < _ ∨ _ ≤ _ ∧ _ < _)))

/-- The run of the Kelvin sign. -/
def kelvinRun : Run := (0x212A, 0x212A, 1, 0x006B)

/-- But for the Kelvin sign, all runs of lower-case forms lead beyond ASCII. -/
theorem leadsBeyondAscii_of_mem : ∀ run ∈ lowerRuns, run = kelvinRun ∨ LeadsBeyondAscii run := by
  decide +kernel

/-- A run has an image for the points from its first to its last one, step by step. -/
theorem image?_eq_some_iff {first last step target point found : Nat} :
    Run.image? (first, last, step, target) point = some found ↔
      (first ≤ point ∧ point ≤ last ∧ (point - first) % step = 0) ∧ target + (point - first) = found := by
  rw [Run.image?, Option.ite_none_right_eq_some, Option.some.injEq]

/-- The images of a run that leads beyond ASCII are no ASCII characters. -/
theorem LeadsBeyondAscii.le_toNat {run : Run} {point found : Nat} (beyond : LeadsBeyondAscii run)
    (isImage : run.image? point = some found) : 128 ≤ (Char.ofNat found).toNat := by
  obtain ⟨first, last, step, target⟩ := run
  obtain ⟨notAscii, valid⟩ := beyond
  obtain ⟨inRun, rfl⟩ := image?_eq_some_iff.mp isImage
  have isValid : (target + (point - first)).isValidChar := by
    unfold Nat.isValidChar
    omega
  rw [Char.ofNat, dif_pos isValid]
  change 128 ≤ target + (point - first)
  omega

/-- The run of the Kelvin sign has no other image than `k`. -/
theorem eq_of_kelvinRun {point found : Nat} (isImage : kelvinRun.image? point = some found) :
    Char.ofNat found = 'k' := by
  obtain ⟨inRun, rfl⟩ := image?_eq_some_iff.mp isImage
  obtain rfl : point = 0x212A := by omega
  rfl

/-- A character beyond ASCII is lowered to the letter `k`, or not to ASCII characters only. -/
theorem lowerChar_beyond {c : Char} (notAscii : 128 ≤ c.toNat) :
    lowerChar c = ['k'] ∨ ∃ lower ∈ lowerChar c, 128 ≤ lower.toNat := by
  rw [lowerChar, if_neg (by omega)]
  by_cases isDotted : c.toNat = 0x0130
  · have expanded : lowerExpansions.lookup c.toNat = some [0x0069, 0x0307] := by
      rw [isDotted]
      rfl
    rw [expanded]
    exact .inr ⟨'\u0307', List.mem_of_getLast? rfl, by decide⟩
  have notExpanded : lowerExpansions.lookup c.toNat = none := by
    rw [lowerExpansions, List.lookup_cons, List.lookup_nil, beq_eq_false_iff_ne.mpr isDotted]
  rw [notExpanded]
  cases found : lowerRuns.findSome? (·.image? c.toNat) with
  | none =>
    refine .inr ⟨c, ?_, notAscii⟩
    simp only [image, found, List.mem_singleton]
  | some point =>
    obtain ⟨run, isRun, isImage⟩ := List.exists_of_findSome?_eq_some found
    simp only [image, found, List.cons.injEq, and_true, List.mem_singleton, exists_eq_left]
    rcases leadsBeyondAscii_of_mem run isRun with rfl | beyond
    · exact .inl (eq_of_kelvinRun isImage)
    · exact .inr (beyond.le_toNat isImage)

/-- ASCII characters are lowered letter by letter, whatever stands before them. -/
theorem lowerAfter_of_ascii {before characters : List Char}
    (areAscii : ∀ c ∈ characters, c.toNat < 128) :
    lowerAfter before characters = characters.map Char.toLower := by
  induction characters generalizing before with
  | nil => rfl
  | cons c rest inductionHypothesis =>
    rw [List.forall_mem_cons] at areAscii
    have notSigma : c ≠ 'Σ' := by
      rintro rfl
      exact absurd areAscii.1 (by decide)
    rw [lowerAfter, if_neg notSigma, lowerChar, if_pos areAscii.1, inductionHypothesis areAscii.2]
    rfl

/-- Only an ASCII text is lowered to ASCII characters among which there is no `k`. -/
theorem isAscii_of_lowerAfter {before characters : List Char}
    (areAscii : ∀ c ∈ lowerAfter before characters, c.toNat < 128)
    (noKelvin : 'k' ∉ lowerAfter before characters) : ∀ c ∈ characters, c.toNat < 128 := by
  induction characters generalizing before with
  | nil => nofun
  | cons c rest inductionHypothesis =>
    rw [lowerAfter] at areAscii noKelvin
    have behind := inductionHypothesis
      (fun lower isIn => areAscii lower (List.mem_append_right _ isIn))
      fun isIn => noKelvin (List.mem_append_right _ isIn)
    refine List.forall_mem_cons.mpr ⟨?_, behind⟩
    by_contra notAscii
    by_cases isSigma : c = 'Σ'
    · rw [if_pos isSigma] at areAscii
      have lowered := areAscii _ (List.mem_append_left _ (List.mem_singleton_self _))
      split at lowered <;> exact absurd lowered (by decide)
    · rw [if_neg isSigma] at areAscii noKelvin
      rcases lowerChar_beyond (Nat.not_lt.mp notAscii) with isKelvin | ⟨lower, isIn, beyond⟩
      · exact noKelvin (List.mem_append_left _ (by simp [isKelvin]))
      · have lowered := areAscii lower (List.mem_append_left _ isIn)
        omega

end SqlSharding.Text
