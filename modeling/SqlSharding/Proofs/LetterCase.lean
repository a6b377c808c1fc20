import Mathlib.Data.List.Forall2
import SqlSharding.Text.Ascii
import SqlSharding.Text.LetterCase.Lower

/-!
# Two ways to disregard letter case

Names are the same when they differ in the case of ASCII letters only, and a rule finds repeated tables
by the full lower-case mapping of Unicode. Folding the ASCII letters first changes nothing for the
mapping: no such letter is lowered differently from its capital, and none of them makes a difference
to whether a capital sigma ends its word. So names that are the same have the same lower-case form.
The converse holds of names with the same characters beyond ASCII, and of no others.
-/

namespace SqlSharding.Text

/-- Folding changes nothing but the capitals of ASCII. -/
theorem toLower_eq_or_mem_range (c : Char) : c.toLower = c ∨ c.toNat ∈ List.range' 65 26 := by
  by_cases isCapital : 'A'.val ≤ c.val ∧ c.val ≤ 'Z'.val
  · have inRange : 65 ≤ c.toNat ∧ c.toNat ≤ 90 := isCapital
    right
    rw [List.mem_range'_1]
    omega
  · exact .inl (dif_neg isCapital)

/-- A function is blind to letter case if it is so on the capitals. -/
theorem forall_toLower {α : Type} {image : Char → α}
    (onCapitals : ∀ point ∈ List.range' 65 26,
      image (Char.ofNat point).toLower = image (Char.ofNat point))
    (c : Char) : image c.toLower = image c := by
  rcases toLower_eq_or_mem_range c with same | isCapital
  · rw [same]
  · have here := onCapitals c.toNat isCapital
    rwa [Char.ofNat_toNat] at here

/-- A letter and its small form have the same lower-case form. -/
theorem lowerChar_toLower (c : Char) : lowerChar c.toLower = lowerChar c :=
  forall_toLower (by decide +kernel) c

/-- Only the capital sigma itself is lowered to it: no capital of ASCII is. -/
theorem toLower_eq_sigma_iff (c : Char) : c.toLower = 'Σ' ↔ c = 'Σ' := by
  have blind := @forall_toLower _ (· == 'Σ') (by decide +kernel) c
  rw [← beq_iff_eq, ← beq_iff_eq (b := 'Σ'), blind]

variable (before rest after : List Char)

/-- Whether a cased letter is met does not depend on the case of ASCII letters. -/
theorem meetsCased_map_toLower : meetsCased (rest.map Char.toLower) = meetsCased rest := by
  have ignorable : CodePoints.covers caseIgnorableRanges ∘ Char.toLower
      = CodePoints.covers caseIgnorableRanges :=
    funext (forall_toLower (by decide +kernel))
  have cased : ∀ c : Char, CodePoints.covers casedRanges c.toLower = CodePoints.covers casedRanges c :=
    forall_toLower (by decide +kernel)
  rw [meetsCased, meetsCased, List.dropWhile_map, ignorable]
  cases rest.dropWhile (CodePoints.covers caseIgnorableRanges) with
  | nil => rfl
  | cons c _ => exact cased c

/-- Whether a word ends does not depend on the case of ASCII letters. -/
theorem endsWord_map_toLower :
    endsWord (before.map Char.toLower) (after.map Char.toLower) = endsWord before after := by
  rw [endsWord, endsWord, meetsCased_map_toLower, meetsCased_map_toLower]

/-- The lower-case form does not depend on the case of ASCII letters. -/
theorem lowerAfter_map_toLower :
    lowerAfter (before.map Char.toLower) (rest.map Char.toLower) = lowerAfter before rest := by
  induction rest generalizing before with
  | nil => rfl
  | cons c rest inductionHypothesis =>
    have behind := inductionHypothesis (c :: before)
    rw [List.map_cons] at behind
    simp only [List.map_cons, lowerAfter, toLower_eq_sigma_iff, lowerChar_toLower,
      endsWord_map_toLower, behind]

/-- Folding ASCII letters first makes no difference to the lower-case form. -/
theorem toLower_foldCase (text : String) : toLower (foldCase text) = toLower text := by
  rw [toLower, toLower, foldCase, String.toList_ofList]
  exact congrArg String.ofList (lowerAfter_map_toLower [] text.toList)

/-- Names that are the same have the same lower-case form. -/
theorem toLower_eq_of_sameName {left right : String} (same : sameName left right = true) :
    toLower left = toLower right := by
  rw [← toLower_foldCase left, sameName_iff.mp same, toLower_foldCase]

/-- Two texts have the same characters beyond ASCII in the same places, and ASCII elsewhere. -/
def SameBeyondAscii (left right : String) : Prop :=
  List.Forall₂ (fun a b => a = b ∨ a.toNat < 128 ∧ b.toNat < 128) left.toList right.toList

instance (left right : String) : Decidable (SameBeyondAscii left right) :=
  inferInstanceAs (Decidable (List.Forall₂ _ _ _))

/-- Characters that are folded to one are one, or of ASCII both. -/
theorem eq_or_ascii_of_toLower_eq {a b : Char} (same : a.toLower = b.toLower) :
    a = b ∨ a.toNat < 128 ∧ b.toNat < 128 := by
  have ofCapital (c : Char) (isCapital : c.toNat ∈ List.range' 65 26) :
      c.toNat < 128 ∧ c.toLower.toNat < 128 := by
    have onCapitals : ∀ point ∈ List.range' 65 26, (Char.ofNat point).toLower.toNat < 128 := by decide
    have folded := onCapitals c.toNat isCapital
    rw [Char.ofNat_toNat] at folded
    rw [List.mem_range'_1] at isCapital
    exact ⟨by omega, folded⟩
  rcases toLower_eq_or_mem_range a with unchanged | isCapital
  · rcases toLower_eq_or_mem_range b with unchanged' | isCapital'
    · exact .inl (unchanged.symm.trans (same.trans unchanged'))
    · obtain ⟨isAscii', folded⟩ := ofCapital b isCapital'
      rw [← same, unchanged] at folded
      exact .inr ⟨folded, isAscii'⟩
  · obtain ⟨isAscii, folded⟩ := ofCapital a isCapital
    rcases toLower_eq_or_mem_range b with unchanged' | isCapital'
    · rw [same, unchanged'] at folded
      exact .inr ⟨isAscii, folded⟩
    · exact .inr ⟨isAscii, (ofCapital b isCapital').1⟩

/-- Names that are the same have the same characters beyond ASCII. -/
theorem sameBeyondAscii_of_sameName {left right : String} (same : sameName left right = true) :
    SameBeyondAscii left right := by
  have folded := String.ofList_injective (sameName_iff.mp same)
  rw [← List.forall₂_eq_eq_eq, List.forall₂_map_left_iff, List.forall₂_map_right_iff] at folded
  exact folded.imp fun _ _ => eq_or_ascii_of_toLower_eq

/-- Where the characters beyond ASCII are the same, equal lower-case forms come from equal letters. What
stands before the texts may differ, so that a sigma ends its word in one of them only. -/
theorem map_toLower_eq_of_lowerAfter {left right before before' : List Char}
    (beyond : List.Forall₂ (fun a b => a = b ∨ a.toNat < 128 ∧ b.toNat < 128) left right)
    (same : lowerAfter before left = lowerAfter before' right) :
    left.map Char.toLower = right.map Char.toLower := by
  induction beyond generalizing before before' with
  | nil => rfl
  | @cons a b left right alike _ inductionHypothesis =>
    rw [lowerAfter, lowerAfter] at same
    rw [List.map_cons, List.map_cons]
    rcases alike with rfl | ⟨isAscii, isAscii'⟩
    · by_cases isSigma : a = 'Σ'
      · rw [if_pos isSigma, if_pos isSigma] at same
        rw [inductionHypothesis (List.cons.inj same).2]
      · rw [if_neg isSigma, if_neg isSigma] at same
        rw [inductionHypothesis (List.append_cancel_left same)]
    · have notSigma {c : Char} (isAscii : c.toNat < 128) : c ≠ 'Σ' := by
        rintro rfl
        exact absurd isAscii (by decide)
      rw [if_neg (notSigma isAscii), if_neg (notSigma isAscii'), lowerChar, lowerChar, if_pos isAscii,
        if_pos isAscii'] at same
      obtain ⟨sameLetter, sameRest⟩ := List.cons.inj same
      rw [sameLetter, inductionHypothesis sameRest]

/-- Names with the same lower-case form are the same just when they differ in no letter beyond ASCII. -/
theorem sameName_iff_sameBeyondAscii {left right : String} (sameLower : toLower left = toLower right) :
    sameName left right = true ↔ SameBeyondAscii left right := by
  refine ⟨sameBeyondAscii_of_sameName, fun beyond => ?_⟩
  have lowered := String.ofList_injective sameLower
  rw [sameName_iff, foldCase, foldCase, map_toLower_eq_of_lowerAfter beyond lowered]

end SqlSharding.Text
