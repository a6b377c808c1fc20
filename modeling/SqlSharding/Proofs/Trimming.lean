import Mathlib.Data.List.DropRight
import SqlSharding.Dialect

/-!
# Trimming

What is trimmed from a text is blank, and nothing is trimmed twice.
-/

namespace SqlSharding

namespace Text

/-- Trimming drops the blanks at the front and then those at the end. -/
theorem trimChars_eq_rdropWhile (characters : List Char) :
    trimChars characters = (characters.dropWhile isBlank).rdropWhile isBlank :=
  rfl

/-- What is trimmed has no blanks at its front. -/
theorem dropWhile_trimChars (characters : List Char) :
    (trimChars characters).dropWhile isBlank = trimChars characters := by
  have isFront : trimChars characters <+: characters.dropWhile isBlank :=
    List.rdropWhile_prefix isBlank _
  cases trimmed : trimChars characters with
  | nil => rfl
  | cons c rest =>
    rw [trimmed] at isFront
    obtain ⟨more, whole⟩ := isFront
    have notBlank := List.head?_dropWhile_not isBlank characters
    rw [← whole] at notBlank
    exact List.dropWhile_cons_of_neg (by simpa using notBlank)

/-- Blanks at the ends are gone when a text has been trimmed. -/
theorem trimChars_trimChars (characters : List Char) :
    trimChars (trimChars characters) = trimChars characters := by
  rw [trimChars_eq_rdropWhile (trimChars characters), dropWhile_trimChars, trimChars_eq_rdropWhile,
    List.rdropWhile_idempotent]

/-- A text without blanks at its ends is not trimmed, and no other is left as it is. -/
theorem trimChars_eq_self_iff (characters : List Char) : trimChars characters = characters ↔
    (∀ c ∈ characters.head?, isBlank c = false) ∧ ∀ c ∈ characters.getLast?, isBlank c = false := by
  have front : characters.dropWhile isBlank = characters ↔
      ∀ c ∈ characters.head?, isBlank c = false := by
    cases characters with
    | nil => simp
    | cons c rest => simp [List.dropWhile_eq_self_iff]
  have behind : characters.rdropWhile isBlank = characters ↔
      ∀ c ∈ characters.getLast?, isBlank c = false := by
    by_cases isEmpty : characters = []
    · simp [isEmpty]
    · simp [List.rdropWhile_eq_self_iff, List.getLast?_eq_some_getLast isEmpty, isEmpty]
  rw [← front, ← behind]
  constructor
  · intro unchanged
    have atFront := dropWhile_trimChars characters
    rw [unchanged] at atFront
    rw [trimChars_eq_rdropWhile, atFront] at unchanged
    exact ⟨atFront, unchanged⟩
  · rintro ⟨atFront, atEnd⟩
    rw [trimChars_eq_rdropWhile, atFront, atEnd]

/-- Trimming takes blanks off both ends. -/
theorem exists_trimChars (characters : List Char) :
    ∃ front behind, characters = front ++ (trimChars characters ++ behind) ∧
      (∀ c ∈ front, isBlank c = true) ∧ ∀ c ∈ behind, isBlank c = true := by
  have takes (some : List Char) : ∀ c ∈ some.takeWhile isBlank, isBlank c = true :=
    fun c isTaken => List.all_eq_true.mp List.all_takeWhile c isTaken
  refine ⟨characters.takeWhile isBlank,
    ((characters.dropWhile isBlank).reverse.takeWhile isBlank).reverse, ?_, takes _, fun c isIn => ?_⟩
  · rw [trimChars, ← List.reverse_append, List.takeWhile_append_dropWhile, List.reverse_reverse,
      List.takeWhile_append_dropWhile]
  · exact takes _ c (List.mem_reverse.mp isIn)

end Text

/-- Blanks around the name of a dialect do not matter. -/
theorem Dialect.toOption_ofUserName_trim (name : String) :
    (ofUserName (Text.trim name)).toOption = (ofUserName name).toOption := by
  have same : Text.trim (Text.trim name) = Text.trim name := by
    rw [Text.trim, Text.trim, String.toList_ofList, Text.trimChars_trimChars]
  simp only [ofUserName, same]
  split <;> rfl

end SqlSharding
