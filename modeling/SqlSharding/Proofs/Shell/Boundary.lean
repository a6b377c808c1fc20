import Mathlib.Data.String.Basic
import SqlSharding.Proofs.LetterCase.Ascii
import SqlSharding.Proofs.Shell.Command

/-!
# Where the word `dialect` ends

The lower-case form of a line tells whether the line begins with the word `dialect`, and the name behind
the word is cut from the line itself, at a number of bytes. Lowering a character may change how many bytes
it takes, and may turn a character beyond ASCII into a letter. Neither matters for this word, which has no
`k` in it and does not end on an `i`: a line that is lowered to it begins with eight ASCII characters.
-/

namespace SqlSharding

namespace Text

/-- The text from a byte on, unless the byte is inside a character or beyond the end. -/
def bytesFrom? (text : String) (byte : Nat) : Option String :=
  if onBoundary : (⟨byte⟩ : String.Pos.Raw).IsValid text then
    some (text.sliceFrom (text.pos ⟨byte⟩ onBoundary)).copy
  else
    none

/-- A text from a byte on is what follows a front of so many bytes. -/
theorem bytesFrom?_eq_some_iff {text behind : String} {byte : Nat} :
    bytesFrom? text byte = some behind ↔ ∃ front, text = front ++ behind ∧ front.utf8ByteSize = byte := by
  constructor
  · intro found
    rw [bytesFrom?, Option.dite_none_right_eq_some] at found
    obtain ⟨onBoundary, isBehind⟩ := found
    obtain rfl := Option.some.inj isBehind
    have splits := (text.pos ⟨byte⟩ onBoundary).splits
    exact ⟨_, splits.eq_append, congrArg String.Pos.Raw.byteIdx splits.offset_eq_rawEndPos.symm⟩
  · rintro ⟨front, rfl, rfl⟩
    have onBoundary : (⟨front.utf8ByteSize⟩ : String.Pos.Raw).IsValid (front ++ behind) :=
      String.Pos.Raw.isValid_iff_exists_append.mpr ⟨front, behind, rfl, rfl⟩
    have splits : ((front ++ behind).pos _ onBoundary).Splits front behind := ⟨rfl, rfl⟩
    rw [bytesFrom?, dif_pos onBoundary, splits.copy_sliceFrom_eq]

/-- Where a text is cut, the byte is on a boundary of characters. -/
theorem isValid_of_bytesFrom? {text behind : String} {byte : Nat}
    (found : bytesFrom? text byte = some behind) : (⟨byte⟩ : String.Pos.Raw).IsValid text := by
  obtain ⟨front, whole, rfl⟩ := bytesFrom?_eq_some_iff.mp found
  exact String.Pos.Raw.isValid_iff_exists_append.mpr ⟨front, behind, whole, rfl⟩

/-- ASCII characters take a byte each. -/
theorem utf8ByteSize_of_ascii {characters : List Char} (areAscii : ∀ c ∈ characters, c.toNat < 128) :
    (String.ofList characters).utf8ByteSize = characters.length := by
  rw [String.utf8ByteSize_ofList]
  induction characters with
  | nil => rfl
  | cons c rest inductionHypothesis =>
    rw [List.forall_mem_cons] at areAscii
    have oneByte : c.utf8Size = 1 :=
      Char.utf8Size_eq_one_iff.mpr (UInt32.le_iff_toNat_le.mpr (Nat.le_of_lt_succ areAscii.1))
    rw [String.utf8Len_cons, inductionHypothesis areAscii.2, oneByte, List.length_cons]

end Text

namespace Shell

/-- What is lowered to the word `dialect` and a blank is ASCII. -/
theorem isAscii_of_lowers_to_switchWord {before characters : List Char}
    (isWord : Text.lowerAfter before characters = switchWord) : ∀ c ∈ characters, c.toNat < 128 := by
  have areAscii : ∀ c ∈ Text.lowerAfter before characters, c.toNat < 128 := by
    have ascii : switchWord.all (·.toNat < 128) = true := by decide
    rw [isWord]
    exact fun c isIn => of_decide_eq_true (List.all_eq_true.mp ascii c isIn)
  have noKelvin : 'k' ∉ Text.lowerAfter before characters := by
    rw [isWord]
    decide
  exact Text.isAscii_of_lowerAfter areAscii noKelvin

/-- A line that names a dialect asks for it, and for nothing else. -/
theorem Command.ofLine_of_dialectName? {line name : String} (isNamed : dialectName? line = some name) :
    ofLine line = .switch (Text.trim name) := by
  have isNoWord {word : String} (isOther : ¬switchWord <+: word.toList) :
      Text.toLower (Text.trim line) ≠ word := by
    intro isWord
    rw [dialectName?_eq_none isWord isOther] at isNamed
    cases isNamed
  have notBlank : Text.trimChars line.toList ≠ [] := by
    intro isBlank
    refine @isNoWord "" (by decide) ?_
    rw [Text.trim, isBlank]
    rfl
  have stays : ¬Leaves line := by
    rw [Leaves, List.mem_cons, List.mem_singleton, not_or]
    exact ⟨isNoWord (by decide), isNoWord (by decide)⟩
  rw [ofLine_eq, if_neg notBlank, if_neg stays, if_neg (isNoWord (by decide)),
    if_neg (isNoWord (by decide)), isNamed]

/-- Where the lower-case form of a line begins with the word `dialect` and a space, the eighth byte of the
line is the end of its eighth character: the line can be cut there, and what follows is the name. -/
theorem cut_behind_switchWord {line : String}
    (begins : "dialect ".toList <+: (Text.toLower (Text.trim line)).toList) :
    ∃ word name, Text.trim line = word ++ name ∧ word.length = 8 ∧
      (∀ c ∈ word.toList, c.toNat < 128) ∧ word.toList.map Char.toLower = "dialect ".toList ∧
      (⟨8⟩ : String.Pos.Raw).IsValid (Text.trim line) ∧
      Text.bytesFrom? (Text.trim line) 8 = some name ∧
      Command.ofLine line = .switch (Text.trim name) := by
  have lowers : (Text.toLower (Text.trim line)).toList =
      Text.lowerAfter [] (Text.trimChars line.toList) := by
    rw [Text.toLower, Text.trim, String.toList_ofList, String.toList_ofList]
  rw [lowers] at begins
  have isWord := (begins_iff line).mp begins
  have isNamed : dialectName? line = some (String.ofList ((Text.trim line).toList.drop 8)) := by
    simp only [dialectName?, if_pos isWord]
  have lowered : Text.lowerAfter [] ((Text.trim line).toList.take 8) = switchWord := by
    rw [← String.toList_inj, Text.toLower, String.toList_ofList, String.toList_ofList] at isWord
    exact isWord
  have areAscii := isAscii_of_lowers_to_switchWord lowered
  rw [Text.lowerAfter_of_ascii areAscii] at lowered
  have length : ((Text.trim line).toList.take 8).length = 8 := by
    rw [← List.length_map Char.toLower, lowered]
    rfl
  have whole : Text.trim line = String.ofList ((Text.trim line).toList.take 8) ++
      String.ofList ((Text.trim line).toList.drop 8) := by
    rw [← String.ofList_append, List.take_append_drop, String.ofList_toList]
  have cut := Text.bytesFrom?_eq_some_iff.mpr
    ⟨_, whole, (Text.utf8ByteSize_of_ascii areAscii).trans length⟩
  refine ⟨_, _, whole, ?_, ?_, ?_, Text.isValid_of_bytesFrom? cut, cut,
    Command.ofLine_of_dialectName? isNamed⟩
  · rw [String.length_ofList, length]
  · rw [String.toList_ofList]
    exact areAscii
  · rw [String.toList_ofList]
    exact lowered

/-- The Kelvin sign right behind the word takes three bytes, and is lowered to one. -/
theorem cut_behind_switchWord_kelvin :
    ∃ word name, Text.trim "\t DIALECT \u212Aü " = word ++ name ∧ word.length = 8 ∧
      (∀ c ∈ word.toList, c.toNat < 128) ∧ word.toList.map Char.toLower = "dialect ".toList ∧
      (⟨8⟩ : String.Pos.Raw).IsValid (Text.trim "\t DIALECT \u212Aü ") ∧
      Text.bytesFrom? (Text.trim "\t DIALECT \u212Aü ") 8 = some name ∧
      Command.ofLine "\t DIALECT \u212Aü " = .switch (Text.trim name) :=
  cut_behind_switchWord (by decide)

end Shell

end SqlSharding
