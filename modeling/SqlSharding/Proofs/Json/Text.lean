import SqlSharding.Json.Text

/-!
# Strings in JSON, written and read

Every string is read back from its written form: an escape stands for the character it was written
for, and a character that is written as itself is neither a quotation mark nor a backslash.
-/

namespace SqlSharding.Json.Text

/-- The piece stands for the character, whatever pieces follow. -/
def Piece.StandsFor (piece : Piece) (c : Char) : Prop :=
  ∀ others, join? (piece :: others) = (join? others).map (c :: ·)

/-- A character stands for itself. -/
theorem standsFor_character (c : Char) : (Piece.character c).StandsFor c :=
  fun _ => rfl

/-- The number of a control character is no half of a pair. -/
theorem standsFor_unit {c : Char} (isControl : c.toNat < 32) : (Piece.unit c.toNat).StandsFor c := by
  intro others
  have notHigh : ¬(0xD800 ≤ c.toNat ∧ c.toNat < 0xDC00) := by omega
  have notLow : ¬(0xDC00 ≤ c.toNat ∧ c.toNat < 0xE000) := by omega
  have notHalf : ¬(0xD800 ≤ c.toNat ∧ c.toNat < 0xE000) := by omega
  have isCharacter := Char.ofNat_toNat c
  cases others with
  | nil => simp [join?, notHalf, isCharacter]
  | cons next others =>
    cases next with
    | character => simp [join?, notHalf, isCharacter]
    | unit => rw [join?, if_neg notHigh, if_neg notLow, isCharacter]

/-- A hexadecimal digit has the value it was written for. -/
theorem hexValue?_hexDigit {value : Nat} (isDigit : value < 16) :
    hexValue? (hexDigit value) = some value := by
  have onDigits : ∀ value < 16, hexValue? (hexDigit value) = some value := by decide
  exact onDigits value isDigit

/-- Pieces with one in front, and what follows them. -/
def Piece.inFrontOf (piece : Piece) (found : List Piece × List Char) : List Piece × List Char :=
  (piece :: found.1, found.2)

/-- A backslash with a mark is the character that is escaped. -/
theorem pieces?_escaped {mark c : Char} (isEscape : escaped? mark = some c) (rest : List Char) :
    pieces? ('\\' :: mark :: rest) = (pieces? rest).map (Piece.inFrontOf (.character c)) := by
  have notUnit : mark ≠ 'u' := by
    rintro rfl
    cases isEscape
  rw [pieces?]
  · cases pieces? rest <;> simp [isEscape, Piece.inFrontOf]
  · rintro first second third fourth more rfl
    exact absurd rfl notUnit

/-- A control character is read back from its four digits. -/
theorem pieces?_unit {c : Char} (isControl : c.toNat < 32) (rest : List Char) :
    pieces? ('\\' :: 'u' :: '0' :: '0' :: hexDigit (c.toNat / 16) :: hexDigit (c.toNat % 16) :: rest) =
      (pieces? rest).map (Piece.inFrontOf (.unit c.toNat)) := by
  have high := @hexValue?_hexDigit (c.toNat / 16) (by omega)
  have low := @hexValue?_hexDigit (c.toNat % 16) (by omega)
  have zero : hexValue? '0' = some 0 := rfl
  have whole : c.toNat / 16 * 16 + c.toNat % 16 = c.toNat := by omega
  rw [pieces?]
  cases pieces? rest <;> simp [unitValue?, high, low, zero, whole, Piece.inFrontOf]

/-- A character that needs no escape is read as itself. -/
theorem pieces?_plain {c : Char} (notControl : ¬c.toNat < 32) (notQuote : c ≠ '"')
    (notEscape : c ≠ '\\') (rest : List Char) :
    pieces? (c :: rest) = (pieces? rest).map (Piece.inFrontOf (.character c)) := by
  rw [pieces?]
  · cases pieces? rest <;> simp [notControl, notQuote, notEscape, Piece.inFrontOf]
  · rintro first second third fourth more rfl
    exact absurd rfl notEscape
  · rintro mark more rfl
    exact absurd rfl notEscape

/-- A character is written as one piece that stands for it. -/
theorem exists_piece (c : Char) : ∃ piece : Piece, piece.StandsFor c ∧
    ∀ rest, pieces? (encodeChar c ++ rest) = (pieces? rest).map piece.inFrontOf := by
  unfold encodeChar
  split
  case h_8 notQuote notEscape _ _ _ _ _ =>
    split
    · rename_i isControl
      exact ⟨.unit c.toNat, standsFor_unit isControl, pieces?_unit isControl⟩
    · rename_i notControl
      exact ⟨.character c, standsFor_character c, pieces?_plain notControl notQuote notEscape⟩
  all_goals exact ⟨.character _, standsFor_character _, pieces?_escaped rfl⟩

/-- The encoded characters of a string are pieces that join to the string, up to the quotation mark. -/
theorem exists_pieces (characters rest : List Char) : ∃ pieces,
    pieces? (characters.flatMap encodeChar ++ '"' :: rest) = some (pieces, rest) ∧
      join? pieces = some characters := by
  induction characters with
  | nil => exact ⟨[], by simp [pieces?], rfl⟩
  | cons c characters inductionHypothesis =>
    obtain ⟨pieces, found, joined⟩ := inductionHypothesis
    obtain ⟨piece, standsFor, written⟩ := exists_piece c
    refine ⟨piece :: pieces, ?_, ?_⟩
    · rw [List.flatMap_cons, List.append_assoc, written, found]
      rfl
    · rw [standsFor, joined]
      rfl

/-- A string is read back from its written form, whatever follows it. -/
theorem decode?_encoded (characters rest : List Char) :
    decode? (characters.flatMap encodeChar ++ '"' :: rest) = some (characters, rest) := by
  obtain ⟨pieces, found, joined⟩ := exists_pieces characters rest
  simp [decode?, found, joined]

end SqlSharding.Json.Text
