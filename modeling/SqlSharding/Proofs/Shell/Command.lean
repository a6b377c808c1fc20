import SqlSharding.CommandLine.Shell
import SqlSharding.Proofs.Trimming

/-!
# What lines ask for

Every line ends the shell, names a dialect, is another command or a blank line, or is a statement. To
tell these apart the shell compares the lower-case form of the whole line, but it takes a name from the
line as it is written: where the lower-case form begins with a word, the line begins with that word.
-/

namespace SqlSharding

namespace Text

/-- The lower-case form of a character outside any word is one character, or an `i` and a dot above. -/
theorem lowerChar_cases (c : Char) :
    (∃ lower, lowerChar c = [lower]) ∨ lowerChar c = ['i', '\u0307'] := by
  unfold lowerChar
  split
  · exact .inl ⟨_, rfl⟩
  · by_cases isDotted : c.toNat = 0x0130
    · rw [isDotted]
      exact .inr rfl
    · have notExpanded : lowerExpansions.lookup c.toNat = none := by
        rw [lowerExpansions, List.lookup_cons, List.lookup_nil, beq_eq_false_iff_ne.mpr isDotted]
      rw [notExpanded]
      exact .inl ⟨_, rfl⟩

/-- The lower-case form of a text begins with a word exactly if the text begins with the word in some
letter case. -/
theorem isPrefix_lowerAfter_iff {word before characters : List Char}
    (areAscii : ∀ c ∈ word, c.toNat < 128) (last : word.getLast? ≠ some 'i') :
    word <+: lowerAfter before characters ↔ lowerAfter before (characters.take word.length) = word := by
  induction word generalizing before characters with
  | nil => simp [lowerAfter]
  | cons letter word inductionHypothesis =>
    rw [List.forall_mem_cons] at areAscii
    cases characters with
    | nil => simp [lowerAfter]
    | cons c rest =>
      rw [List.length_cons, List.take_succ_cons, lowerAfter, lowerAfter]
      by_cases isSigma : c = 'Σ'
      · have notSigma (isLast : Bool) : letter ≠ if isLast then 'ς' else 'σ' := by
          rintro rfl
          cases isLast <;> exact absurd areAscii.1 (by decide)
        simp only [if_pos isSigma, List.singleton_append, List.cons_prefix_cons, List.cons.injEq]
        exact iff_of_false (fun both => notSigma _ both.1) fun both => notSigma _ both.1.symm
      · simp only [if_neg isSigma]
        rcases lowerChar_cases c with ⟨lower, isLower⟩ | isDotted
        · simp only [isLower, List.singleton_append, List.cons_prefix_cons, List.cons.injEq]
          refine and_congr eq_comm ?_
          refine inductionHypothesis areAscii.2 fun isLast => last ?_
          rw [List.getLast?_cons, isLast]
          rfl
        · have notDot : ¬['\u0307'] <+: word := by
            rintro ⟨others, rfl⟩
            exact absurd (areAscii.2 '\u0307' List.mem_cons_self) (by decide)
          simp only [isDotted, List.cons_append, List.nil_append, List.cons_prefix_cons, List.cons.injEq]
          refine iff_of_false ?_ ?_
          · rintro ⟨rfl, isPrefix⟩
            cases word with
            | nil => exact last rfl
            | cons other word =>
              rw [List.cons_prefix_cons] at isPrefix
              exact notDot ⟨word, by rw [isPrefix.1]; rfl⟩
          · rintro ⟨-, isWord⟩
            exact notDot ⟨_, isWord⟩

end Text

namespace Shell

/-- The line ends the shell. -/
def Leaves (line : String) : Prop :=
  Text.toLower (Text.trim line) ∈ ["exit", "quit"]

instance (line : String) : Decidable (Leaves line) :=
  inferInstanceAs (Decidable (_ ∈ _))

/-- The name in a line that asks for another dialect: it follows the word `dialect` and a space. -/
def dialectName? (line : String) : Option String :=
  let trimmed := (Text.trim line).toList
  if Text.toLower (String.ofList (trimmed.take 8)) = "dialect " then
    some (String.ofList (trimmed.drop 8))
  else
    none

/-- The dialect that a line switches to, if it names one. -/
def switchedTo? (line : String) : Option Dialect :=
  (dialectName? line).bind fun name => (Dialect.ofUserName name).toOption

/-- The line is neither blank nor a command of the shell. -/
structure IsStatement (line : String) : Prop where
  notBlank : ∃ c ∈ line.toList, Text.isBlank c = false
  noCommand : Text.toLower (Text.trim line) ∉ ["exit", "quit", "help", "keywords"]
  noDialect : dialectName? line = none

/-- A line begins with the word in lower case exactly if its first eight characters are lowered to it.
-/
theorem begins_iff (line : String) :
    switchWord <+: Text.lowerAfter [] (Text.trimChars line.toList) ↔
      Text.toLower (String.ofList ((Text.trim line).toList.take 8)) = "dialect " := by
  have word : "dialect ".toList = switchWord := rfl
  have length : switchWord.length = 8 := by decide
  have areAscii : ∀ c ∈ switchWord, c.toNat < 128 := by
    have all : switchWord.all (·.toNat < 128) = true := by decide
    exact fun c isIn => of_decide_eq_true (List.all_eq_true.mp all c isIn)
  rw [← String.toList_inj, word, Text.toLower, Text.trim, String.toList_ofList, String.toList_ofList,
    String.toList_ofList, Text.isPrefix_lowerAfter_iff areAscii (by decide), length]

/-- A line that is another word in some letter case names no dialect. -/
theorem dialectName?_eq_none {line word : String} (isWord : Text.toLower (Text.trim line) = word)
    (isOther : ¬switchWord <+: word.toList) : dialectName? line = none := by
  rw [← isWord, Text.toLower, Text.trim, String.toList_ofList, String.toList_ofList, begins_iff] at isOther
  simp only [dialectName?, if_neg isOther]

/-- What a line asks for is decided in this order. -/
theorem Command.ofLine_eq (line : String) :
    ofLine line =
      if Text.trimChars line.toList = [] then .nothing
      else if Leaves line then .leave
      else if Text.toLower (Text.trim line) = "help" then .help
      else if Text.toLower (Text.trim line) = "keywords" then .keywords
      else match dialectName? line with
        | some name => .switch (Text.trim name)
        | none => .statement (Text.trim line) := by
  have isWord (word : String) : Text.lowerAfter [] (Text.trimChars line.toList) = word.toList ↔
      Text.toLower (Text.trim line) = word := by
    rw [← String.toList_inj, Text.toLower, Text.trim, String.toList_ofList, String.toList_ofList]
  simp only [ofLine, List.isEmpty_iff, isWord, List.isPrefixOf_iff_prefix, begins_iff, dialectName?,
    Leaves, List.mem_cons, List.not_mem_nil, or_false]
  split_ifs
  · rfl
  · rfl
  · rfl
  · rfl
  · simp only [Text.trim, String.toList_ofList]
    rfl
  · rfl

/-- A line that ends the shell is the command to leave. -/
theorem Command.ofLine_of_leaves {line : String} (leaves : Leaves line) : ofLine line = .leave := by
  have notBlank : Text.trimChars line.toList ≠ [] := by
    intro isBlank
    rw [Leaves, Text.trim, isBlank] at leaves
    exact absurd leaves (by decide)
  rw [ofLine_eq, if_neg notBlank, if_pos leaves]

/-- A line with a statement is the command to parse it, without the blanks around it. -/
theorem Command.ofLine_of_isStatement {line : String} (isStatement : IsStatement line) :
    ofLine line = .statement (Text.trim line) := by
  obtain ⟨⟨c, isIn, notBlank⟩, noCommand, noDialect⟩ := isStatement
  simp only [List.mem_cons, List.not_mem_nil, or_false, not_or] at noCommand
  obtain ⟨notExit, notQuit, notHelp, notKeywords⟩ := noCommand
  have stays : ¬Leaves line := by simp [Leaves, notExit, notQuit]
  have notEmpty : Text.trimChars line.toList ≠ [] := by
    intro isEmpty
    obtain ⟨front, behind, whole, frontBlank, behindBlank⟩ := Text.exists_trimChars line.toList
    rw [isEmpty] at whole
    rw [whole, List.nil_append, List.mem_append] at isIn
    exact Bool.false_ne_true (notBlank ▸ isIn.elim (frontBlank c) (behindBlank c))
  rw [ofLine_eq, if_neg notEmpty, if_neg stays, if_neg notHelp, if_neg notKeywords, noDialect]

end Shell

end SqlSharding
