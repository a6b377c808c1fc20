import SqlSharding.CommandLine.InputLine
import SqlSharding.Proofs.Wording

/-!
# Lines of input

Cutting an input into lines leaves no line feed in a line, cutting a line into graphemes loses no
character, and a backspace only takes back. So every line stands for a text of one line, or for none.
-/

namespace SqlSharding

/-- The graphemes of a text are the text. -/
theorem Text.Grapheme.flatten_splitAfter (grapheme characters : List Char) :
    (splitAfter grapheme characters).flatten = grapheme.reverse ++ characters := by
  fun_induction splitAfter grapheme characters with
  | case1 grapheme isEmpty => simp [List.isEmpty_iff.mp isEmpty]
  | case2 grapheme notEmpty => simp
  | case3 grapheme c rest joins inductionHypothesis => simp [inductionHypothesis]
  | case4 grapheme c rest notJoins inductionHypothesis => simp [inductionHypothesis]

namespace InputLine

/-- The first line of an input holds no line feed. -/
theorem not_mem_of_takeLine (characters : List Char) : '\n' ∉ (takeLine characters).1 := by
  have notIn : '\n' ∉ characters.takeWhile (· != '\n') := by
    intro isIn
    have other := List.all_eq_true.mp List.all_takeWhile _ isIn
    simp at other
  unfold takeLine
  dsimp only
  split
  · exact notIn
  · dsimp only
    split
    · exact fun isIn => notIn (List.dropLast_subset _ isIn)
    · exact notIn

/-- No line of an input holds a line feed. -/
theorem not_mem_of_mem_splitWithin {bound : Nat} {characters line : List Char}
    (isLine : line ∈ splitWithin bound characters) : '\n' ∉ line := by
  induction bound generalizing characters with
  | zero => simp [splitWithin] at isLine
  | succ bound inductionHypothesis =>
    cases characters with
    | nil => simp [splitWithin] at isLine
    | cons c characters =>
      rcases List.mem_cons.mp isLine with rfl | isLater
      · exact not_mem_of_takeLine _
      · exact inductionHypothesis isLater

/-- What is left without the last bytes is the front of the text. -/
theorem suffix_of_dropBytes? {size : Nat} {characters rest : List Char}
    (dropped : dropBytes? size characters = some rest) : rest <:+ characters := by
  fun_induction dropBytes? size characters with
  | case1 characters => exact Option.some.inj dropped ▸ List.suffix_rfl
  | case2 => cases dropped
  | case3 size c before notZero fits inductionHypothesis =>
    exact (inductionHypothesis dropped).trans (List.suffix_cons c before)
  | case4 => cases dropped

namespace Edit

variable {edit after : Edit} {grapheme : List Char} {graphemes : List (List Char)} {c : Char}

/-- A backspace brings no characters. -/
theorem mem_of_backspace? (stepped : edit.backspace? = some after) (isIn : c ∈ after.text) :
    c ∈ edit.text := by
  unfold backspace? at stepped
  split at stepped
  · exact Option.some.inj stepped ▸ isIn
  · obtain ⟨rest, dropped, rfl⟩ := Option.map_eq_some_iff.mp stepped
    exact (suffix_of_dropBytes? dropped).subset isIn

/-- A grapheme brings its characters at most. -/
theorem mem_of_step? (stepped : edit.step? grapheme = some after) (isIn : c ∈ after.text) :
    c ∈ grapheme ∨ c ∈ edit.text := by
  unfold step? at stepped
  split at stepped
  · exact .inr (mem_of_backspace? stepped isIn)
  · obtain rfl := Option.some.inj stepped
    simpa [add] using isIn

/-- Graphemes bring their characters at most. -/
theorem mem_of_foldlM (edited : graphemes.foldlM step? edit = some after) (isIn : c ∈ after.text) :
    c ∈ graphemes.flatten ∨ c ∈ edit.text := by
  induction graphemes generalizing edit with
  | nil =>
    obtain rfl : edit = after := by simpa using edited
    exact .inr isIn
  | cons grapheme graphemes inductionHypothesis =>
    rw [List.foldlM_cons] at edited
    obtain ⟨next, stepped, edited⟩ := Option.bind_eq_some_iff.mp edited
    rw [List.flatten_cons, List.mem_append, or_assoc]
    rcases inductionHypothesis edited with isLater | isNext
    · exact .inr (.inl isLater)
    · exact (mem_of_step? stepped isNext).imp_right .inr

end Edit

/-- A line stands for a text of some of its characters. -/
theorem mem_of_edit? {line : List Char} {text : String} {c : Char} (edited : edit? line = some text)
    (isIn : c ∈ text.toList) : c ∈ line := by
  obtain ⟨edit, reached, rfl⟩ := Option.map_eq_some_iff.mp edited
  have isWhole : (Text.Grapheme.split line).flatten = line := Text.Grapheme.flatten_splitAfter [] line
  rw [String.toList_ofList, List.mem_reverse] at isIn
  rcases Edit.mem_of_foldlM reached isIn with isIn | isIn
  · exact isWhole ▸ isIn
  · cases isIn

/-- Every text that is delivered is what the editing of a line has left. -/
theorem exists_of_mem_deliver {lines : List (List Char)} {text : String}
    (isIn : text ∈ (deliver lines).texts) : ∃ line ∈ lines, edit? line = some text := by
  induction lines with
  | nil => cases isIn
  | cons line others inductionHypothesis =>
    unfold deliver at isIn
    split at isIn
    · rename_i found edited
      rcases List.mem_cons.mp isIn with rfl | isLater
      · exact ⟨line, List.mem_cons_self, edited⟩
      · obtain ⟨other, isOther, edited⟩ := inductionHypothesis isLater
        exact ⟨other, List.mem_cons_of_mem _ isOther, edited⟩
    · cases isIn

/-- Lines of input stand for texts of one line. -/
theorem oneLine_of_mem_ofInput {input text : String} (isIn : text ∈ (ofInput input).texts) :
    Text.OneLine text := by
  obtain ⟨line, isLine, edited⟩ := exists_of_mem_deliver isIn
  exact fun isFeed => not_mem_of_mem_splitWithin isLine (mem_of_edit? edited isFeed)

end InputLine

end SqlSharding
