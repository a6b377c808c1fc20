import SqlSharding.Proofs.Lexing

/-!
# Gaps

What may stand between tokens, described without a scanner: blanks and comments. A lexer ignores as
much of a text as can be read that way, and what it ignores may be put before any text.
-/

namespace SqlSharding

/-- What begins a comment to the end of the line. -/
inductive LineMark (rules : LexicalRules) : List Char → Prop
  | dashes : LineMark rules ['-', '-']
  | hash (hashComments : rules.hashComments) : LineMark rules ['#']

/-- The body of a block comment: it is not closed within. -/
def IsBlockBody (body : List Char) : Prop :=
  ¬['*', '/'] <:+: body

/-- Blanks and closed comments. -/
inductive Filler (rules : LexicalRules) : List Char → Prop
  | nil : Filler rules []
  | blank {c : Char} {later : List Char} (isBlank : Text.isBlank c) (filler : Filler rules later) :
      Filler rules (c :: later)
  | lineComment {mark body later : List Char} (isMark : LineMark rules mark)
      (sameLine : '\n' ∉ body) (filler : Filler rules later) :
      Filler rules (mark ++ (body ++ '\n' :: later))
  | blockComment {body later : List Char} (isBody : IsBlockBody body)
      (filler : Filler rules later) : Filler rules ('/' :: '*' :: (body ++ '*' :: '/' :: later))

/-- A comment that goes on to the end of the text. -/
inductive OpenComment (rules : LexicalRules) : List Char → Prop
  | line {mark body : List Char} (isMark : LineMark rules mark) (sameLine : '\n' ∉ body) :
      OpenComment rules (mark ++ body)
  | block {body : List Char} (isBody : IsBlockBody body) : OpenComment rules ('/' :: '*' :: body)

/-- A text that begins with a blank or with a comment. -/
inductive BeginsGap (rules : LexicalRules) : List Char → Prop
  | blank {c : Char} {rest : List Char} (isBlank : Text.isBlank c) : BeginsGap rules (c :: rest)
  | lineComment {mark rest : List Char} (isMark : LineMark rules mark) :
      BeginsGap rules (mark ++ rest)
  | blockComment {rest : List Char} : BeginsGap rules ('/' :: '*' :: rest)

/-- The blanks and comments at the front of a text, and what follows them. Only at the end of the
text may a comment be open. -/
structure Ignored (rules : LexicalRules) (skipped rest : List Char) : Prop where
  filled : Filler rules skipped ∨
    rest = [] ∧ ∃ before comment, skipped = before ++ comment ∧ Filler rules before ∧
      OpenComment rules comment
  ends : ¬BeginsGap rules rest

variable {rules : LexicalRules} {skipped rest : List Char}

/-- The end of the text begins no gap. -/
theorem not_beginsGap_nil : ¬BeginsGap rules [] := by
  intro begins
  generalize same : ([] : List Char) = characters at begins
  cases begins with
  | blank => cases same
  | lineComment isMark => cases isMark <;> cases same
  | blockComment => cases same

/-- A gap begins with a blank, with two dashes, with a slash and a star, or with a hash where it begins
comments. -/
theorem beginsGap_cons_iff {c : Char} : BeginsGap rules (c :: rest) ↔
    Text.isBlank c = true ∨ c = '-' ∧ rest.head? = some '-' ∨ c = '/' ∧ rest.head? = some '*' ∨
      c = '#' ∧ rules.hashComments = true := by
  refine ⟨fun begins => ?_, ?_⟩
  · generalize same : c :: rest = characters at begins
    cases begins with
    | blank isBlank =>
      obtain ⟨rfl, -⟩ := List.cons.inj same
      exact .inl isBlank
    | lineComment isMark =>
      cases isMark with
      | dashes =>
        obtain ⟨rfl, rfl⟩ := List.cons.inj same
        exact .inr (.inl ⟨rfl, rfl⟩)
      | hash hashComments =>
        obtain ⟨rfl, -⟩ := List.cons.inj same
        exact .inr (.inr (.inr ⟨rfl, hashComments⟩))
    | blockComment =>
      obtain ⟨rfl, rfl⟩ := List.cons.inj same
      exact .inr (.inr (.inl ⟨rfl, rfl⟩))
  · rintro (isBlank | ⟨rfl, isDash⟩ | ⟨rfl, isStar⟩ | ⟨rfl, hashComments⟩)
    · exact .blank isBlank
    · obtain ⟨more, rfl⟩ := List.head?_eq_some_iff.mp isDash
      exact .lineComment .dashes
    · obtain ⟨more, rfl⟩ := List.head?_eq_some_iff.mp isStar
      exact .blockComment
    · exact .lineComment (.hash hashComments)

/-- What is ignored before a text is closed, so it is filler. -/
theorem Ignored.filler_of_ne (ignored : Ignored rules skipped rest) (notEnd : rest ≠ []) :
    Filler rules skipped :=
  ignored.filled.resolve_right fun atEnd => notEnd atEnd.1

namespace Filler

/-- Filler behind filler is filler. -/
theorem append {left right : List Char} (first : Filler rules left) (second : Filler rules right) :
    Filler rules (left ++ right) := by
  induction first with
  | nil => exact second
  | blank isBlank _ inductionHypothesis => exact .blank isBlank inductionHypothesis
  | lineComment isMark sameLine _ inductionHypothesis =>
    simpa using Filler.lineComment isMark sameLine inductionHypothesis
  | blockComment isBody _ inductionHypothesis =>
    simpa using Filler.blockComment isBody inductionHypothesis

/-- Filler before ignored characters is ignored with them. -/
theorem ignored {front : List Char} (filler : Filler rules front)
    (ignored : Ignored rules skipped rest) : Ignored rules (front ++ skipped) rest where
  filled := by
    refine ignored.filled.imp filler.append ?_
    rintro ⟨atEnd, before, comment, rfl, isFiller, isOpen⟩
    exact ⟨atEnd, front ++ before, comment, (List.append_assoc ..).symm, filler.append isFiller,
      isOpen⟩
  ends := ignored.ends

end Filler

/-- A body with a character in front, which does not close the comment with what follows. -/
theorem IsBlockBody.cons {c : Char} {body : List Char} (isBody : IsBlockBody body)
    (notClosed : c = '*' → body.head? ≠ some '/') : IsBlockBody (c :: body) := by
  intro closes
  rcases List.infix_cons_iff.mp closes with ⟨more, whole⟩ | inBody
  · obtain ⟨rfl, rfl⟩ := List.cons.inj whole
    exact notClosed rfl rfl
  · exact isBody inBody

/-- The body of a block comment is one without its first character, too. -/
theorem IsBlockBody.tail {c : Char} {body : List Char} (isBody : IsBlockBody (c :: body)) :
    IsBlockBody body :=
  fun closes => isBody (List.infix_cons closes)

/-- A star in the body of a block comment has no slash behind it. -/
theorem IsBlockBody.head?_ne {body : List Char} (isBody : IsBlockBody ('*' :: body)) :
    body.head? ≠ some '/' := by
  intro isSlash
  obtain ⟨more, rfl⟩ := List.head?_eq_some_iff.mp isSlash
  exact isBody ⟨[], more, rfl⟩

namespace Gap

variable {place : Nat}

/-- A comment to the end of the line is skipped up to the next line. -/
theorem skip_lineComment {body : List Char} (sameLine : '\n' ∉ body) (later : List Char) :
    lineComment.skip rules place (body ++ '\n' :: later) =
      betweenTokens.skip rules (place + body.length + 1) later := by
  induction body generalizing place with
  | nil => simp [skip]
  | cons c body inductionHypothesis =>
    obtain ⟨notEnd, sameLine⟩ := not_or.mp (mt List.mem_cons.mpr sameLine)
    rw [List.cons_append, skip, if_neg (Ne.symm notEnd), inductionHypothesis sameLine,
      List.length_cons, Nat.add_right_comm place 1, Nat.add_assoc place body.length 1]

/-- A block comment is skipped up to what follows the mark that closes it. -/
theorem skip_blockComment_closed {body : List Char} (isBody : IsBlockBody body)
    (later : List Char) :
    blockComment.skip rules place (body ++ '*' :: '/' :: later) =
      betweenTokens.skip rules (place + body.length + 2) later := by
  induction body generalizing place with
  | nil => simp [skip]
  | cons c body inductionHypothesis =>
    have notClosed : ¬(c = '*' ∧ (body ++ '*' :: '/' :: later).head? = some '/') := by
      rintro ⟨rfl, isSlash⟩
      cases body with
      | nil => simp at isSlash
      | cons next body => exact isBody.head?_ne (by simpa using isSlash)
    rw [List.cons_append, skip_blockComment notClosed, inductionHypothesis isBody.tail,
      List.length_cons, Nat.add_right_comm place 1, Nat.add_assoc place body.length 1]

/-- The mark of a comment to the end of the line begins such a comment. -/
theorem skip_lineMark {mark : List Char} (isMark : LineMark rules mark) (later : List Char) :
    betweenTokens.skip rules place (mark ++ later) =
      lineComment.skip rules (place + mark.length) later := by
  cases isMark with
  | dashes => simp [skip]
  | hash hashComments =>
    rw [List.singleton_append, skip_betweenTokens (by simp) (by simp), if_neg (by decide),
      if_pos ⟨rfl, hashComments⟩, List.length_singleton]

/-- Nothing is skipped where no blank and no comment begins. -/
theorem skip_of_not_beginsGap (notBegins : ¬BeginsGap rules rest) :
    betweenTokens.skip rules place rest = (place, rest) := by
  cases rest with
  | nil => rw [skip]
  | cons c rest =>
    simp only [beginsGap_cons_iff, not_or] at notBegins
    obtain ⟨notBlank, notLine, notBlock, notHash⟩ := notBegins
    rw [skip_betweenTokens notLine notBlock, if_neg notBlank, if_neg notHash]

/-- Filler is skipped, whatever follows it. -/
theorem skip_filler {filler : List Char} (isFiller : Filler rules filler) (rest : List Char) :
    betweenTokens.skip rules place (filler ++ rest) =
      betweenTokens.skip rules (place + filler.length) rest := by
  induction isFiller generalizing place with
  | nil => rfl
  | @blank c later isBlank filler inductionHypothesis =>
    have notLine : ¬(c = '-' ∧ (later ++ rest).head? = some '-') := by
      rintro ⟨rfl, -⟩
      exact absurd isBlank (by decide)
    have notBlock : ¬(c = '/' ∧ (later ++ rest).head? = some '*') := by
      rintro ⟨rfl, -⟩
      exact absurd isBlank (by decide)
    rw [List.cons_append, skip_betweenTokens notLine notBlock, if_pos isBlank, inductionHypothesis,
      List.length_cons, Nat.add_assoc, Nat.add_comm 1]
  | @lineComment mark body later isMark sameLine filler inductionHypothesis =>
    rw [List.append_assoc, skip_lineMark isMark, List.append_assoc, List.cons_append,
      skip_lineComment sameLine, inductionHypothesis]
    simp only [List.length_append, List.length_cons, Nat.add_assoc, Nat.add_comm 1]
  | @blockComment body later isBody filler inductionHypothesis =>
    rw [List.cons_append, List.cons_append, skip, List.append_assoc, List.cons_append,
      List.cons_append, skip_blockComment_closed isBody, inductionHypothesis]
    simp only [List.length_append, List.length_cons]
    congr 1
    omega

/-- What is skipped from inside a part of a gap on. -/
def Passes (rules : LexicalRules) (skipped rest : List Char) : Gap → Prop
  | .betweenTokens => Ignored rules skipped rest
  | .lineComment =>
    ('\n' ∉ skipped ∧ rest = []) ∨
      ∃ body later, skipped = body ++ '\n' :: later ∧ '\n' ∉ body ∧ Ignored rules later rest
  | .blockComment =>
    (IsBlockBody skipped ∧ rest = []) ∨
      ∃ body later, skipped = body ++ '*' :: '/' :: later ∧ IsBlockBody body ∧
        Ignored rules later rest

/-- A comment to the end of the line is ignored with its mark. -/
theorem ignored_of_lineMark {mark : List Char} (isMark : LineMark rules mark)
    (passes : lineComment.Passes rules skipped rest) : Ignored rules (mark ++ skipped) rest := by
  obtain ⟨sameLine, rfl⟩ | ⟨body, later, rfl, sameLine, ignored⟩ := passes
  · exact ⟨.inr ⟨rfl, [], _, rfl, .nil, .line isMark sameLine⟩, not_beginsGap_nil⟩
  · simpa using (Filler.lineComment isMark sameLine .nil).ignored ignored

/-- A block comment is ignored with its mark. -/
theorem ignored_of_blockMark (passes : blockComment.Passes rules skipped rest) :
    Ignored rules ('/' :: '*' :: skipped) rest := by
  obtain ⟨isBody, rfl⟩ | ⟨body, later, rfl, isBody, ignored⟩ := passes
  · exact ⟨.inr ⟨rfl, [], _, rfl, .nil, .block isBody⟩, not_beginsGap_nil⟩
  · simpa using (Filler.blockComment isBody .nil).ignored ignored

/-- A comment to the end of the line, with a character of it in front. -/
theorem passes_lineComment_cons {c : Char} (notEnd : c ≠ '\n')
    (passes : lineComment.Passes rules skipped rest) :
    lineComment.Passes rules (c :: skipped) rest := by
  have notIn {body : List Char} (sameLine : '\n' ∉ body) : '\n' ∉ c :: body :=
    mt List.mem_cons.mp (not_or.mpr ⟨Ne.symm notEnd, sameLine⟩)
  obtain ⟨sameLine, rfl⟩ | ⟨body, later, rfl, sameLine, ignored⟩ := passes
  · exact .inl ⟨notIn sameLine, rfl⟩
  · exact .inr ⟨c :: body, later, rfl, notIn sameLine, ignored⟩

/-- A block comment, with a character of it in front. -/
theorem passes_blockComment_cons {c : Char}
    (notClosed : c = '*' → (skipped ++ rest).head? ≠ some '/')
    (passes : blockComment.Passes rules skipped rest) :
    blockComment.Passes rules (c :: skipped) rest := by
  obtain ⟨isBody, rfl⟩ | ⟨body, later, rfl, isBody, ignored⟩ := passes
  · exact .inl ⟨isBody.cons (by simpa using notClosed), rfl⟩
  · refine .inr ⟨c :: body, later, rfl, isBody.cons fun isStar isSlash => ?_, ignored⟩
    obtain ⟨more, rfl⟩ := List.head?_eq_some_iff.mp isSlash
    exact notClosed isStar rfl

/-- At the end of the text nothing is left to pass, in whichever gap it is. -/
theorem passes_nil_nil (rules : LexicalRules) (gap : Gap) : gap.Passes rules [] [] := by
  cases gap with
  | betweenTokens => exact ⟨.inl .nil, not_beginsGap_nil⟩
  | lineComment => exact .inl ⟨List.not_mem_nil, rfl⟩
  | blockComment => exact .inl ⟨by simp [IsBlockBody], rfl⟩

/-- A comment to the end of the line, with its end in front. -/
theorem passes_lineComment_newline (ignored : Ignored rules skipped rest) :
    lineComment.Passes rules ('\n' :: skipped) rest :=
  .inr ⟨[], skipped, rfl, List.not_mem_nil, ignored⟩

/-- A character that a lexer stops at begins no gap. -/
theorem not_beginsGap_cons {c : Char} (notLine : ∀ more, c = '-' → rest = '-' :: more → False)
    (notBlock : ∀ more, c = '/' → rest = '*' :: more → False) (notBlank : ¬Text.isBlank c = true)
    (notHash : ¬(c = '#' ∧ rules.hashComments = true)) : ¬BeginsGap rules (c :: rest) := by
  rw [beginsGap_cons_iff]
  rintro (isBlank | ⟨isDash, dashAhead⟩ | ⟨isSlash, starAhead⟩ | isHash)
  · exact notBlank isBlank
  · obtain ⟨more, whole⟩ := List.head?_eq_some_iff.mp dashAhead
    exact notLine more isDash whole
  · obtain ⟨more, whole⟩ := List.head?_eq_some_iff.mp starAhead
    exact notBlock more isSlash whole
  · exact notHash isHash

/-- What a lexer skips are the blanks and comments at the front of the text. -/
theorem exists_passes (rules : LexicalRules) (gap : Gap) (place : Nat) (characters : List Char) :
    ∃ skipped rest, characters = skipped ++ rest ∧
      gap.skip rules place characters = (place + skipped.length, rest) ∧
      gap.Passes rules skipped rest := by
  -- Each case puts the characters that it passes before what is skipped from there on.
  have moved (place : Nat) (front skipped : List Char) :
      place + front.length + skipped.length = place + (front ++ skipped).length := by
    rw [List.length_append, Nat.add_assoc]
  fun_induction skip rules gap place characters with
  | case1 gap place => exact ⟨[], [], rfl, rfl, passes_nil_nil rules gap⟩
  | case2 place c rest inductionHypothesis =>
    obtain ⟨skipped, final, rfl, skips, passes⟩ := inductionHypothesis
    refine ⟨c :: skipped, final, rfl, moved place [c] skipped ▸ skips, ?_⟩
    by_cases isEnd : c = '\n'
    · rw [if_pos isEnd] at passes
      exact isEnd ▸ passes_lineComment_newline passes
    · rw [if_neg isEnd] at passes
      exact passes_lineComment_cons isEnd passes
  | case3 place rest inductionHypothesis =>
    obtain ⟨skipped, final, rfl, skips, passes⟩ := inductionHypothesis
    exact ⟨'*' :: '/' :: skipped, final, rfl, moved place ['*', '/'] skipped ▸ skips,
      .inr ⟨[], skipped, rfl, by simp [IsBlockBody], passes⟩⟩
  | case4 place c rest notClosed inductionHypothesis =>
    obtain ⟨skipped, final, rfl, skips, passes⟩ := inductionHypothesis
    refine ⟨c :: skipped, final, rfl, moved place [c] skipped ▸ skips,
      passes_blockComment_cons (fun isStar isSlash => ?_) passes⟩
    obtain ⟨more, whole⟩ := List.head?_eq_some_iff.mp isSlash
    exact notClosed more isStar whole
  | case5 place rest inductionHypothesis =>
    obtain ⟨skipped, final, rfl, skips, passes⟩ := inductionHypothesis
    exact ⟨'-' :: '-' :: skipped, final, rfl, moved place ['-', '-'] skipped ▸ skips,
      ignored_of_lineMark .dashes passes⟩
  | case6 place rest inductionHypothesis =>
    obtain ⟨skipped, final, rfl, skips, passes⟩ := inductionHypothesis
    exact ⟨'/' :: '*' :: skipped, final, rfl, moved place ['/', '*'] skipped ▸ skips,
      ignored_of_blockMark passes⟩
  | case7 place c rest notLine notBlock isBlank inductionHypothesis =>
    obtain ⟨skipped, final, rfl, skips, passes⟩ := inductionHypothesis
    exact ⟨c :: skipped, final, rfl, moved place [c] skipped ▸ skips,
      (Filler.blank isBlank .nil).ignored passes⟩
  | case8 place c rest notLine notBlock notBlank isHash inductionHypothesis =>
    obtain ⟨skipped, final, rfl, skips, passes⟩ := inductionHypothesis
    obtain ⟨rfl, hashComments⟩ := isHash
    exact ⟨'#' :: skipped, final, rfl, moved place ['#'] skipped ▸ skips,
      ignored_of_lineMark (.hash hashComments) passes⟩
  | case9 place c rest notLine notBlock notBlank notHash =>
    exact ⟨[], c :: rest, rfl, rfl, .inl .nil,
      not_beginsGap_cons notLine notBlock notBlank notHash⟩

end Gap

end SqlSharding
