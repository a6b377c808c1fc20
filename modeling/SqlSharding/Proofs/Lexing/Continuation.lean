import SqlSharding.Lexer.Scan
import SqlSharding.Proofs.LetterCase

/-!
# Continuations

Where a lexeme ends depends on the characters behind it, but not on all of them and not on the case
of their letters. A stop is a character that ends every lexeme that is not quoted. Texts that agree up
to a stop, letter case aside, continue a lexeme in the same way.
-/

namespace SqlSharding

/-- A character that no lexeme of another beginning takes in, unless between quotes. -/
def isStop (c : Char) : Bool :=
  c == '"' || c == ';' || c == '/' || Text.isBlank c

/-- The second text agrees with the first, letter case aside, to its own end or up to some place where
it goes on with a stop. -/
inductive Continues : List Char → List Char → Prop
  | atEnd {others : List Char} : Continues others []
  | stop {others rest : List Char} {mark : Char} (isStop : isStop mark) :
      Continues others (mark :: rest)
  | later {c d : Char} {others rest : List Char} (sameLetter : d.toLower = c.toLower)
      (agree : Continues others rest) : Continues (c :: others) (d :: rest)

/-- A predicate that no stop satisfies and that does not tell small letters from capitals. -/
structure Stopped (accepts : Char → Bool) : Prop where
  atStop : ∀ c, isStop c → accepts c = false
  anyCase : ∀ c, accepts c.toLower = accepts c

/-- A predicate on blanks is decided on the finitely many that there are. -/
theorem Text.forall_isBlank {accepts : Char → Bool}
    (onBlanks : ∀ range ∈ blankRanges, ∀ point ∈ List.range' range.1 (range.2 + 1 - range.1),
      accepts (Char.ofNat point) = false)
    (c : Char) (isBlank : isBlank c) : accepts c = false := by
  obtain ⟨range, isRange, inRange⟩ := List.any_eq_true.mp isBlank
  simp only [Bool.and_eq_true, decide_eq_true_eq] at inRange
  have here := onBlanks range isRange c.toNat (by
    rw [List.mem_range'_1]
    omega)
  rwa [Char.ofNat_toNat] at here

/-- The characters on which it is decided that no stop satisfies a predicate, and that it is blind to
letter case. -/
theorem Stopped.of_decided {accepts : Char → Bool}
    (onMarks : accepts '"' = false ∧ accepts ';' = false ∧ accepts '/' = false)
    (onBlanks : ∀ range ∈ Text.blankRanges,
      ∀ point ∈ List.range' range.1 (range.2 + 1 - range.1), accepts (Char.ofNat point) = false)
    (onCapitals : ∀ point ∈ List.range' 65 26,
      accepts (Char.ofNat point).toLower = accepts (Char.ofNat point)) : Stopped accepts where
  atStop c isStop := by
    simp only [SqlSharding.isStop, Bool.or_eq_true, beq_iff_eq] at isStop
    rcases isStop with ((isQuote | isSemicolon) | isSlash) | isBlank
    · exact isQuote ▸ onMarks.1
    · exact isSemicolon ▸ onMarks.2.1
    · exact isSlash ▸ onMarks.2.2
    · exact Text.forall_isBlank onBlanks c isBlank
  anyCase := Text.forall_toLower onCapitals

namespace Stopped

variable {accepts others : Char → Bool}

/-- Two predicates that no stop satisfies are satisfied by none together. -/
theorem or (first : Stopped accepts) (second : Stopped others) :
    Stopped fun c => accepts c || others c where
  atStop c isStop := by rw [first.atStop c isStop, second.atStop c isStop, Bool.or_false]
  anyCase c := by rw [first.anyCase c, second.anyCase c]

/-- Letters that are the same in small form are both accepted or both not. -/
theorem sameLetter (stopped : Stopped accepts) {c d : Char} (same : d.toLower = c.toLower) :
    accepts d = accepts c := by
  rw [← stopped.anyCase d, ← stopped.anyCase c, same]

/-- What is accepted is no stop. -/
theorem not_isStop (stopped : Stopped accepts) {c : Char} (isAccepted : accepts c = true) :
    isStop c = false := by
  cases isStop : isStop c with
  | false => rfl
  | true => rw [stopped.atStop c isStop] at isAccepted; cases isAccepted

end Stopped

namespace Continues

variable {others rest : List Char} {accepts : Char → Bool}

/-- A text continues as itself. -/
theorem refl (characters : List Char) : Continues characters characters := by
  induction characters with
  | nil => exact .atEnd
  | cons c characters inductionHypothesis => exact .later rfl inductionHypothesis

/-- What stands before the stop stands in the other text too. -/
theorem of_not_isStop {front : List Char} (agree : Continues others (front ++ rest))
    (notStop : ∀ c ∈ front, isStop c = false) :
    ∃ same more, others = same ++ more ∧
      same.map Char.toLower = front.map Char.toLower ∧ Continues more rest := by
  induction front generalizing others with
  | nil => exact ⟨[], others, rfl, rfl, agree⟩
  | cons c front inductionHypothesis =>
    rw [List.cons_append] at agree
    cases agree with
    | stop isStop =>
      rw [notStop c List.mem_cons_self] at isStop
      cases isStop
    | @later d _ _ _ sameLetter agree =>
      obtain ⟨same, more, rfl, letters, later⟩ := inductionHypothesis agree fun a isIn =>
        notStop a (List.mem_cons_of_mem _ isIn)
      refine ⟨d :: same, more, rfl, ?_, later⟩
      rw [List.map_cons, List.map_cons, letters, sameLetter]

/-- What does not hold of the first character does not hold of the first character of the other
text. -/
theorem head?_any (agree : Continues others rest) (stopped : Stopped accepts)
    (none : others.head?.any accepts = false) : rest.head?.any accepts = false := by
  cases agree with
  | atEnd => rfl
  | stop isStop => simpa using stopped.atStop _ isStop
  | later sameLetter =>
    rw [List.head?_cons, Option.any_some] at none ⊢
    rw [stopped.sameLetter sameLetter, none]

/-- A character that is not ahead in a text is not ahead in one that continues in the same way either,
if it is no stop and no letter. -/
theorem head?_ne {c : Char} (agree : Continues others rest) (stopped : Stopped (· == c))
    (other : others.head? ≠ some c) : rest.head? ≠ some c := by
  intro isHead
  have none : others.head?.any (· == c) = false := by
    cases head : others.head? with
    | none => rfl
    | some d => simpa [head] using other
  have := agree.head?_any stopped none
  simp [isHead] at this

/-- A predicate that takes a piece off the front of a text takes the piece off another text too, in
other letter case and with a rest that continues in the same way. -/
theorem takeWhile_of_sameLetters (stopped : Stopped accepts) {characters piece : List Char}
    (letters : piece.map Char.toLower = (characters.takeWhile accepts).map Char.toLower)
    (agree : Continues (characters.dropWhile accepts) rest) :
    (piece ++ rest).takeWhile accepts = piece ∧ (piece ++ rest).dropWhile accepts = rest := by
  have ended : rest.head?.any accepts = false := by
    refine agree.head?_any stopped ?_
    cases dropped : characters.dropWhile accepts with
    | nil => rfl
    | cons c more =>
      have notAccepted := List.head?_dropWhile_not accepts characters
      rw [dropped] at notAccepted
      simpa using notAccepted
  have allAccepted : ∀ a ∈ piece, accepts a = true := by
    intro a isIn
    have isLetter := List.mem_map_of_mem (f := Char.toLower) isIn
    rw [letters] at isLetter
    obtain ⟨c, isTaken, sameLetter⟩ := List.mem_map.mp isLetter
    rw [← stopped.sameLetter sameLetter]
    exact List.all_eq_true.mp List.all_takeWhile c isTaken
  rw [List.takeWhile_append_of_pos allAccepted, List.dropWhile_append_of_pos allAccepted]
  cases rest with
  | nil => simp
  | cons c rest =>
    have notAccepted : accepts c = false := by simpa using ended
    simp [notAccepted]

/-- What a predicate takes off the front of a text, it takes off that front with a rest behind it
that continues in the same way. -/
theorem takeWhile (stopped : Stopped accepts) {characters : List Char}
    (agree : Continues (characters.dropWhile accepts) rest) :
    (characters.takeWhile accepts ++ rest).takeWhile accepts = characters.takeWhile accepts ∧
      (characters.takeWhile accepts ++ rest).dropWhile accepts = rest :=
  agree.takeWhile_of_sameLetters stopped rfl

/-- Pieces of the same letters, in front of texts that continue in the same way. -/
theorem prepend {piece same : List Char} (agree : Continues others rest)
    (letters : same.map Char.toLower = piece.map Char.toLower) :
    Continues (piece ++ others) (same ++ rest) := by
  induction piece generalizing same with
  | nil =>
    obtain rfl := List.map_eq_nil_iff.mp letters
    exact agree
  | cons c piece inductionHypothesis =>
    obtain ⟨d, same, rfl, sameLetter, letters⟩ := List.map_eq_cons_iff.mp letters
    exact .later sameLetter (inductionHypothesis letters)

/-- Texts continue in the same way behind the same front. -/
theorem append (front : List Char) (agree : Continues others rest) :
    Continues (front ++ others) (front ++ rest) :=
  agree.prepend rfl

end Continues

end SqlSharding
