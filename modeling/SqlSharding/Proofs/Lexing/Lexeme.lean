import SqlSharding.Proofs.Lexing.Continuation

/-!
# Lexemes

A lexeme is a front piece of the text, and the scanner never looks past a stop: where a text goes on
with a stop instead, or with letters of another case, the lexemes before are the same. A text that is
cut goes on with a break, a stop that is no blank and begins no comment.
-/

namespace SqlSharding

/-- A character that only begins lexemes: a double quote or a semicolon. -/
def isBreak (c : Char) : Bool :=
  c == '"' || c == ';'

/-- The second text agrees with the first up to some place, where it goes on with a break. -/
inductive Breaks : List Char → List Char → Prop
  | here {others rest : List Char} {mark : Char} (isBreak : isBreak mark) :
      Breaks others (mark :: rest)
  | later {c : Char} {others rest : List Char} (agree : Breaks others rest) :
      Breaks (c :: others) (c :: rest)

/-- A break is a double quote or a semicolon. -/
theorem isBreak_iff {c : Char} : isBreak c = true ↔ c = '"' ∨ c = ';' := by
  simp [isBreak]

namespace Breaks

variable {others rest : List Char}

/-- Texts agree up to a break behind the same front. -/
theorem append (front : List Char) (agree : Breaks others rest) :
    Breaks (front ++ others) (front ++ rest) := by
  induction front with
  | nil => exact agree
  | cons c front inductionHypothesis => exact .later inductionHypothesis

/-- A text that agrees up to a break continues lexemes in the same way. -/
theorem continues (agree : Breaks others rest) : Continues others rest := by
  induction agree with
  | here isBreak =>
    rcases isBreak_iff.mp isBreak with rfl | rfl <;> exact .stop (by decide)
  | later _ inductionHypothesis => exact .later rfl inductionHypothesis

end Breaks

/-- The text before the cut is the same, so what is not its first character is not that of the text
with the cut. -/
theorem Breaks.head?_ne {others rest : List Char} {c : Char} (agree : Breaks others rest)
    (notBreak : isBreak c = false) (other : others.head? ≠ some c) : rest.head? ≠ some c := by
  cases agree with
  | here isBreak =>
    rintro ⟨⟩
    simp [isBreak] at notBreak
  | later agree => simpa using other

/-- A dictionary that holds keywords only. -/
def Dictionary.HasKeywords (dictionary : Dictionary) : Prop :=
  ∀ word kind, dictionary.find? word = some kind → kind.isKeyword = true

namespace Scan

/-- Scanning behind a first character gives a lexeme that is the character and a front piece of the
text, and gives it again with another text behind it that continues in the same way. -/
def ReadsOff (first : Char) (scan : List Char → Except ScanFault Lexeme) (characters : List Char) :
    Prop :=
  ∀ lexeme, scan characters = .ok lexeme →
    ∃ body, characters = body ++ lexeme.rest ∧ lexeme.written = first :: body ∧
      ∀ rest, Continues lexeme.rest rest → scan (body ++ rest) = .ok { lexeme with rest }

variable {first : Char} {rules : LexicalRules} {dictionary : Dictionary} {characters : List Char}

/-- No stop continues an identifier. -/
theorem stopped_continuesIdentifier : Stopped continuesIdentifier :=
  .of_decided (by decide) (by decide +kernel) (by decide +kernel)

/-- No stop is a hexadecimal digit. -/
theorem stopped_isHexDigit : Stopped isHexDigit :=
  .of_decided (by decide) (by decide +kernel) (by decide +kernel)

/-- No stop is a digit. -/
theorem stopped_isDigit : Stopped Char.isDigit :=
  .of_decided (by decide) (by decide +kernel) (by decide +kernel)

/-- What begins an identifier may continue one. -/
theorem continuesIdentifier_of_begins {c : Char} (begins : beginsIdentifier c = true) :
    continuesIdentifier c = true := by
  simp only [beginsIdentifier, continuesIdentifier, Bool.or_eq_true] at *
  rcases begins with (alphabetic | underscore) | dollar
  · exact .inl (.inl (.inl (.inl alphabetic)))
  · exact .inl (.inl (.inr underscore))
  · exact .inl (.inr dollar)

/-- What is no string is written as its text. -/
theorem written_of_ne {kind : Kind} (notChars : kind ≠ .literal .chars) (text : List Char) :
    kind.written text = text := by
  rw [Kind.written, if_neg notChars]

/-- Extending a front piece by the accepted characters. -/
theorem extend_readsOff {kind : Kind} (notChars : kind ≠ .literal .chars) {accepts : Char → Bool}
    (stopped : Stopped accepts) (first : Char) (front characters : List Char) :
    (extend kind (first :: front) accepts characters).written =
        first :: (front ++ characters.takeWhile accepts) ∧
      ∀ rest, Continues (extend kind (first :: front) accepts characters).rest rest →
        extend kind (first :: front) accepts (characters.takeWhile accepts ++ rest) =
          { extend kind (first :: front) accepts characters with rest } := by
  refine ⟨by simp [extend, Lexeme.written, written_of_ne notChars], fun rest agree => ?_⟩
  obtain ⟨taken, dropped⟩ := agree.takeWhile stopped
  simp only [extend, taken, dropped]

/-- The characters that continue a variable. -/
def continuesVariable (c : Char) : Bool :=
  continuesIdentifier c || c == '.'

/-- The point is no stop. -/
theorem stopped_point : Stopped (· == '.') :=
  .of_decided (by decide) (by decide +kernel) (by decide +kernel)

/-- No stop continues a variable. -/
theorem stopped_continuesVariable : Stopped continuesVariable :=
  stopped_continuesIdentifier.or stopped_point

/-- The sign before a variable is no stop. -/
theorem stopped_at : Stopped (· == '@') :=
  .of_decided (by decide) (by decide +kernel) (by decide +kernel)

/-- A variable with one sign before it is the sign and the name. -/
theorem variableName_of_ne (notAt : characters.head? ≠ some '@') :
    variableName characters =
      extend (.literal .sessionVariable) ['@'] continuesVariable characters := by
  unfold variableName
  split
  · simp at notAt
  · rfl

/-- A variable is a session variable, with one sign before it or two. -/
theorem kind_variableName (characters : List Char) :
    (variableName characters).kind = .literal .sessionVariable := by
  unfold variableName
  split <;> rfl

/-- A variable is read off the front of the text. -/
theorem readsOff_variableName :
    ReadsOff '@' (fun rest => .ok (variableName rest)) characters := by
  intro lexeme scanned
  obtain rfl : variableName characters = lexeme := by simpa using scanned
  have notChars : Kind.literal .sessionVariable ≠ .literal .chars := by simp
  by_cases at_ : characters.head? = some '@'
  · obtain ⟨rest, rfl⟩ := List.head?_eq_some_iff.mp at_
    obtain ⟨written, again⟩ := extend_readsOff notChars stopped_continuesVariable '@'
      ['@'] rest
    refine ⟨'@' :: rest.takeWhile continuesVariable, ?_, written, fun after agree => ?_⟩
    · exact congrArg ('@' :: ·) List.takeWhile_append_dropWhile.symm
    · exact congrArg Except.ok (again after agree)
  · obtain ⟨written, again⟩ := extend_readsOff notChars stopped_continuesVariable '@' []
      characters
    rw [variableName_of_ne at_]
    refine ⟨characters.takeWhile continuesVariable, ?_, written, fun after agree => ?_⟩
    · simp [extend]
    · have whole := agree.append (characters.takeWhile continuesVariable)
      simp only [extend, List.takeWhile_append_dropWhile] at whole
      have unfolded := variableName_of_ne (whole.head?_ne stopped_at at_)
      exact congrArg Except.ok (unfolded.trans (again after agree))

/-- In a dictionary of keywords, a word is a keyword or an identifier. -/
theorem kind_word (keywords : dictionary.HasKeywords) (characters : List Char) :
    (word dictionary characters).kind = .literal .identifier ∨
      (word dictionary characters).kind.isKeyword = true := by
  simp only [word]
  cases found : dictionary.find? (String.ofList (characters.takeWhile continuesIdentifier)) with
  | none => exact .inl rfl
  | some kind => exact .inr (keywords _ _ found)

/-- A word is a keyword or an identifier. -/
theorem kind_word_ne {kind : Kind} (keywords : dictionary.HasKeywords) (characters : List Char)
    (notKeyword : kind.isKeyword = false) (notIdentifier : kind ≠ .literal .identifier) :
    (word dictionary characters).kind ≠ kind := by
  rintro rfl
  rcases kind_word keywords characters with isIdentifier | isKeyword
  · exact notIdentifier isIdentifier
  · rw [notKeyword] at isKeyword
    cases isKeyword

/-- A word is read off the front of the text. -/
theorem readsOff_word (keywords : dictionary.HasKeywords) (begins : beginsIdentifier first = true) :
    ReadsOff first (fun rest => .ok (word dictionary (first :: rest))) characters := by
  intro lexeme scanned
  obtain rfl : word dictionary (first :: characters) = lexeme := by simpa using scanned
  have continues := continuesIdentifier_of_begins begins
  refine ⟨characters.takeWhile continuesIdentifier, ?_, ?_, fun after agree => ?_⟩
  · simp [word, continues]
  · rw [Lexeme.written, written_of_ne (kind_word_ne keywords _ rfl (by decide))]
    simp [word, continues]
  · have agree : Continues (characters.dropWhile continuesIdentifier) after := by
      simpa [word, continues] using agree
    obtain ⟨taken, dropped⟩ := agree.takeWhile stopped_continuesIdentifier
    simp [word, continues, taken, dropped]

/-- A hexadecimal number is read off the front of the text. -/
theorem readsOff_hex {c : Char} :
    ReadsOff first (fun rest => .ok (extend (.literal .hex) (first :: rest.take 1) isHexDigit
      (rest.drop 1))) (c :: characters) := by
  intro lexeme scanned
  obtain rfl := Except.ok.inj scanned
  obtain ⟨written, again⟩ := extend_readsOff (by simp : Kind.literal .hex ≠ .literal .chars)
    stopped_isHexDigit first [c] characters
  refine ⟨c :: characters.takeWhile isHexDigit, ?_, written, fun after agree => ?_⟩
  · simp [extend]
  · exact congrArg Except.ok (again after agree)

/-- What is read off the front of some characters as an option, or else nothing. -/
def ReadsOption (read : List Char → Option (List Char × List Char)) : Prop :=
  ∀ characters taken rest, (read characters).getD ([], characters) = (taken, rest) →
    characters = taken ++ rest ∧
      ∀ after, Continues rest after → (read (taken ++ after)).getD ([], taken ++ after) = (taken, after)

/-- The fraction of a number is read off the front, or nothing is. -/
theorem fraction_readsOption : ReadsOption fraction := by
  intro characters taken rest found
  unfold fraction at found
  split at found
  · rename_i more
    obtain ⟨rfl, rfl⟩ : '.' :: more.takeWhile Char.isDigit = taken ∧
        more.dropWhile Char.isDigit = rest := by
      simpa using found
    refine ⟨by simp, fun after agree => ?_⟩
    obtain ⟨same, dropped⟩ := agree.takeWhile stopped_isDigit
    simp [fraction, same, dropped]
  · rename_i notPoint
    obtain ⟨rfl, rfl⟩ : [] = taken ∧ characters = rest := by simpa using found
    refine ⟨rfl, fun after agree => ?_⟩
    have other := agree.head?_ne stopped_point (by
      intro isPoint
      obtain ⟨more, rfl⟩ := List.head?_eq_some_iff.mp isPoint
      exact notPoint _ rfl)
    have none : fraction after = none := by
      unfold fraction
      split
      · simp at other
      · rfl
    simp [none]

/-- The front of an exponent: its mark, and a sign if there is one. -/
inductive ExponentFront : List Char → Prop
  | unsigned {mark : Char} (isMark : mark = 'e' ∨ mark = 'E') : ExponentFront [mark]
  | signed {mark sign : Char} (isMark : mark = 'e' ∨ mark = 'E') (isSign : sign = '+' ∨ sign = '-') :
      ExponentFront [mark, sign]

/-- Behind the front of an exponent, the digits that follow belong to it. -/
theorem exponent_of_front {front : List Char} (isFront : ExponentFront front) {digit : Char}
    (isDigit : digit.isDigit = true) (more : List Char) :
    exponent (front ++ digit :: more) =
      some (front ++ digit :: more.takeWhile Char.isDigit, more.dropWhile Char.isDigit) := by
  have notSign : ¬(digit = '+' ∨ digit = '-') := by
    rintro (rfl | rfl) <;> simp at isDigit
  cases isFront with
  | unsigned isMark =>
    cases more with
    | nil => simp [exponent, isMark, isDigit]
    | cons second more => simp [exponent, isMark, isDigit, notSign]
  | signed isMark isSign => simp [exponent, isMark, isSign, isDigit]

/-- An exponent has a front and at least one digit behind it. -/
theorem exists_front_of_exponent {characters : List Char} {found : List Char × List Char}
    (isSome : exponent characters = some found) :
    ∃ front digit more, ExponentFront front ∧ digit.isDigit = true ∧
      characters = front ++ digit :: more := by
  unfold exponent at isSome
  split at isSome
  · split at isSome
    · rename_i isMark
      split at isSome
      · rename_i mark first second more
        split at isSome
        · rename_i signed
          exact ⟨_, second, more, .signed isMark signed.1, signed.2, rfl⟩
        · split at isSome
          · rename_i isDigit
            exact ⟨_, first, second :: more, .unsigned isMark, isDigit, rfl⟩
          · cases isSome
      · rename_i digit
        split at isSome
        · rename_i isDigit
          exact ⟨_, digit, [], .unsigned isMark, isDigit, rfl⟩
        · cases isSome
      · cases isSome
    · cases isSome
  · cases isSome

/-- The mark of an exponent is no stop. -/
theorem stopped_exponentMark : Stopped (fun c => c == 'e' || c == 'E') :=
  .of_decided (by decide) (by decide +kernel) (by decide +kernel)

/-- The sign of an exponent is no stop. -/
theorem stopped_exponentSign : Stopped (fun c => c == '+' || c == '-') :=
  .of_decided (by decide) (by decide +kernel) (by decide +kernel)

/-- The front of an exponent has no stop in it. -/
theorem ExponentFront.not_isStop {front : List Char} (isFront : ExponentFront front) :
    ∀ c ∈ front, isStop c = false := by
  cases isFront with
  | unsigned isMark =>
    simpa using stopped_exponentMark.not_isStop (by simpa using isMark)
  | signed isMark isSign =>
    simpa using ⟨stopped_exponentMark.not_isStop (by simpa using isMark),
      stopped_exponentSign.not_isStop (by simpa using isSign)⟩

/-- The front of an exponent is one in either letter case. -/
theorem ExponentFront.sameLetters {front same : List Char} (isFront : ExponentFront front)
    (letters : same.map Char.toLower = front.map Char.toLower) : ExponentFront same := by
  cases isFront with
  | unsigned isMark =>
    obtain ⟨mark, rfl, sameMark⟩ := List.map_eq_singleton_iff.mp letters
    have isMark : (mark == 'e' || mark == 'E') = true := by
      rw [stopped_exponentMark.sameLetter sameMark]
      simpa using isMark
    exact .unsigned (by simpa using isMark)
  | signed isMark isSign =>
    obtain ⟨mark, others, rfl, sameMark, letters⟩ := List.map_eq_cons_iff.mp letters
    obtain ⟨sign, rfl, sameSign⟩ := List.map_eq_singleton_iff.mp letters
    have isMark : (mark == 'e' || mark == 'E') = true := by
      rw [stopped_exponentMark.sameLetter sameMark]
      simpa using isMark
    have isSign : (sign == '+' || sign == '-') = true := by
      rw [stopped_exponentSign.sameLetter sameSign]
      simpa using isSign
    exact .signed (by simpa using isMark) (by simpa using isSign)

/-- The exponent of a number is read off the front, or nothing is. -/
theorem exponent_readsOption : ReadsOption exponent := by
  intro characters taken rest found
  cases result : exponent characters with
  | some pair =>
    obtain ⟨front, digit, more, isFront, isDigit, rfl⟩ := exists_front_of_exponent result
    rw [exponent_of_front isFront isDigit, Option.getD_some] at found
    obtain ⟨rfl, rfl⟩ := Prod.mk.inj found
    refine ⟨by simp, fun after agree => ?_⟩
    obtain ⟨same, dropped⟩ := agree.takeWhile stopped_isDigit
    rw [List.append_assoc, List.cons_append, exponent_of_front isFront isDigit, same, dropped,
      Option.getD_some]
  | none =>
    rw [result, Option.getD_none] at found
    obtain ⟨rfl, rfl⟩ := Prod.mk.inj found
    refine ⟨rfl, fun after agree => ?_⟩
    -- The front of an exponent in the other text would stand in this text as well.
    cases again : exponent after with
    | none => simp [again]
    | some pair =>
      obtain ⟨front, digit, more, isFront, isDigit, rfl⟩ := exists_front_of_exponent again
      obtain ⟨same, others, rfl, letters, later⟩ := agree.of_not_isStop isFront.not_isStop
      cases later with
      | stop isStop =>
        rw [stopped_isDigit.atStop _ isStop] at isDigit
        cases isDigit
      | later sameDigit =>
        rw [stopped_isDigit.sameLetter sameDigit] at isDigit
        rw [exponent_of_front (isFront.sameLetters letters) isDigit] at result
        cases result

/-- A number is a front piece of the text, and it is the same number wherever the text continues in the
same way. -/
theorem number_splits (characters : List Char) :
    characters = (number characters).text ++ (number characters).rest ∧
      ∀ after, Continues (number characters).rest after →
        number ((number characters).text ++ after) = { number characters with rest := after } := by
  cases point : (fraction (characters.dropWhile Char.isDigit)).getD
      ([], characters.dropWhile Char.isDigit) with
  | mk pointText afterPoint =>
    cases power : (exponent afterPoint).getD ([], afterPoint) with
    | mk powerText afterPower =>
      obtain ⟨atPoint, pointAgain⟩ := fraction_readsOption _ _ _ point
      obtain ⟨atPower, powerAgain⟩ := exponent_readsOption _ _ _ power
      have unfolded : number characters =
          ⟨if pointText.isEmpty && powerText.isEmpty then .literal .int else .literal .float,
            characters.takeWhile Char.isDigit ++ pointText ++ powerText, afterPower⟩ := by
        simp only [number, point, power]
      rw [unfolded]
      refine ⟨?_, fun after agree => ?_⟩
      · rw [List.append_assoc, List.append_assoc, ← atPower, ← atPoint,
          List.takeWhile_append_dropWhile]
      · have afterPowerAgain := powerAgain after agree
        have whole := agree.append powerText
        rw [← atPower] at whole
        have afterPointAgain := pointAgain _ whole
        have whole := whole.append pointText
        rw [← atPoint] at whole
        obtain ⟨same, dropped⟩ := whole.takeWhile stopped_isDigit
        simp only [number, List.append_assoc, same, dropped, afterPointAgain, afterPowerAgain]

/-- The text of a number begins with the character that begins the number. -/
theorem number_text (begins : first.isDigit ∨ first = '.') (characters : List Char) :
    ∃ body, (number (first :: characters)).text = first :: body := by
  have isHead : (number (first :: characters)).text.head? = some first := by
    rcases begins with isDigit | rfl
    · simp [number, isDigit]
    · rfl
  exact List.head?_eq_some_iff.mp isHead

/-- A number is an integer or has a fraction or an exponent. -/
theorem kind_number (characters : List Char) :
    (number characters).kind = .literal .int ∨ (number characters).kind = .literal .float := by
  simp only [number]
  split
  · exact .inl rfl
  · exact .inr rfl

/-- A number is read off the front of the text. -/
theorem readsOff_number (begins : first.isDigit ∨ first = '.') :
    ReadsOff first (fun rest => .ok (number (first :: rest))) characters := by
  intro lexeme scanned
  obtain rfl := Except.ok.inj scanned
  obtain ⟨body, text⟩ := number_text begins characters
  obtain ⟨whole, again⟩ := number_splits (first :: characters)
  have notChars : (number (first :: characters)).kind ≠ .literal .chars := by
    rcases kind_number (first :: characters) with isKind | isKind <;> simp [isKind]
  refine ⟨body, ?_, ?_, fun after agree => ?_⟩
  · rw [text, List.cons_append] at whole
    exact (List.cons.inj whole).2
  · rw [Lexeme.written, written_of_ne notChars, text]
  · have again := again after agree
    rw [text, List.cons_append] at again
    exact congrArg Except.ok again

/-- A single quote is no stop. -/
theorem stopped_quote : Stopped (· == '\'') :=
  .of_decided (by decide) (by decide +kernel) (by decide +kernel)

/-- A string is a front piece of the text up to its closing quote, with the quotes in its value doubled,
and it has the same value wherever the text continues in the same way. -/
theorem stringValue_splits {characters value rest : List Char}
    (found : stringValue characters = some (value, rest)) :
    characters = doubleQuotes value ++ '\'' :: rest ∧
      ∀ after, Continues rest after →
        stringValue (doubleQuotes value ++ '\'' :: after) = some (value, after) := by
  fun_induction stringValue characters generalizing value rest with
  | case1 more inductionHypothesis =>
    obtain ⟨⟨value, rest⟩, inner, same⟩ := Option.map_eq_some_iff.mp found
    obtain ⟨rfl, rfl⟩ := Prod.mk.inj same
    obtain ⟨whole, again⟩ := inductionHypothesis inner
    refine ⟨by simpa [doubleQuotes] using whole, fun after agree => ?_⟩
    have later := again after agree
    simp only [doubleQuotes] at later
    simp [doubleQuotes, stringValue, later]
  | case2 more notDoubled =>
    obtain ⟨rfl, rfl⟩ := Prod.mk.inj (Option.some.inj found)
    refine ⟨by simp [doubleQuotes], fun after agree => ?_⟩
    have other := agree.head?_ne stopped_quote (by
      intro isQuote
      obtain ⟨rest, rfl⟩ := List.head?_eq_some_iff.mp isQuote
      exact notDoubled rest rfl rfl)
    show stringValue ('\'' :: after) = some ([], after)
    unfold stringValue
    split
    · rename_i same
      simp [(List.cons.inj same).2] at other
    · rename_i same
      obtain ⟨rfl, rfl⟩ := List.cons.inj same
      rfl
    · rename_i same
      cases same
  | case3 c more notDoubled notQuote inductionHypothesis =>
    obtain ⟨⟨value, rest⟩, inner, same⟩ := Option.map_eq_some_iff.mp found
    obtain ⟨rfl, rfl⟩ := Prod.mk.inj same
    obtain ⟨whole, again⟩ := inductionHypothesis inner
    refine ⟨by simpa [doubleQuotes, notQuote] using whole, fun after agree => ?_⟩
    have later := again after agree
    simp only [doubleQuotes] at later
    simp [doubleQuotes, stringValue, notQuote, later]
  | case4 => cases found

/-- A string is read off the front of the text. -/
theorem readsOff_string : ReadsOff '\'' string characters := by
  intro lexeme scanned
  unfold string at scanned
  split at scanned
  · rename_i value rest found
    obtain rfl := Except.ok.inj scanned
    obtain ⟨whole, again⟩ := stringValue_splits found
    refine ⟨doubleQuotes value ++ ['\''], by simpa using whole, ?_, fun after agree => ?_⟩
    · simp [Lexeme.written, Kind.written]
    · simp only [string, List.append_assoc, List.cons_append, List.nil_append, again after agree]
  · cases scanned

/-- What is between quotes of an identifier is an identifier. -/
theorem kind_quotedIdentifier {opening closing : Char} {lexeme : Lexeme}
    (scanned : quotedIdentifier opening closing characters = .ok lexeme) :
    lexeme.kind = .literal .identifier := by
  unfold quotedIdentifier at scanned
  split at scanned
  · obtain rfl := Except.ok.inj scanned
    rfl
  · cases scanned

/-- A quoted identifier is read off the front of the text. -/
theorem readsOff_quotedIdentifier (closing : Char) :
    ReadsOff first (quotedIdentifier first closing) characters := by
  intro lexeme scanned
  unfold quotedIdentifier at scanned
  split at scanned
  · rename_i last rest dropped
    obtain rfl := Except.ok.inj scanned
    have whole := List.takeWhile_append_dropWhile (p := (· != closing)) (l := characters)
    rw [dropped] at whole
    refine ⟨characters.takeWhile (· != closing) ++ [last], by simpa using whole.symm, ?_,
      fun after _ => ?_⟩
    · simp [Lexeme.written, Kind.written]
    · have notClosing := List.head?_dropWhile_not (· != closing) characters
      rw [dropped] at notClosing
      have allInside : ∀ a ∈ characters.takeWhile (· != closing), (a != closing) = true :=
        fun a isTaken => List.all_eq_true.mp List.all_takeWhile a isTaken
      have isLast : last = closing := by simpa using notClosing
      subst isLast
      simp [quotedIdentifier, List.takeWhile_append_of_pos allInside,
        List.dropWhile_append_of_pos allInside]
  · cases scanned

/-- No stop is the second character of a symbol. -/
theorem stopped_pairSymbol (first : Char) : Stopped (fun c => (pairSymbol? first c).isSome) := by
  by_cases isLess : first = '<'
  · subst isLess
    exact .of_decided (by decide) (by decide +kernel) (by decide +kernel)
  by_cases isGreater : first = '>'
  · subst isGreater
    exact .of_decided (by decide) (by decide +kernel) (by decide +kernel)
  by_cases isExclamation : first = '!'
  · subst isExclamation
    exact .of_decided (by decide) (by decide +kernel) (by decide +kernel)
  by_cases isBar : first = '|'
  · subst isBar
    exact .of_decided (by decide) (by decide +kernel) (by decide +kernel)
  · have none : ∀ c, pairSymbol? first c = none := by
      intro c
      unfold pairSymbol?
      split
      all_goals first | rfl | contradiction
    simp only [none]
    exact ⟨fun _ _ => rfl, fun _ => rfl⟩

/-- A symbol is read off the front of the text. -/
theorem readsOff_symbol : ReadsOff first (symbol first) characters := by
  intro lexeme scanned
  unfold symbol at scanned
  split at scanned
  · rename_i mark isPair
    obtain rfl := Except.ok.inj scanned
    obtain ⟨second, isHead, found⟩ := Option.bind_eq_some_iff.mp isPair
    obtain ⟨more, rfl⟩ := List.head?_eq_some_iff.mp isHead
    exact ⟨[second], rfl, by simp [Lexeme.written, Kind.written], fun after _ => by
      simp [symbol, found]⟩
  · rename_i notPair
    split at scanned
    · rename_i mark isSingle
      obtain rfl := Except.ok.inj scanned
      refine ⟨[], rfl, by simp [Lexeme.written, Kind.written], fun after agree => ?_⟩
      have noPair := agree.head?_any (stopped_pairSymbol first) (by
        cases head : characters.head? with
        | none => rfl
        | some c => simpa [head] using notPair)
      have notPair : after.head?.bind (pairSymbol? first) = none := by
        cases head : after.head? with
        | none => rfl
        | some c => simpa [head] using noPair
      simp [symbol, notPair, isSingle]
    · cases scanned

/-- Two scanners that agree on the characters and on their cuts read off the same. -/
theorem ReadsOff.congr {scan other : List Char → Except ScanFault Lexeme}
    (reads : ReadsOff first scan characters) (here : other characters = scan characters)
    (cut : ∀ c more rest, characters = c :: more → other (c :: rest) = scan (c :: rest))
    (behind : ∀ lexeme, scan characters = .ok lexeme → lexeme.written = [first] →
      ∀ rest, Continues characters rest → other rest = scan rest) :
    ReadsOff first other characters := by
  intro lexeme scanned
  rw [here] at scanned
  obtain ⟨body, whole, written, again⟩ := reads lexeme scanned
  refine ⟨body, whole, written, fun rest agree => ?_⟩
  rw [← again rest agree]
  cases body with
  | nil => exact behind lexeme scanned written rest (whole ▸ agree)
  | cons c more => exact cut c (more ++ lexeme.rest) (more ++ rest) whole

/-- The lexemes that do not depend on the character behind the first one. -/
def quoteOrSymbol (rules : LexicalRules) (first : Char) (rest : List Char) :
    Except ScanFault Lexeme :=
  if first = '\'' then string rest
  else if first = '"' then quotedIdentifier '"' '"' rest
  else if first = '\x60' ∧ rules.backtickQuotes then quotedIdentifier '\x60' '\x60' rest
  else if first = '[' ∧ rules.bracketQuotes then quotedIdentifier '[' ']' rest
  else symbol first rest

/-- What begins with a quote or a symbol is read off the front of the text. -/
theorem readsOff_quoteOrSymbol : ReadsOff first (quoteOrSymbol rules first) characters := by
  unfold quoteOrSymbol
  by_cases isString : first = '\''
  · simp only [if_pos isString]
    obtain rfl := isString
    exact readsOff_string
  by_cases isQuoted : first = '"'
  · simp only [if_neg isString, if_pos isQuoted]
    obtain rfl := isQuoted
    exact readsOff_quotedIdentifier '"'
  by_cases isBacktick : first = '\x60' ∧ rules.backtickQuotes
  · simp only [if_neg isString, if_neg isQuoted, if_pos isBacktick]
    obtain ⟨rfl, -⟩ := isBacktick
    exact readsOff_quotedIdentifier '\x60'
  by_cases isBracket : first = '[' ∧ rules.bracketQuotes
  · simp only [if_neg isString, if_neg isQuoted, if_neg isBacktick, if_pos isBracket]
    obtain ⟨rfl, -⟩ := isBracket
    exact readsOff_quotedIdentifier ']'
  simp only [if_neg isString, if_neg isQuoted, if_neg isBacktick, if_neg isBracket]
  exact readsOff_symbol

/-- The mark of a hexadecimal number is no stop. -/
theorem stopped_hexMark : Stopped (fun c => c == 'x' || c == 'X') :=
  .of_decided (by decide) (by decide +kernel) (by decide +kernel)

/-- No hexadecimal number begins by a cut. -/
theorem not_hex_of_continues {others rest : List Char}
    (notHex : ¬(first = '0' ∧ (others.head? = some 'x' ∨ others.head? = some 'X')))
    (agree : Continues others rest) :
    ¬(first = '0' ∧ (rest.head? = some 'x' ∨ rest.head? = some 'X')) := by
  rintro ⟨isZero, marked⟩
  have none := agree.head?_any stopped_hexMark (by
    cases head : others.head? with
    | none => rfl
    | some c => simpa [head, isZero] using notHex)
  rcases marked with isMark | isMark <;> simp [isMark] at none

/-- No number begins by a cut. -/
theorem not_number_of_continues {others rest : List Char}
    (notNumber : ¬(first.isDigit ∨ first = '.' ∧ others.head?.any Char.isDigit))
    (agree : Continues others rest) :
    ¬(first.isDigit ∨ first = '.' ∧ rest.head?.any Char.isDigit) := by
  rintro (isDigit | ⟨isPoint, digitAhead⟩)
  · exact notNumber (.inl isDigit)
  · have noDigit := agree.head?_any stopped_isDigit
      (by simpa using fun digitAhead => notNumber (.inr ⟨isPoint, digitAhead⟩))
    rw [noDigit] at digitAhead
    cases digitAhead

/-- A hexadecimal number is read off the front of the text. Its mark is part of it, so it is never the
first character alone. -/
theorem readsOff_lexeme_of_hex (atVariable : ¬(first = '@' ∧ rules.atVariables))
    (begins : ¬beginsIdentifier first = true)
    (isHex : first = '0' ∧ (characters.head? = some 'x' ∨ characters.head? = some 'X')) :
    ReadsOff first (lexeme rules dictionary first) characters := by
  obtain ⟨c, more, rfl⟩ : ∃ c more, characters = c :: more := by
    cases characters with
    | nil => simp at isHex
    | cons c more => exact ⟨c, more, rfl⟩
  refine readsOff_hex.congr ?_ ?_ ?_
  · rw [lexeme, if_neg atVariable, if_neg begins, if_pos isHex]
  · intro c' more' rest same
    obtain ⟨rfl, rfl⟩ := List.cons.inj same
    rw [lexeme, if_neg atVariable, if_neg begins, if_pos (by simpa using isHex)]
  · intro lexeme scanned written
    obtain rfl := Except.ok.inj scanned
    simp [extend, Lexeme.written, Kind.written] at written

/-- A decimal number is read off the front of the text. One of a single character is a digit, since a
point is followed by one. -/
theorem readsOff_lexeme_of_number (atVariable : ¬(first = '@' ∧ rules.atVariables))
    (begins : ¬beginsIdentifier first = true)
    (isHex : ¬(first = '0' ∧ (characters.head? = some 'x' ∨ characters.head? = some 'X')))
    (isNumber : first.isDigit ∨ first = '.' ∧ characters.head?.any Char.isDigit) :
    ReadsOff first (lexeme rules dictionary first) characters := by
  refine (readsOff_number (isNumber.imp_right And.left)).congr ?_ ?_ ?_
  · rw [lexeme, if_neg atVariable, if_neg begins, if_neg isHex, if_pos isNumber]
  · rintro c more rest rfl
    rw [lexeme, if_neg atVariable, if_neg begins, if_neg (by simpa using isHex),
      if_pos (by simpa using isNumber)]
  · intro lexeme scanned written rest agree
    have isDigit : first.isDigit = true := by
      refine isNumber.resolve_right fun ⟨isPoint, digitAhead⟩ => ?_
      obtain ⟨digit, isHead, isDigit⟩ := (Option.any_eq_true ..).mp digitAhead
      obtain ⟨more, rfl⟩ := List.head?_eq_some_iff.mp isHead
      obtain rfl := Except.ok.inj scanned
      subst isPoint
      simp [number, fraction, isDigit, Lexeme.written, Kind.written] at written
    rw [Scan.lexeme, if_neg atVariable, if_neg begins,
      if_neg (not_hex_of_continues isHex agree), if_pos (.inl isDigit)]

/-- Every lexeme is read off the front of the text. -/
theorem readsOff_lexeme (keywords : dictionary.HasKeywords) :
    ReadsOff first (lexeme rules dictionary first) characters := by
  by_cases atVariable : first = '@' ∧ rules.atVariables
  · have same : lexeme rules dictionary first = fun rest => .ok (variableName rest) := by
      funext rest
      rw [lexeme, if_pos atVariable]
    rw [same, atVariable.1]
    exact readsOff_variableName
  by_cases begins : beginsIdentifier first = true
  · have same : lexeme rules dictionary first = fun rest => .ok (word dictionary (first :: rest)) := by
      funext rest
      rw [lexeme, if_neg atVariable, if_pos begins]
    rw [same]
    exact readsOff_word keywords begins
  by_cases isHex : first = '0' ∧ (characters.head? = some 'x' ∨ characters.head? = some 'X')
  · exact readsOff_lexeme_of_hex atVariable begins isHex
  by_cases isNumber : first.isDigit ∨ first = '.' ∧ characters.head?.any Char.isDigit
  · exact readsOff_lexeme_of_number atVariable begins isHex isNumber
  -- Neither number begins by a cut, so what is behind the first character does not matter.
  have same : ∀ rest, ¬(first = '0' ∧ (rest.head? = some 'x' ∨ rest.head? = some 'X')) →
      ¬(first.isDigit ∨ first = '.' ∧ rest.head?.any Char.isDigit) →
      lexeme rules dictionary first rest = quoteOrSymbol rules first rest := by
    intro rest notHex notNumber
    rw [lexeme, if_neg atVariable, if_neg begins, if_neg notHex, if_neg notNumber, quoteOrSymbol]
  refine readsOff_quoteOrSymbol.congr (same _ isHex isNumber) ?_ ?_
  · rintro c more rest rfl
    exact same _ (by simpa using isHex) (by simpa using isNumber)
  · intro lexeme _ _ rest agree
    exact same _ (not_hex_of_continues isHex agree) (not_number_of_continues isNumber agree)

end Scan

end SqlSharding
