import SqlSharding.Proofs.Tiling

/-!
# Parentheses in tokens

A parenthesis in a text is a token of its own, or it stands between quotes or in a comment. So what is a
parenthesis among the tokens is one in the text, and no other character of a text counts as one.
-/

namespace SqlSharding

/-- Whether a character is a parenthesis. -/
def isParenthesis (c : Char) : Bool :=
  c == '(' || c == ')'

/-- No parenthesis is among the characters. -/
def NoParenthesis (characters : List Char) : Prop :=
  ∀ c ∈ characters, isParenthesis c = false

instance : DecidablePred NoParenthesis :=
  List.decidableBAll (isParenthesis · = false)

/-- What a piece of this kind and text has to do with parentheses. -/
inductive Kind.Parentheses (rules : LexicalRules) : Kind → List Char → Prop
  | opening : Parentheses rules (.symbol .leftParen) ['(']
  | closing : Parentheses rules (.symbol .rightParen) [')']
  | string (value : List Char) : Parentheses rules (.literal .chars) value
  | identifier {opening closing : Char} {body : List Char} (quotes : IdentifierQuotes rules opening closing)
      (notClosed : closing ∉ body) :
      Parentheses rules (.literal .identifier) (opening :: body ++ [closing])
  | none {kind : Kind} {text : List Char} (notOpening : kind ≠ .symbol .leftParen)
      (notClosing : kind ≠ .symbol .rightParen) (noneIn : NoParenthesis text) :
      Parentheses rules kind text

namespace NoParenthesis

variable {front behind characters : List Char} {c : Char}

/-- Two texts without a parenthesis make one. -/
theorem append (inFront : NoParenthesis front) (inBehind : NoParenthesis behind) :
    NoParenthesis (front ++ behind) :=
  List.forall_mem_append.mpr ⟨inFront, inBehind⟩

/-- A character that is no parenthesis goes before a text without one. -/
theorem cons (other : isParenthesis c = false) (later : NoParenthesis characters) :
    NoParenthesis (c :: characters) :=
  List.forall_mem_cons.mpr ⟨other, later⟩

/-- What is taken of a class that holds no parenthesis has none in it. -/
theorem takeWhile {accepts : Char → Bool} (noOpening : accepts '(' = false)
    (noClosing : accepts ')' = false) (characters : List Char) :
    NoParenthesis (characters.takeWhile accepts) := by
  intro c isTaken
  have accepted := List.all_eq_true.mp List.all_takeWhile c isTaken
  rw [isParenthesis, Bool.or_eq_false_iff, beq_eq_false_iff_ne, beq_eq_false_iff_ne]
  constructor
  · rintro rfl
    exact Bool.false_ne_true (noOpening.symm.trans accepted)
  · rintro rfl
    exact Bool.false_ne_true (noClosing.symm.trans accepted)

end NoParenthesis

namespace Scan

variable {rules : LexicalRules} {dictionary : Dictionary} {first : Char} {rest : List Char}
  {found : Lexeme}

/-- Digits hold no parenthesis. -/
theorem noParenthesis_digits (characters : List Char) :
    NoParenthesis (characters.takeWhile Char.isDigit) :=
  .takeWhile (by decide) (by decide) characters

/-- A variable holds no parenthesis. -/
theorem noParenthesis_variableName (characters : List Char) :
    NoParenthesis (variableName characters).text := by
  have continues (more : List Char) : NoParenthesis
      (more.takeWhile fun c => continuesIdentifier c || c == '.') :=
    .takeWhile (by decide +kernel) (by decide +kernel) more
  unfold variableName
  split
  · exact .append (by decide) (continues _)
  · exact .append (by decide) (continues _)

/-- A word holds no parenthesis. -/
theorem noParenthesis_word (characters : List Char) :
    NoParenthesis (word dictionary characters).text :=
  .takeWhile (by decide +kernel) (by decide +kernel) characters

/-- The fraction of a number holds no parenthesis. -/
theorem noParenthesis_fraction {characters taken behind : List Char}
    (found : (fraction characters).getD ([], characters) = (taken, behind)) : NoParenthesis taken := by
  unfold fraction at found
  split at found
  · obtain ⟨rfl, -⟩ := Prod.mk.inj found
    exact .cons (by decide) (noParenthesis_digits _)
  · obtain ⟨rfl, -⟩ := Prod.mk.inj found
    nofun

/-- The front of an exponent holds no parenthesis. -/
theorem ExponentFront.noParenthesis {front : List Char} (isFront : ExponentFront front) :
    NoParenthesis front := by
  cases isFront with
  | unsigned isMark => rcases isMark with rfl | rfl <;> decide
  | signed isMark isSign => rcases isMark with rfl | rfl <;> rcases isSign with rfl | rfl <;> decide

/-- The exponent of a number holds no parenthesis. -/
theorem noParenthesis_exponent {characters taken behind : List Char}
    (found : (exponent characters).getD ([], characters) = (taken, behind)) : NoParenthesis taken := by
  cases result : exponent characters with
  | none =>
    rw [result, Option.getD_none] at found
    obtain ⟨rfl, -⟩ := Prod.mk.inj found
    nofun
  | some pair =>
    obtain ⟨front, digit, more, isFront, isDigit, rfl⟩ := exists_front_of_exponent result
    rw [exponent_of_front isFront isDigit, Option.getD_some] at found
    obtain ⟨rfl, -⟩ := Prod.mk.inj found
    have digits := noParenthesis_digits (digit :: more)
    rw [List.takeWhile_cons_of_pos isDigit] at digits
    exact isFront.noParenthesis.append digits

/-- A number holds no parenthesis. -/
theorem noParenthesis_number (characters : List Char) : NoParenthesis (number characters).text := by
  cases point : (fraction (characters.dropWhile Char.isDigit)).getD
      ([], characters.dropWhile Char.isDigit) with
  | mk pointText afterPoint =>
    cases power : (exponent afterPoint).getD ([], afterPoint) with
    | mk powerText afterPower =>
      simp only [number, point, power]
      exact ((noParenthesis_digits _).append (noParenthesis_fraction point)).append
        (noParenthesis_exponent power)

/-- A symbol of two characters holds no parenthesis, and it is none. -/
theorem noParenthesis_pairSymbol {second : Char} {mark : Symbol}
    (pair : pairSymbol? first second = some mark) :
    NoParenthesis [first, second] ∧ mark ≠ .leftParen ∧ mark ≠ .rightParen := by
  unfold pairSymbol? at pair
  split at pair <;> cases pair <;> decide

/-- The symbols of one character, of which two are parentheses. -/
theorem singleSymbol_cases {mark : Symbol} (single : singleSymbol? first = some mark) :
    (first = '(' ∧ mark = .leftParen) ∨ (first = ')' ∧ mark = .rightParen) ∨
      (NoParenthesis [first] ∧ mark ≠ .leftParen ∧ mark ≠ .rightParen) := by
  unfold singleSymbol? at single
  split at single <;> cases single <;> decide

/-- A symbol is a parenthesis, or it holds none. -/
theorem parentheses_of_symbol (scanned : symbol first rest = .ok found) :
    found.kind.Parentheses rules found.text := by
  have isSymbol {mark other : Symbol} (notOther : mark ≠ other) : Kind.symbol mark ≠ .symbol other :=
    fun same => notOther (Kind.symbol.inj same)
  unfold symbol at scanned
  split at scanned
  · rename_i mark isPair
    obtain rfl := Except.ok.inj scanned
    obtain ⟨second, isHead, pair⟩ := Option.bind_eq_some_iff.mp isPair
    obtain ⟨more, rfl⟩ := List.head?_eq_some_iff.mp isHead
    obtain ⟨noneIn, notOpening, notClosing⟩ := noParenthesis_pairSymbol pair
    exact .none (isSymbol notOpening) (isSymbol notClosing) noneIn
  · split at scanned
    · rename_i mark isSingle
      obtain rfl := Except.ok.inj scanned
      rcases singleSymbol_cases isSingle with ⟨rfl, rfl⟩ | ⟨rfl, rfl⟩ | ⟨noneIn, notOpening, notClosing⟩
      · exact .opening
      · exact .closing
      · exact .none (isSymbol notOpening) (isSymbol notClosing) noneIn
    · cases scanned

/-- A quoted identifier holds what stands between its quotes. -/
theorem parentheses_of_quotedIdentifier {opening closing : Char}
    (quotes : IdentifierQuotes rules opening closing)
    (scanned : quotedIdentifier opening closing rest = .ok found) :
    found.kind.Parentheses rules found.text := by
  unfold quotedIdentifier at scanned
  split at scanned
  · rename_i last behind dropped
    obtain rfl := Except.ok.inj scanned
    have notClosing := List.head?_dropWhile_not (· != closing) rest
    rw [dropped] at notClosing
    obtain rfl : last = closing := by simpa using notClosing
    refine .identifier quotes fun isIn => ?_
    simpa using List.all_eq_true.mp List.all_takeWhile last isIn
  · cases scanned

/-- A lexeme counts as a parenthesis just if it is written as one, and one that has parentheses in it
otherwise is between quotes. -/
theorem parentheses_of_lexeme (keywords : dictionary.HasKeywords)
    (scanned : lexeme rules dictionary first rest = .ok found) :
    found.kind.Parentheses rules found.text := by
  unfold lexeme at scanned
  split at scanned
  · obtain rfl := Except.ok.inj scanned
    have isVariable := kind_variableName rest
    exact .none (by simp [isVariable]) (by simp [isVariable]) (noParenthesis_variableName rest)
  split at scanned
  · obtain rfl := Except.ok.inj scanned
    have isWord (mark : Symbol) : (word dictionary (first :: rest)).kind ≠ .symbol mark :=
      kind_word_ne keywords _ rfl nofun
    exact .none (isWord _) (isWord _) (noParenthesis_word _)
  split at scanned
  · rename_i isHex
    obtain rfl := Except.ok.inj scanned
    have mark : NoParenthesis (first :: rest.take 1) := by
      obtain ⟨rfl, isMark | isMark⟩ := isHex <;> obtain ⟨more, rfl⟩ := List.head?_eq_some_iff.mp isMark
      all_goals
        change NoParenthesis ['0', _]
        decide
    exact .none (by simp [extend]) (by simp [extend])
      (mark.append (.takeWhile (by decide) (by decide) _))
  split at scanned
  · obtain rfl := Except.ok.inj scanned
    have isNumber (mark : Symbol) : (number (first :: rest)).kind ≠ .symbol mark := by
      rcases kind_number (first :: rest) with isKind | isKind <;> simp [isKind]
    exact .none (isNumber _) (isNumber _) (noParenthesis_number _)
  split at scanned
  · unfold string at scanned
    split at scanned
    · obtain rfl := Except.ok.inj scanned
      exact .string _
    · cases scanned
  split at scanned
  · exact parentheses_of_quotedIdentifier .double scanned
  split at scanned
  · rename_i isBacktick
    exact parentheses_of_quotedIdentifier (.backtick isBacktick.2) scanned
  split at scanned
  · rename_i isBracket
    exact parentheses_of_quotedIdentifier (.bracket isBracket.2) scanned
  · exact parentheses_of_symbol scanned

end Scan

/-- What a token has to do with parentheses, it has by its characters. -/
theorem Lexer.Reads.parentheses {lexer after : Lexer} {token : Token}
    (keywords : lexer.dictionary.HasKeywords) (reads : lexer.Reads token after) :
    token.kind.Parentheses lexer.rules token.text.toList := by
  obtain ⟨gap, rest, skips⟩ := Gap.exists_skips lexer.rules .betweenTokens lexer.rest
  obtain ⟨first, others, lexeme, -, scanned, rfl, -⟩ := reads.exists_lexeme (skips.skip _)
  rw [String.toList_ofList]
  exact Scan.parentheses_of_lexeme keywords scanned

end SqlSharding
