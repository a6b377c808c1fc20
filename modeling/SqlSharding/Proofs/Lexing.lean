import SqlSharding.Lexer
import SqlSharding.Proofs.Lexing.Lexeme

/-!
# Lexing

What a lexer does in one call: it passes a gap and the characters of a token, and it would do the
same if the text behind the token were cut, or if the places were counted from elsewhere.
-/

namespace SqlSharding

namespace Gap

variable {rules : LexicalRules}

/-- Between tokens, a character that begins no mark of two characters is skipped if it is blank, begins
a comment if it is a hash that may, and ends the gap otherwise. -/
theorem skip_betweenTokens {place : Nat} {c : Char} {rest : List Char}
    (notLine : ¬(c = '-' ∧ rest.head? = some '-')) (notBlock : ¬(c = '/' ∧ rest.head? = some '*')) :
    betweenTokens.skip rules place (c :: rest) =
      if Text.isBlank c then skip rules .betweenTokens (place + 1) rest
      else if c = '#' ∧ rules.hashComments then skip rules .lineComment (place + 1) rest
      else (place, c :: rest) := by
  rw [skip]
  · rintro more rfl rfl
    exact notLine ⟨rfl, rfl⟩
  · rintro more rfl rfl
    exact notBlock ⟨rfl, rfl⟩

/-- In a block comment, a character that does not close it is skipped. -/
theorem skip_blockComment {place : Nat} {c : Char} {rest : List Char}
    (notClosed : ¬(c = '*' ∧ rest.head? = some '/')) :
    blockComment.skip rules place (c :: rest) = skip rules .blockComment (place + 1) rest := by
  rw [skip]
  rintro more rfl rfl
  exact notClosed ⟨rfl, rfl⟩

/-- The gap is a front piece of the characters, wherever the place is, and it is the same where the
text is cut behind it. -/
structure Skips (rules : LexicalRules) (gap : Gap) (characters skipped rest : List Char) : Prop where
  whole : characters = skipped ++ rest
  skip : ∀ place, gap.skip rules place characters = (place + skipped.length, rest)
  cut : rest ≠ [] → ∀ place after, Breaks rest after →
    gap.skip rules place (skipped ++ after) = (place + skipped.length, after)

variable {gap next : Gap} {characters skipped rest : List Char}

/-- A gap with some characters in front, which lead from one part of a gap to the next. -/
theorem Skips.append (later : Skips rules next characters skipped rest) (front : List Char)
    (leads : ∀ place others, others = characters ∨ Breaks characters others →
      gap.skip rules place (front ++ others) = next.skip rules (place + front.length) others) :
    Skips rules gap (front ++ characters) (front ++ skipped) rest where
  whole := by rw [later.whole, List.append_assoc]
  skip place := by
    rw [leads _ _ (.inl rfl), later.skip, List.length_append, Nat.add_assoc]
  cut notEmpty place after agree := by
    have whole := agree.append skipped
    rw [← later.whole] at whole
    rw [List.append_assoc, leads _ _ (.inr whole), later.cut notEmpty _ _ agree, List.length_append,
      Nat.add_assoc]

/-- Two characters that do not stand at the front of a text do not stand there after a cut. -/
theorem not_pair_of_cut {characters others : List Char} {first second c : Char}
    (notBreak : isBreak second = false) (agree : others = characters ∨ Breaks characters others)
    (notPair : c = first → ∀ more, characters = second :: more → False) :
    ¬(c = first ∧ others.head? = some second) := by
  rintro ⟨isFirst, isSecond⟩
  have other : characters.head? ≠ some second := by
    intro isHead
    obtain ⟨more, rfl⟩ := List.head?_eq_some_iff.mp isHead
    exact notPair isFirst more rfl
  rcases agree with rfl | agree
  · exact other isSecond
  · exact agree.head?_ne notBreak other isSecond

/-- No gap begins with a break. -/
theorem skip_of_isBreak {place : Nat} {mark : Char} {rest : List Char} (isBreak : isBreak mark) :
    betweenTokens.skip rules place (mark :: rest) = (place, mark :: rest) := by
  rcases isBreak_iff.mp isBreak with rfl | rfl <;>
    rw [skip_betweenTokens (by simp) (by simp), if_neg (by decide), if_neg (by simp)]

/-- Where no comment begins, none begins after a cut, and a character is passed as it was. -/
theorem skip_betweenTokens_of_cut {place : Nat} {c : Char} {characters others : List Char}
    (notLine : ∀ more, c = '-' → characters = '-' :: more → False)
    (notBlock : ∀ more, c = '/' → characters = '*' :: more → False)
    (agree : others = characters ∨ Breaks characters others) :
    betweenTokens.skip rules place (c :: others) =
      if Text.isBlank c then skip rules .betweenTokens (place + 1) others
      else if c = '#' ∧ rules.hashComments then skip rules .lineComment (place + 1) others
      else (place, c :: others) :=
  skip_betweenTokens
    (not_pair_of_cut (by decide) agree fun isMinus more => notLine more isMinus)
    (not_pair_of_cut (by decide) agree fun isSlash more => notBlock more isSlash)

/-- Every gap is a front piece of the characters. -/
theorem exists_skips (rules : LexicalRules) (gap : Gap) (characters : List Char) :
    ∃ skipped rest, Skips rules gap characters skipped rest := by
  have place := 0
  fun_induction skip rules gap place characters with
  | case1 gap place => exact ⟨[], [], rfl, fun _ => by simp [skip], fun notEmpty => absurd rfl notEmpty⟩
  | case2 place c rest inductionHypothesis =>
    obtain ⟨skipped, final, later⟩ := inductionHypothesis
    exact ⟨_, final, later.append [c] fun place others _ => by simp [skip]⟩
  | case3 place rest inductionHypothesis =>
    obtain ⟨skipped, final, later⟩ := inductionHypothesis
    exact ⟨_, final, later.append ['*', '/'] fun place others _ => by simp [skip]⟩
  | case4 place c rest notClosed inductionHypothesis =>
    obtain ⟨skipped, final, later⟩ := inductionHypothesis
    refine ⟨_, final, later.append [c] fun place others agree => skip_blockComment ?_⟩
    exact not_pair_of_cut (by decide) agree fun isStar more => notClosed more isStar
  | case5 place rest inductionHypothesis =>
    obtain ⟨skipped, final, later⟩ := inductionHypothesis
    exact ⟨_, final, later.append ['-', '-'] fun place others _ => by simp [skip]⟩
  | case6 place rest inductionHypothesis =>
    obtain ⟨skipped, final, later⟩ := inductionHypothesis
    exact ⟨_, final, later.append ['/', '*'] fun place others _ => by simp [skip]⟩
  | case7 place c rest notLine notBlock isBlank inductionHypothesis =>
    obtain ⟨skipped, final, later⟩ := inductionHypothesis
    refine ⟨_, final, later.append [c] fun place others agree => ?_⟩
    rw [List.cons_append, List.nil_append, skip_betweenTokens_of_cut notLine notBlock agree,
      if_pos isBlank, List.length_singleton]
  | case8 place c rest notLine notBlock notBlank isHash inductionHypothesis =>
    obtain ⟨skipped, final, later⟩ := inductionHypothesis
    refine ⟨_, final, later.append [c] fun place others agree => ?_⟩
    rw [List.cons_append, List.nil_append, skip_betweenTokens_of_cut notLine notBlock agree,
      if_neg notBlank, if_pos isHash, List.length_singleton]
  | case9 place c rest notLine notBlock notBlank notHash =>
    have stays : ∀ place others, others = rest ∨ Breaks rest others →
        betweenTokens.skip rules place (c :: others) = (place, c :: others) := by
      intro place others agree
      rw [skip_betweenTokens_of_cut notLine notBlock agree, if_neg notBlank, if_neg notHash]
    refine ⟨[], c :: rest, rfl, fun place => stays place rest (.inl rfl), fun _ place after agree => ?_⟩
    cases agree with
    | here isBreak => exact skip_of_isBreak isBreak
    | later agree => exact stays place _ (.inr agree)

end Gap

/-- The dictionary of a dialect holds keywords only. -/
theorem Dictionary.hasKeywords_ofDialect (dialect : Dialect) :
    (Dictionary.ofDialect dialect).HasKeywords := by
  intro word kind found
  obtain ⟨first, later, entries, -⟩ := List.lookup_eq_some_iff.mp found
  have isEntry : (Text.toUpper word, kind) ∈ (Dictionary.ofDialect dialect).entries := by
    simp [entries]
  cases dialect <;>
    simp only [ofDialect, Dialect.grammar, ofGrammar, withWords, reservedEntries, List.mem_append,
      List.mem_map, Prod.mk.injEq] at isEntry <;>
    rcases isEntry with ⟨_, -, -, rfl⟩ | ⟨_, -, -, rfl⟩ <;> rfl

/-- A lexeme is a word, a literal or a symbol. -/
theorem Scan.lexeme_cases {rules : LexicalRules} {dictionary : Dictionary} {first : Char}
    {rest : List Char} {lexeme : Lexeme}
    (scanned : Scan.lexeme rules dictionary first rest = .ok lexeme) :
    (beginsIdentifier first = true ∧ word dictionary (first :: rest) = lexeme) ∨
      (∃ kind, lexeme.kind = .literal kind) ∨ ∃ mark, lexeme.kind = .symbol mark := by
  unfold Scan.lexeme at scanned
  split at scanned
  · obtain rfl := Except.ok.inj scanned
    exact .inr (.inl ⟨_, kind_variableName rest⟩)
  split at scanned
  · rename_i begins
    exact .inl ⟨begins, Except.ok.inj scanned⟩
  split at scanned
  · obtain rfl := Except.ok.inj scanned
    simp [extend]
  split at scanned
  · obtain rfl := Except.ok.inj scanned
    rcases kind_number (first :: rest) with isKind | isKind <;> simp [isKind]
  split at scanned
  · unfold string at scanned
    split at scanned
    · obtain rfl := Except.ok.inj scanned
      simp
    · cases scanned
  split at scanned
  · exact .inr (.inl ⟨_, kind_quotedIdentifier scanned⟩)
  split at scanned
  · exact .inr (.inl ⟨_, kind_quotedIdentifier scanned⟩)
  split at scanned
  · exact .inr (.inl ⟨_, kind_quotedIdentifier scanned⟩)
  unfold symbol at scanned
  split at scanned
  · obtain rfl := Except.ok.inj scanned
    simp
  split at scanned
  · obtain rfl := Except.ok.inj scanned
    simp
  · cases scanned

/-- No lexeme has the kind of the end token. -/
theorem Scan.kind_ne_endOfText {rules : LexicalRules} {dictionary : Dictionary} {first : Char}
    {rest : List Char} {lexeme : Lexeme} (keywords : dictionary.HasKeywords)
    (scanned : Scan.lexeme rules dictionary first rest = .ok lexeme) :
    lexeme.kind ≠ .endOfText := by
  obtain ⟨-, rfl⟩ | ⟨kind, isLiteral⟩ | ⟨mark, isSymbol⟩ := lexeme_cases scanned
  · exact kind_word_ne keywords _ rfl (by decide)
  · simp [isLiteral]
  · simp [isSymbol]

/-- The end token of a text that ends at the place. -/
def Token.endAt (place : Nat) : Token := ⟨.endOfText, "", place, place⟩

/-- The fault so many characters further on. -/
def IllegalInput.shift (count : Nat) (fault : IllegalInput) : IllegalInput :=
  { fault with position := fault.position + count }

/-- The token so many characters further on. -/
def Token.shift (count : Nat) (token : Token) : Token :=
  { token with start := token.start + count, stop := token.stop + count }

/-- A token further on has the same kind. -/
@[simp] theorem Token.shift_kind (count : Nat) (token : Token) :
    (token.shift count).kind = token.kind := rfl

namespace Lexer

/-- The lexer at another place, with other characters to come. -/
def moveTo (lexer : Lexer) (offset : Nat) (rest : List Char) : Lexer :=
  { lexer with offset, rest }

/-- The lexer is moved to the place. -/
@[simp] theorem moveTo_offset (lexer : Lexer) (offset : Nat) (rest : List Char) :
    (lexer.moveTo offset rest).offset = offset := rfl

/-- The lexer has the characters to come. -/
@[simp] theorem moveTo_rest (lexer : Lexer) (offset : Nat) (rest : List Char) :
    (lexer.moveTo offset rest).rest = rest := rfl

/-- Moving a lexer keeps its rules. -/
@[simp] theorem moveTo_rules (lexer : Lexer) (offset : Nat) (rest : List Char) :
    (lexer.moveTo offset rest).rules = lexer.rules := rfl

/-- Moving a lexer keeps its dictionary. -/
@[simp] theorem moveTo_dictionary (lexer : Lexer) (offset : Nat) (rest : List Char) :
    (lexer.moveTo offset rest).dictionary = lexer.dictionary := rfl

/-- Of two moves of a lexer only the last one counts. -/
@[simp] theorem moveTo_moveTo (lexer : Lexer) (offset offset' : Nat) (rest rest' : List Char) :
    (lexer.moveTo offset rest).moveTo offset' rest' = lexer.moveTo offset' rest' := rfl

/-- The next call answers a token other than the end. -/
structure Reads (lexer : Lexer) (token : Token) (after : Lexer) : Prop where
  answer : lexer.next = (.ok token, after)
  notEnd : token.kind ≠ .endOfText

/-- The gap and the characters of a token that is read. -/
structure ReadsAs (lexer : Lexer) (gap written : List Char) (token : Token) (after : Lexer) :
    Prop where
  skips : Gap.Skips lexer.rules .betweenTokens lexer.rest gap (written ++ after.rest)
  notEmpty : written ≠ []
  start : token.start = lexer.offset + gap.length
  stop : token.stop = token.start + written.length
  landed : after = lexer.moveTo token.stop after.rest
  text : token.kind ≠ .literal .chars → token.text = String.ofList written
  /-- The token is read at any place, and though the text behind it is cut. -/
  again : ∀ count rest, rest = after.rest ∨ Breaks after.rest rest →
    (lexer.moveTo (lexer.offset + count) (gap ++ (written ++ rest))).Reads (token.shift count)
      (lexer.moveTo (token.stop + count) rest)

variable {lexer after : Lexer} {token : Token}

/-- What the lexer has to come is the gap, the characters of the token and the rest behind them. -/
theorem ReadsAs.rest {gap written : List Char} (readsAs : lexer.ReadsAs gap written token after) :
    lexer.rest = gap ++ (written ++ after.rest) :=
  readsAs.skips.whole

/-- Behind a gap a lexer answers the token of the lexeme that begins there. -/
theorem next_of_skips (lexer : Lexer) {skipped others : List Char} {first : Char} {lexeme : Lexeme}
    (skips : Gap.betweenTokens.skip lexer.rules lexer.offset lexer.rest =
      (lexer.offset + skipped.length, first :: others))
    (scanned : Scan.lexeme lexer.rules lexer.dictionary first others = .ok lexeme) :
    lexer.next =
      (.ok ⟨lexeme.kind, String.ofList lexeme.text, lexer.offset + skipped.length,
          lexer.offset + skipped.length + lexeme.written.length⟩,
        lexer.moveTo (lexer.offset + skipped.length + lexeme.written.length) lexeme.rest) := by
  simp only [next, skipGap, skips, scanned, moveTo]

/-- Where the gap goes on to the end of the text, a lexer answers the end. -/
theorem next_of_skips_nil (lexer : Lexer) {place : Nat}
    (skips : Gap.betweenTokens.skip lexer.rules lexer.offset lexer.rest = (place, [])) :
    lexer.next = (.ok (.endAt place), lexer.moveTo place []) := by
  simp only [next, skipGap, skips]
  rfl

/-- A token that is answered is the lexeme behind the gap. -/
theorem Reads.exists_lexeme {gap rest : List Char} (reads : lexer.Reads token after)
    (skips : Gap.betweenTokens.skip lexer.rules lexer.offset lexer.rest =
      (lexer.offset + gap.length, rest)) :
    ∃ first others lexeme, rest = first :: others ∧
      Scan.lexeme lexer.rules lexer.dictionary first others = .ok lexeme ∧
      token = ⟨lexeme.kind, String.ofList lexeme.text, lexer.offset + gap.length,
        lexer.offset + gap.length + lexeme.written.length⟩ ∧
      after = lexer.moveTo (lexer.offset + gap.length + lexeme.written.length) lexeme.rest := by
  have answer := reads.answer
  cases rest with
  | nil =>
    rw [next_of_skips_nil lexer skips, Prod.mk.injEq, Except.ok.injEq] at answer
    exact absurd (answer.1 ▸ rfl) reads.notEnd
  | cons first others =>
    cases scanned : Scan.lexeme lexer.rules lexer.dictionary first others with
    | error fault => cases fault <;> simp [next, skipGap, skips, scanned] at answer
    | ok lexeme =>
      rw [next_of_skips lexer skips scanned] at answer
      obtain ⟨rfl, rfl⟩ : _ = token ∧ _ = after := by simpa using answer
      exact ⟨first, others, lexeme, rfl, scanned, rfl, rfl⟩

/-- A token is read as a gap and some characters. -/
theorem Reads.exists_readsAs (keywords : lexer.dictionary.HasKeywords)
    (reads : lexer.Reads token after) : ∃ gap written, lexer.ReadsAs gap written token after := by
  obtain ⟨gap, rest, skips⟩ := Gap.exists_skips lexer.rules .betweenTokens lexer.rest
  obtain ⟨first, others, lexeme, rfl, scanned, rfl, rfl⟩ := reads.exists_lexeme (skips.skip _)
  obtain ⟨body, whole, written, again⟩ := Scan.readsOff_lexeme keywords lexeme scanned
  refine ⟨gap, first :: body, ?_, by simp, rfl, by simp [written], rfl, ?_, ?_⟩
  · rwa [List.cons_append, moveTo_rest, ← whole]
  · intro notChars
    rw [← written, Lexeme.written, Scan.written_of_ne notChars]
  · intro count rest agree
    rw [moveTo_rest] at agree
    have scannedAgain : Scan.lexeme lexer.rules lexer.dictionary first (body ++ rest) =
        .ok { lexeme with rest } := by
      rcases agree with rfl | agree
      · rw [← whole, scanned]
      · exact again rest agree.continues
    have skipsAgain : Gap.betweenTokens.skip lexer.rules (lexer.offset + count)
        (gap ++ (first :: body ++ rest)) =
        (lexer.offset + count + gap.length, first :: (body ++ rest)) := by
      rcases agree with rfl | agree
      · rw [List.cons_append, ← whole, ← skips.whole, skips.skip]
      · have agree := agree.append (first :: body)
        rw [List.cons_append, ← whole] at agree
        exact skips.cut (by simp) _ _ agree
    refine ⟨?_, reads.notEnd⟩
    have answer := next_of_skips
      (lexer.moveTo (lexer.offset + count) (gap ++ (first :: body ++ rest)))
      skipsAgain scannedAgain
    have startMoved := Nat.add_right_comm lexer.offset count gap.length
    have stopMoved := Nat.add_right_comm (lexer.offset + gap.length) count lexeme.written.length
    have sameWritten : Lexeme.written { lexeme with rest } = lexeme.written := rfl
    simp only [moveTo_offset, moveTo_moveTo, startMoved, sameWritten, stopMoved] at answer
    exact answer

/-- Reading a token keeps the dictionary. -/
theorem Reads.dictionary_eq (keywords : lexer.dictionary.HasKeywords)
    (reads : lexer.Reads token after) : after.dictionary = lexer.dictionary := by
  obtain ⟨gap, written, readsAs⟩ := reads.exists_readsAs keywords
  rw [readsAs.landed, moveTo_dictionary]

/-- Reading a token leaves fewer characters to come. -/
theorem Reads.shorter (keywords : lexer.dictionary.HasKeywords)
    (reads : lexer.Reads token after) : after.rest.length < lexer.rest.length := by
  obtain ⟨gap, written, readsAs⟩ := reads.exists_readsAs keywords
  have notEmpty := List.length_pos_iff.mpr readsAs.notEmpty
  rw [readsAs.rest, List.length_append, List.length_append]
  omega

/-- A call that answers no token of the text answers the end token or a fault. -/
theorem next_cases (keywords : lexer.dictionary.HasKeywords) :
    (∃ token after, lexer.Reads token after) ∨
      (∃ place after, lexer.next = (.ok (.endAt place), after)) ∨
        ∃ fault after, lexer.next = (.error fault, after) := by
  cases answer : lexer.next with
  | mk result after =>
    cases result with
    | error fault => exact .inr (.inr ⟨fault, after, rfl⟩)
    | ok token =>
      by_cases isEnd : token.kind = .endOfText
      · refine .inr (.inl ⟨token.start, after, ?_⟩)
        simp only [next] at answer
        split at answer
        · obtain ⟨rfl, rfl⟩ : _ = token ∧ _ = after := by simpa using answer
          rfl
        · split at answer
          · rename_i scanned
            obtain ⟨rfl, rfl⟩ : _ = token ∧ _ = after := by simpa using answer
            exact absurd isEnd (Scan.kind_ne_endOfText keywords scanned)
          · simp at answer
          · simp at answer
      · exact .inl ⟨token, after, answer, isEnd⟩

/-- A call answers the end when the gap reaches it. -/
theorem next_end_iff (keywords : lexer.dictionary.HasKeywords) :
    (∃ place after, lexer.next = (.ok (.endAt place), after)) ↔
      (Gap.betweenTokens.skip lexer.rules lexer.offset lexer.rest).2 = [] := by
  obtain ⟨gap, rest, skips⟩ := Gap.exists_skips lexer.rules .betweenTokens lexer.rest
  rw [skips.skip]
  cases rest with
  | nil => exact iff_of_true ⟨_, _, next_of_skips_nil lexer (skips.skip _)⟩ rfl
  | cons first others =>
    refine iff_of_false ?_ (List.cons_ne_nil first others)
    rintro ⟨place, after, answer⟩
    cases scanned : Scan.lexeme lexer.rules lexer.dictionary first others with
    | error fault => cases fault <;> simp [next, skipGap, skips.skip, scanned] at answer
    | ok lexeme =>
      rw [next_of_skips lexer (skips.skip _) scanned] at answer
      simp only [Prod.mk.injEq, Except.ok.injEq, Token.endAt, Token.mk.injEq] at answer
      exact absurd answer.1.1 (Scan.kind_ne_endOfText keywords scanned)

/-- A call answers a fault when there is something behind the gap that is no lexeme. -/
theorem next_fault_iff :
    (∃ fault after, lexer.next = (.error fault, after)) ↔
      ∃ first others fault,
        (Gap.betweenTokens.skip lexer.rules lexer.offset lexer.rest).2 = first :: others ∧
          Scan.lexeme lexer.rules lexer.dictionary first others = .error fault := by
  obtain ⟨gap, rest, skips⟩ := Gap.exists_skips lexer.rules .betweenTokens lexer.rest
  rw [skips.skip]
  cases rest with
  | nil => simp [next_of_skips_nil lexer (skips.skip _)]
  | cons first others =>
    cases scanned : Scan.lexeme lexer.rules lexer.dictionary first others with
    | error fault =>
      refine iff_of_true ?_ ⟨first, others, fault, rfl, scanned⟩
      cases fault <;> simp [next, skipGap, skips.skip, scanned]
    | ok lexeme => simp [next_of_skips lexer (skips.skip _) scanned, scanned]

/-- The lexer with so many characters more before the place. -/
def shift (count : Nat) (lexer : Lexer) : Lexer :=
  lexer.moveTo (lexer.offset + count) lexer.rest

/-- An answer so many characters further on. -/
def shiftAnswer (count : Nat) : Except IllegalInput Token → Except IllegalInput Token
  | .ok token => .ok (token.shift count)
  | .error fault => .error (fault.shift count)

/-- A lexer further on answers the same, as far further on. -/
theorem next_shift (lexer : Lexer) (count : Nat) :
    (lexer.shift count).next =
      (shiftAnswer count lexer.next.1, lexer.next.2.shift count) := by
  obtain ⟨gap, rest, skips⟩ := Gap.exists_skips lexer.rules .betweenTokens lexer.rest
  have startMoved := Nat.add_right_comm lexer.offset count gap.length
  simp only [next, skipGap, shift, moveTo_rules, moveTo_offset, moveTo_rest, moveTo_dictionary,
    skips.skip, startMoved]
  cases rest with
  | nil => rfl
  | cons first others =>
    have stopMoved := Nat.add_right_comm (lexer.offset + gap.length) count
    cases scanned : Scan.lexeme lexer.rules lexer.dictionary first others with
    | ok lexeme =>
      simp only [scanned, stopMoved]
      rfl
    | error fault =>
      cases fault with
      | unclosed =>
        simp only [scanned, stopMoved]
        rfl
      | illegal character =>
        simp only [scanned]
        rfl

/-- The answers of successive calls, none of which is the end token. -/
inductive Yields : Lexer → List Token → Lexer → Prop
  | nil {lexer : Lexer} : Yields lexer [] lexer
  | cons {lexer middle after : Lexer} {token : Token} {tokens : List Token}
      (reads : lexer.Reads token middle) (later : Yields middle tokens after) :
      Yields lexer (token :: tokens) after

/-- What successive calls pass. -/
structure YieldsAs (lexer : Lexer) (passed : List Char) (tokens : List Token) (after : Lexer) :
    Prop where
  rest : lexer.rest = passed ++ after.rest
  landed : after = lexer.moveTo (lexer.offset + passed.length) after.rest
  /-- The tokens are read at any place, and though the text behind them is cut. -/
  again : ∀ count rest, rest = after.rest ∨ Breaks after.rest rest →
    (lexer.moveTo (lexer.offset + count) (passed ++ rest)).Yields (tokens.map (Token.shift count))
      (lexer.moveTo (lexer.offset + passed.length + count) rest)

/-- What successive calls pass is a front piece of what is to come. -/
theorem Yields.exists_yieldsAs {tokens : List Token} (keywords : lexer.dictionary.HasKeywords)
    (yields : lexer.Yields tokens after) : ∃ passed, lexer.YieldsAs passed tokens after := by
  induction yields with
  | nil => exact ⟨[], rfl, rfl, fun count rest _ => .nil⟩
  | @cons lexer middle after token tokens reads later inductionHypothesis =>
    obtain ⟨gap, written, readsAs⟩ := reads.exists_readsAs keywords
    obtain ⟨passed, yieldsAs⟩ := inductionHypothesis (reads.dictionary_eq keywords ▸ keywords)
    have moved : ∀ offset rest, middle.moveTo offset rest = lexer.moveTo offset rest := by
      intro offset rest
      rw [readsAs.landed, moveTo_moveTo]
    have atStop : middle.offset = token.stop := by
      rw [readsAs.landed, moveTo_offset]
    have place : token.stop + passed.length = lexer.offset + (gap ++ (written ++ passed)).length := by
      simp only [readsAs.stop, readsAs.start, List.length_append, Nat.add_assoc]
    refine ⟨gap ++ (written ++ passed), ?_, ?_, fun count rest agree => ?_⟩
    · rw [readsAs.rest, yieldsAs.rest]
      simp only [List.append_assoc]
    · have landed := yieldsAs.landed
      rwa [moved, atStop, place] at landed
    · have whole : passed ++ rest = middle.rest ∨ Breaks middle.rest (passed ++ rest) := by
        rw [yieldsAs.rest]
        exact agree.imp (congrArg _) (Breaks.append passed)
      have start := readsAs.again count (passed ++ rest) whole
      have more := yieldsAs.again count rest agree
      rw [moved, moved, atStop, place] at more
      simpa only [List.append_assoc, List.map_cons] using Yields.cons start more

/-- Successive calls keep the dictionary. -/
theorem Yields.dictionary_eq {tokens : List Token} (keywords : lexer.dictionary.HasKeywords)
    (yields : lexer.Yields tokens after) : after.dictionary = lexer.dictionary := by
  obtain ⟨passed, yieldsAs⟩ := yields.exists_yieldsAs keywords
  rw [yieldsAs.landed, moveTo_dictionary]

end Lexer

end SqlSharding
