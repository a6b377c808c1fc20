import Mathlib.Data.List.Forall2
import SqlSharding.Proofs.Lexing.Place
import SqlSharding.Proofs.Tiling
import SqlSharding.Text.Ascii

/-!
# Layout

Blanks and closed block comments may be put at either end of any token, and reserved words may be
written in another letter case: the tokens stay the same. Line comments are left out, since the text
behind one would become a part of it.
-/

namespace SqlSharding

/-- Blanks and closed block comments. -/
inductive Layout : List Char → Prop
  | nil : Layout []
  | blank {c : Char} {later : List Char} (isBlank : Text.isBlank c) (layout : Layout later) :
      Layout (c :: later)
  | blockComment {body later : List Char} (isBody : IsBlockBody body) (layout : Layout later) :
      Layout ('/' :: '*' :: (body ++ '*' :: '/' :: later))

/-- The characters may be written in place of those of the token: they are the same, or those of a
reserved word in another letter case. -/
def Token.Rewords (token : Token) (written other : List Char) : Prop :=
  other = written ∨ (∃ word, token.kind = .reserved word) ∧
    other.map Char.toLower = written.map Char.toLower

/-- The characters from a place of a text on, with layout put at the beginning and at the end of each
of some tokens, and with reserved words in other letter cases. Behind the tokens nothing is changed. -/
inductive Relaid (text : List Char) : (place : Nat) → List Token → List Char → Prop
  | rest {place : Nat} : Relaid text place [] (text.drop place)
  | token {place : Nat} {token : Token} {tokens : List Token} {before written behind rest : List Char}
      (layoutBefore : Layout before) (layoutBehind : Layout behind)
      (rewords : token.Rewords (text.extract token.start token.stop) written)
      (later : Relaid text token.stop tokens rest) :
      Relaid text place (token :: tokens)
        (text.extract place token.start ++ (before ++ (written ++ (behind ++ rest))))

/-- The tokens are the same but for their places and for the letter case of reserved words. -/
structure Token.SameLexeme (token answer : Token) : Prop where
  kind : answer.kind = token.kind
  text : answer.text = token.text ∨
    (∃ word, token.kind = .reserved word) ∧ Text.sameName answer.text token.text

namespace Layout

variable {rules : LexicalRules} {layout others rest : List Char}

/-- A layout is filler under any rules. -/
theorem filler (isLayout : Layout layout) : Filler rules layout := by
  induction isLayout with
  | nil => exact .nil
  | blank isBlank _ inductionHypothesis => exact .blank isBlank inductionHypothesis
  | blockComment isBody _ inductionHypothesis => exact .blockComment isBody inductionHypothesis

/-- Layout begins with a stop, so a lexeme before it ends as it did. -/
theorem continues (isLayout : Layout layout) (agree : Continues others rest) :
    Continues others (layout ++ rest) := by
  cases isLayout with
  | nil => exact agree
  | blank isBlank => exact .stop (by simp [isStop, isBlank])
  | blockComment => exact .stop (by decide)

end Layout

namespace Scan

variable {rules : LexicalRules} {dictionary : Dictionary} {first : Char}
  {characters other rest : List Char}

/-- Whether a character begins an identifier does not depend on its case. -/
theorem beginsIdentifier_toLower (c : Char) : beginsIdentifier c.toLower = beginsIdentifier c :=
  Text.forall_toLower (by decide +kernel) c

/-- A dictionary does not tell small letters from capitals. -/
theorem find?_of_sameLetters (letters : other.map Char.toLower = characters.map Char.toLower) :
    dictionary.find? (String.ofList other) = dictionary.find? (String.ofList characters) := by
  have upper : ∀ c : Char, Text.upperChar c.toLower = Text.upperChar c :=
    Text.forall_toLower (by decide +kernel)
  have lowered : ∀ text : List Char, text.flatMap Text.upperChar =
      (text.map Char.toLower).flatMap Text.upperChar := by
    intro text
    simp only [List.flatMap_map, upper]
  rw [Dictionary.find?, Dictionary.find?, Text.toUpper, Text.toUpper, String.toList_ofList,
    String.toList_ofList, lowered, letters, ← lowered]

/-- A reserved word is scanned again in another letter case. -/
theorem lexeme_of_sameLetters {lexeme : Lexeme} {reserved : ReservedWord}
    (scanned : Scan.lexeme rules dictionary first characters = .ok lexeme)
    (isReserved : lexeme.kind = .reserved reserved)
    (letters : other.map Char.toLower = lexeme.written.map Char.toLower)
    (agree : Continues lexeme.rest rest) :
    ∃ first' body, other = first' :: body ∧
      Scan.lexeme rules dictionary first' (body ++ rest) = .ok ⟨lexeme.kind, other, rest⟩ := by
  obtain ⟨begins, rfl⟩ : beginsIdentifier first = true ∧ word dictionary (first :: characters) = lexeme := by
    obtain isWord | ⟨kind, isLiteral⟩ | ⟨mark, isSymbol⟩ := lexeme_cases scanned
    · exact isWord
    · simp [isReserved] at isLiteral
    · simp [isReserved] at isSymbol
  have written : (word dictionary (first :: characters)).written =
      (first :: characters).takeWhile continuesIdentifier := by
    rw [Lexeme.written, written_of_ne (by simp [isReserved])]
    rfl
  rw [written] at letters
  obtain ⟨same, dropped⟩ := agree.takeWhile_of_sameLetters stopped_continuesIdentifier letters
  have sameKind := @find?_of_sameLetters dictionary _ _ letters
  have continues := continuesIdentifier_of_begins begins
  rw [List.takeWhile_cons_of_pos continues, List.map_cons] at letters
  obtain ⟨first', body, rfl, sameFirst, letters⟩ := List.map_eq_cons_iff.mp letters
  have begins' : beginsIdentifier first' = true := by
    rw [← beginsIdentifier_toLower, sameFirst, beginsIdentifier_toLower, begins]
  have notAt : ¬(first' = '@' ∧ rules.atVariables) := by
    rintro ⟨rfl, -⟩
    exact absurd begins' (by decide)
  refine ⟨first', body, rfl, ?_⟩
  rw [Scan.lexeme, if_neg notAt, if_pos begins', word, ← List.cons_append, same, dropped,
    sameKind]
  rfl

/-- A character of another letter case is a certain mark only if the character itself is. -/
theorem eq_of_toLower {c d mark : Char} (sameLetter : d.toLower = c.toLower) (isMark : d = mark)
    (caseless : ∀ point ∈ List.range' 65 26,
      ((Char.ofNat point).toLower == mark) = (Char.ofNat point == mark)) : c = mark := by
  have blind := @Text.forall_toLower _ (· == mark) caseless
  have same : (c == mark) = (d == mark) := by rw [← blind c, ← blind d, sameLetter]
  rwa [isMark, beq_self_eq_true, beq_iff_eq] at same

/-- No gap begins where none did and the text continues in the same way. -/
theorem not_beginsGap_of_continues {c d : Char} (sameLetter : d.toLower = c.toLower)
    (agree : Continues characters rest) (notBegins : ¬BeginsGap rules (c :: characters)) :
    ¬BeginsGap rules (d :: rest) := by
  have dashStopped : Stopped (· == '-') :=
    .of_decided (by decide) (by decide +kernel) (by decide +kernel)
  have starStopped : Stopped (· == '*') :=
    .of_decided (by decide) (by decide +kernel) (by decide +kernel)
  have blind := @Text.forall_toLower _ Text.isBlank (by decide +kernel)
  rw [beginsGap_cons_iff] at notBegins ⊢
  simp only [not_or] at notBegins
  obtain ⟨notBlank, notLine, notBlock, notHash⟩ := notBegins
  rintro (isBlank | ⟨isDash, dashAhead⟩ | ⟨isSlash, starAhead⟩ | ⟨isHash, hashComments⟩)
  · exact notBlank (by rwa [← blind d, sameLetter, blind c] at isBlank)
  · obtain rfl := eq_of_toLower sameLetter isDash (by decide +kernel)
    exact agree.head?_ne dashStopped (fun isHead => notLine ⟨rfl, isHead⟩) dashAhead
  · obtain rfl := eq_of_toLower sameLetter isSlash (by decide +kernel)
    exact agree.head?_ne starStopped (fun isHead => notBlock ⟨rfl, isHead⟩) starAhead
  · obtain rfl := eq_of_toLower sameLetter isHash (by decide +kernel)
    exact notHash ⟨rfl, hashComments⟩

/-- A lexeme is scanned again with a rest that continues in the same way, and in another letter case
if it is a reserved word. -/
theorem exists_again {lexeme : Lexeme} (keywords : dictionary.HasKeywords)
    (scanned : Scan.lexeme rules dictionary first characters = .ok lexeme)
    (notBegins : ¬BeginsGap rules (first :: characters))
    (rewords : other = lexeme.written ∨ (∃ word, lexeme.kind = .reserved word) ∧
      other.map Char.toLower = lexeme.written.map Char.toLower)
    (agree : Continues lexeme.rest rest) :
    ∃ first' body text, other = first' :: body ∧ ¬BeginsGap rules (first' :: (body ++ rest)) ∧
      Scan.lexeme rules dictionary first' (body ++ rest) = .ok ⟨lexeme.kind, text, rest⟩ ∧
      (text = lexeme.text ∨ (∃ word, lexeme.kind = .reserved word) ∧
        text.map Char.toLower = lexeme.text.map Char.toLower) := by
  obtain ⟨body, isFront, written, again⟩ := readsOff_lexeme keywords lexeme scanned
  obtain rfl | ⟨⟨reserved, isReserved⟩, letters⟩ := rewords
  · refine ⟨first, body, lexeme.text, written, ?_, again rest agree, .inl rfl⟩
    rw [isFront] at notBegins
    exact not_beginsGap_of_continues rfl (agree.append body) notBegins
  · obtain ⟨first', body', rfl, scanned'⟩ := lexeme_of_sameLetters scanned isReserved letters agree
    refine ⟨first', body', first' :: body', rfl, ?_, scanned', .inr ⟨⟨reserved, isReserved⟩, ?_⟩⟩
    · rw [written, List.map_cons, List.map_cons, List.cons.injEq] at letters
      rw [isFront] at notBegins
      exact not_beginsGap_of_continues letters.1 (agree.prepend letters.2) notBegins
    · rwa [Lexeme.written, written_of_ne (by simp [isReserved])] at letters

end Scan

namespace Token

variable {token answer other : Token}

/-- Being the same lexeme goes both ways. -/
theorem SameLexeme.symm (same : token.SameLexeme answer) : answer.SameLexeme token where
  kind := same.kind.symm
  text := same.text.imp Eq.symm fun ⟨⟨word, isReserved⟩, sameName⟩ =>
    ⟨⟨word, same.kind.trans isReserved⟩, (Text.sameName_comm ..).trans sameName⟩

end Token

namespace Lexer

variable {rules : LexicalRules} {lexer after : Lexer} {token : Token} {text : List Char}

/-- A token that is read in a text is read again behind other filler, in another letter case if it is
a reserved word, and with a rest that continues in the same way. -/
structure Rereads (rules : LexicalRules) (text : List Char) (lexer : Lexer) (token : Token)
    (after : Lexer) : Prop where
  rest : lexer.rest = text.extract lexer.offset token.start ++
    (text.extract token.start token.stop ++ after.rest)
  gap : Filler rules (text.extract lexer.offset token.start)
  stands : after.StandsIn rules text
  atStop : after.offset = token.stop
  moved : ∀ offset rest, after.moveTo offset rest = lexer.moveTo offset rest
  again : ∀ {filler other rest} offset, Filler rules filler →
    token.Rewords (text.extract token.start token.stop) other → Continues after.rest rest →
    ∃ answer place, token.SameLexeme answer ∧
      (lexer.moveTo offset (filler ++ (other ++ rest))).Reads answer (lexer.moveTo place rest)

/-- A token that is read in a text is read again wherever its characters are relaid. -/
theorem StandsIn.rereads (stands : lexer.StandsIn rules text) (reads : lexer.Reads token after) :
    lexer.Rereads rules text token after := by
  obtain ⟨standsAfter, covers, atStop⟩ := stands.reads reads
  obtain ⟨gap, written, readsAs⟩ := reads.exists_readsAs stands.keywords
  refine ⟨?_, covers.filler reads.notEnd, standsAfter, atStop, ?_, ?_⟩
  · rw [stands.rest, standsAfter.rest, atStop, ← drop_eq_extract covers.start_le,
      ← drop_eq_extract covers.offset_le]
  · intro offset rest
    rw [readsAs.landed, moveTo_moveTo]
  · intro filler other rest offset isFiller rewords agree
    obtain ⟨gap, found, skips, lands⟩ := stands.exists_lands
    obtain ⟨first, others, lexeme, rfl, scanned, rfl, rfl⟩ := reads.exists_lexeme skips
    obtain ⟨body, isFront, written, -⟩ := Scan.readsOff_lexeme stands.keywords lexeme scanned
    have notBegins := lands.ignored.ends
    rw [isFront, ← List.cons_append, ← written] at lands
    obtain ⟨isWritten, -, -⟩ := window lands.bounded lands.rest
    rw [isWritten] at rewords
    rw [lands.rest, ← stands.rules, written, List.cons_append, ← isFront] at notBegins
    obtain ⟨first', body', text', rfl, notBegins', scanned', sameText⟩ :=
      Scan.exists_again stands.keywords scanned notBegins rewords agree
    have skips' : Gap.betweenTokens.skip lexer.rules offset (filler ++ (first' :: body' ++ rest)) =
        (offset + filler.length, first' :: (body' ++ rest)) := by
      rw [Gap.skip_filler (stands.rules ▸ isFiller), List.cons_append,
        Gap.skip_of_not_beginsGap notBegins']
    have answer' := next_of_skips (lexer.moveTo offset (filler ++ (first' :: body' ++ rest)))
      skips' scanned'
    refine ⟨⟨lexeme.kind, String.ofList text', _, _⟩, _, ⟨rfl, ?_⟩, answer', reads.notEnd⟩
    refine sameText.imp (congrArg String.ofList) (And.imp_right fun letters => ?_)
    rw [Text.sameName_iff, Text.foldCase, Text.foldCase, String.toList_ofList,
      String.toList_ofList, letters]

end Lexer

/-- A token is reworded by characters that are the same but for letter case. -/
theorem Token.Rewords.sameLetters {token : Token} {written other : List Char}
    (rewords : token.Rewords written other) :
    other.map Char.toLower = written.map Char.toLower :=
  rewords.elim (congrArg _) And.right

namespace Relaid

open Lexer

variable {rules : LexicalRules} {lexer after : Lexer} {tokens : List Token}
  {text characters filler : List Char}

/-- A text with other layout continues in the same way. -/
theorem continues (relaid : Relaid text lexer.offset tokens characters)
    (stands : lexer.StandsIn rules text) (yields : lexer.Yields tokens after) :
    Continues lexer.rest characters := by
  induction yields generalizing characters with
  | nil =>
    cases relaid
    rw [← stands.rest]
    exact .refl _
  | cons reads later inductionHypothesis =>
    cases relaid with
    | token layoutBefore layoutBehind rewords relaid =>
      have rereads := stands.rereads reads
      have agree := inductionHypothesis (rereads.atStop ▸ relaid) rereads.stands
      have fromToken := (layoutBehind.continues agree).prepend rewords.sameLetters
      rw [rereads.rest]
      exact (layoutBefore.continues fromToken).append _

/-- The tokens are read in the text with other layout too, also behind filler. Filler may be left
before what follows them. -/
theorem exists_yields (relaid : Relaid text lexer.offset tokens characters)
    (stands : lexer.StandsIn rules text) (yields : lexer.Yields tokens after)
    (isFiller : Filler rules filler) (offset : Nat) :
    ∃ answers filler' place, Filler rules filler' ∧ List.Forall₂ Token.SameLexeme tokens answers ∧
      (lexer.moveTo offset (filler ++ characters)).Yields answers
        (after.moveTo place (filler' ++ after.rest)) := by
  induction yields generalizing characters filler offset with
  | nil =>
    cases relaid
    rw [← stands.rest]
    exact ⟨[], filler, offset, isFiller, .nil, .nil⟩
  | @cons lexer middle after token tokens reads later inductionHypothesis =>
    cases relaid with
    | @token _ _ _ before written behind rest layoutBefore layoutBehind rewords relaid =>
      have rereads := stands.rereads reads
      have relaid : Relaid text middle.offset tokens rest := rereads.atStop ▸ relaid
      have agree := layoutBehind.continues (relaid.continues rereads.stands later)
      have isFront := (isFiller.append rereads.gap).append layoutBefore.filler
      obtain ⟨answer, place, same, again⟩ := rereads.again offset isFront rewords agree
      obtain ⟨answers, filler', place', isFiller', sames, yields⟩ :=
        inductionHypothesis relaid rereads.stands layoutBehind.filler place
      rw [rereads.moved] at yields
      refine ⟨answer :: answers, filler', place', isFiller', .cons same sames, ?_⟩
      have whole := Yields.cons again yields
      simpa only [List.append_assoc] using whole

end Relaid

namespace Lexer

/-- The end is answered behind filler too. -/
theorem next_of_end {lexer after : Lexer} {place : Nat} {filler : List Char}
    (keywords : lexer.dictionary.HasKeywords) (answer : lexer.next = (.ok (.endAt place), after))
    (isFiller : Filler lexer.rules filler) (offset : Nat) :
    ∃ place' after', (lexer.moveTo offset (filler ++ lexer.rest)).next =
      (.ok (.endAt place'), after') := by
  have reached := (next_end_iff keywords).mp ⟨place, after, answer⟩
  obtain ⟨gap, rest, skips⟩ := Gap.exists_skips lexer.rules .betweenTokens lexer.rest
  rw [skips.skip] at reached
  refine (@next_end_iff (lexer.moveTo offset (filler ++ lexer.rest)) keywords).mpr ?_
  rw [moveTo_rules, moveTo_rest, moveTo_offset, Gap.skip_filler isFiller, skips.skip]
  exact reached

end Lexer

namespace Tape

/-- The calls that answer the tokens of a text without a fault, and the call that answers its end. -/
theorem exists_yields_of_isClean {dialect : Dialect} {text : String}
    (clean : (ofText dialect text).isClean = true) :
    ∃ tokens after place next, (ofText dialect text).tokens = tokens ++ [.endAt place] ∧
      (Lexer.ofDialect dialect text).Yields tokens after ∧
      after.next = (.ok (.endAt place), next) := by
  have finished : (ofText dialect text).ending = .finished := by simpa [isClean] using clean
  exact exists_yields_of_finished (Dictionary.hasKeywords_ofDialect dialect) finished

/-- A text without a fault that is laid out anew has the same tokens. -/
theorem sameLexemes_of_relaid {dialect : Dialect} {text relaid : String}
    (clean : (ofText dialect text).isClean = true)
    (isRelaid : Relaid text.toList 0 (ofText dialect text).tokens.dropLast relaid.toList) :
    (ofText dialect relaid).isClean = true ∧
      List.Forall₂ Token.SameLexeme (ofText dialect text).tokens (ofText dialect relaid).tokens := by
  have keywords := Dictionary.hasKeywords_ofDialect dialect
  obtain ⟨tokens, after, place, next, whole, yields, answer⟩ := exists_yields_of_isClean clean
  rw [whole, List.dropLast_concat] at isRelaid
  have stands : (Lexer.ofDialect dialect text).StandsIn (.ofGrammar dialect.grammar) text.toList :=
    Lexer.standsIn_ofText _ dialect text
  obtain ⟨answers, filler, offset, isFiller, sames, yields'⟩ :=
    @Relaid.exists_yields _ _ _ _ _ _ [] isRelaid stands yields .nil 0
  have again : (Lexer.ofDialect dialect relaid).Yields answers
      (after.moveTo offset (filler ++ after.rest)) := yields'
  have afterKeywords : after.dictionary.HasKeywords := yields.dictionary_eq keywords ▸ keywords
  have sameRules : after.rules = .ofGrammar dialect.grammar := by
    obtain ⟨passed, yieldsAs⟩ := yields.exists_yieldsAs keywords
    rw [yieldsAs.landed, Lexer.moveTo_rules]
    rfl
  obtain ⟨place', next', answer'⟩ :=
    Lexer.next_of_end afterKeywords answer (sameRules ▸ isFiller) offset
  have tape : ofText dialect relaid = ⟨answers ++ [.endAt place'], .finished⟩ := by
    rw [ofText, ofLexer_of_yields keywords again, ofLexer_of_end answer']
    rfl
  rw [tape, whole]
  exact ⟨rfl, List.rel_append sames (.cons ⟨rfl, .inl rfl⟩ .nil)⟩

end Tape

end SqlSharding
