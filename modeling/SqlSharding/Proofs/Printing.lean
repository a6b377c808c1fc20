import SqlSharding.Proofs.Lexing.Layout

/-!
# Printing

The tokens of a text are printed one behind the other, with a blank between each two. A lexer of the
same rules and the same keywords answers the same tokens again: a blank ends every lexeme that the
text behind it had ended, and no two lexemes with a blank between them run together.
-/

namespace SqlSharding

namespace Token

/-- The characters that a token is written with. -/
def written (token : Token) : List Char :=
  token.kind.written token.text.toList

/-- What a token is, wherever it stands. -/
def content (token : Token) : Kind × String :=
  (token.kind, token.text)

end Token

/-- The characters of the tokens, with a blank between each two. -/
def printed (tokens : List Token) : List Char :=
  [' '].intercalate (tokens.map Token.written)

/-- What is printed between a token and those that follow it. -/
def blankBefore : List Token → List Char
  | [] => []
  | _ :: _ => [' ']

/-- The first token is printed, then a blank if others follow, then the others. -/
theorem printed_cons (token : Token) (tokens : List Token) :
    printed (token :: tokens) = token.written ++ (blankBefore tokens ++ printed tokens) := by
  cases tokens with
  | nil => simp [printed, blankBefore]
  | cons next tokens => simp [printed, blankBefore]

/-- What is printed between tokens is layout. -/
theorem layout_blankBefore (tokens : List Token) : Layout (blankBefore tokens) := by
  cases tokens with
  | nil => exact .nil
  | cons => exact .blank (by decide) .nil

/-- A lexeme ends before the tokens that are printed behind it, and before the layout behind these. -/
theorem continues_printed {others tail : List Char} (tokens : List Token) (isTail : Layout tail) :
    Continues others (blankBefore tokens ++ (printed tokens ++ tail)) := by
  cases tokens with
  | nil => simpa [printed, blankBefore] using isTail.continues (@Continues.atEnd others)
  | cons => exact .stop (by decide)

/-- The end token is printed as no characters. -/
theorem exists_printed_concat_endAt (tokens : List Token) (place : Nat) :
    ∃ tail, Layout tail ∧ printed (tokens ++ [.endAt place]) = printed tokens ++ tail := by
  induction tokens with
  | nil => exact ⟨[], .nil, by simp [printed, Token.written, Token.endAt, Kind.written]⟩
  | cons token tokens inductionHypothesis =>
    obtain ⟨tail, isTail, whole⟩ := inductionHypothesis
    rw [List.cons_append, printed_cons, printed_cons, whole]
    cases tokens with
    | nil => exact ⟨[' '] ++ tail, .blank (by decide) isTail, by simp [blankBefore, printed]⟩
    | cons => exact ⟨tail, isTail, by simp [blankBefore]⟩

namespace Lexer

variable {lexer after : Lexer} {token : Token} {tokens : List Token} {filler rest tail : List Char}

/-- A token is read again behind any filler, before a rest that ends it. -/
theorem Reads.again (keywords : lexer.dictionary.HasKeywords) (reads : lexer.Reads token after)
    (isFiller : Filler lexer.rules filler) (agree : Continues after.rest rest) (offset : Nat) :
    ∃ answer place, answer.content = token.content ∧
      (lexer.moveTo offset (filler ++ (token.written ++ rest))).Reads answer
        (lexer.moveTo place rest) := by
  obtain ⟨gap, found, -, skips, ignored⟩ :=
    Gap.exists_passes lexer.rules .betweenTokens lexer.offset lexer.rest
  obtain ⟨first, others, lexeme, rfl, scanned, rfl, rfl⟩ := reads.exists_lexeme skips
  obtain ⟨body, isFront, written, again⟩ := Scan.readsOff_lexeme keywords lexeme scanned
  have notBegins : ¬BeginsGap lexer.rules (first :: (body ++ rest)) := by
    refine Scan.not_beginsGap_of_continues rfl (agree.append body) ?_
    rw [moveTo_rest, ← isFront]
    exact Ignored.ends ignored
  have skips' : Gap.betweenTokens.skip lexer.rules offset (filler ++ (first :: (body ++ rest))) =
      (offset + filler.length, first :: (body ++ rest)) := by
    rw [Gap.skip_filler isFiller, Gap.skip_of_not_beginsGap notBegins]
  have answer := next_of_skips (lexer.moveTo offset (filler ++ (first :: (body ++ rest)))) skips'
    (again rest agree)
  have isWritten : Token.written ⟨lexeme.kind, String.ofList lexeme.text,
      lexer.offset + gap.length, lexer.offset + gap.length + lexeme.written.length⟩ =
        first :: body := by
    rw [Token.written, String.toList_ofList, ← written, Lexeme.written]
  rw [isWritten]
  refine ⟨_, _, ?_, answer, reads.notEnd⟩
  rfl

/-- The end is answered where nothing but filler is left. -/
theorem next_filler (lexer : Lexer) (isFiller : Filler lexer.rules filler) (offset : Nat) :
    ∃ place after, (lexer.moveTo offset filler).next = (.ok (.endAt place), after) := by
  have skips : Gap.betweenTokens.skip lexer.rules offset filler = (offset + filler.length, []) := by
    have whole := @Gap.skip_filler lexer.rules offset filler isFiller []
    rwa [List.append_nil, Gap.skip] at whole
  exact ⟨_, _, next_of_skips_nil (lexer.moveTo offset filler) skips⟩

/-- Tokens that successive calls answer are answered again where they are printed, also behind
filler. The filler is left if there are no tokens. -/
theorem Yields.again (keywords : lexer.dictionary.HasKeywords) (yields : lexer.Yields tokens after)
    (isFiller : Filler lexer.rules filler)
    (isTail : Layout tail) (offset : Nat) :
    ∃ answers filler' place, Filler lexer.rules filler' ∧
      answers.map Token.content = tokens.map Token.content ∧
      (lexer.moveTo offset (filler ++ (printed tokens ++ tail))).Yields answers
        (lexer.moveTo place (filler' ++ tail)) := by
  induction yields generalizing filler offset with
  | nil => exact ⟨[], filler, offset, isFiller, rfl, .nil⟩
  | @cons lexer middle after token tokens reads later inductionHypothesis =>
    obtain ⟨answer, place, same, first⟩ :=
      reads.again keywords isFiller (continues_printed tokens isTail) offset
    obtain ⟨gap, written, readsAs⟩ := reads.exists_readsAs keywords
    have moved : ∀ offset rest, middle.moveTo offset rest = lexer.moveTo offset rest := by
      intro offset rest
      rw [readsAs.landed, moveTo_moveTo]
    have sameRules : middle.rules = lexer.rules := by
      rw [readsAs.landed, moveTo_rules]
    obtain ⟨answers, filler', place', isFiller', sames, rest⟩ :=
      inductionHypothesis (reads.dictionary_eq keywords ▸ keywords)
        (layout_blankBefore tokens).filler place
    rw [moved, moved] at rest
    rw [sameRules] at isFiller'
    refine ⟨answer :: answers, filler', place', isFiller', ?_, ?_⟩
    · rw [List.map_cons, List.map_cons, same, sames]
    · rw [printed_cons, List.append_assoc, List.append_assoc]
      exact .cons first rest

end Lexer

namespace Tape

variable {lexer : Lexer}

/-- The tokens of a tape without a fault are on the tape of the printed text too. -/
theorem ofLexer_printed (keywords : lexer.dictionary.HasKeywords)
    (clean : (ofLexer lexer).isClean = true) {tail : List Char} (isTail : Layout tail) :
    let again := ofLexer (lexer.moveTo 0 (printed (ofLexer lexer).tokens.dropLast ++ tail))
    again.isClean = true ∧ again.tokens.map Token.content = (ofLexer lexer).tokens.map Token.content ∧
      ∃ place, again.tokens.getLast? = some (.endAt place) := by
  intro again
  have finished : (ofLexer lexer).ending = .finished := by simpa [isClean] using clean
  obtain ⟨tokens, after, place, next, whole, yields, -⟩ :=
    exists_yields_of_finished keywords finished
  obtain ⟨answers, filler, offset, isFiller, sames, yields'⟩ :=
    yields.again keywords .nil isTail 0
  obtain ⟨place', next', answer⟩ := lexer.next_filler (isFiller.append isTail.filler) offset
  have tape : again = ⟨answers ++ [.endAt place'], .finished⟩ := by
    have tape := ofLexer_of_yields (by exact keywords) yields'
    rw [ofLexer_of_end answer] at tape
    simp only [again, whole, List.dropLast_concat]
    exact tape
  rw [tape, whole]
  refine ⟨rfl, ?_, place', List.getLast?_concat⟩
  rw [List.map_append, List.map_append, sames]
  rfl

/-- The tokens of a text without a fault, printed and read by a lexer of the same rules and keywords,
are the same tokens, and end with the end token. The end token is printed as no characters, behind a
blank, or is left out. -/
theorem content_of_printed (rules : LexicalRules) (dialect : Dialect) (text : String)
    (clean : (ofLexer (.ofText rules (.ofDialect dialect) text)).isClean = true) :
    let tokens := (ofLexer (.ofText rules (.ofDialect dialect) text)).tokens
    ∀ printedTokens ∈ [tokens, tokens.dropLast],
      let again := ofLexer
        (.ofText rules (.ofDialect dialect) (String.ofList (printed printedTokens)))
      again.isClean = true ∧ again.tokens.map Token.content = tokens.map Token.content ∧
        ∃ place, again.tokens.getLast? = some (.endAt place) := by
  intro tokens printedTokens isPrinted
  have keywords := Dictionary.hasKeywords_ofDialect dialect
  obtain ⟨tail, isTail, whole⟩ : ∃ tail, Layout tail ∧
      printed printedTokens = printed tokens.dropLast ++ tail := by
    rcases List.mem_pair.mp isPrinted with rfl | rfl
    · obtain ⟨front, place, ends⟩ := ofLexer_finished keywords (by simpa [isClean] using clean)
      simp only [tokens, ends, List.dropLast_concat]
      exact exists_printed_concat_endAt front place
    · exact ⟨[], .nil, (List.append_nil _).symm⟩
  simp only [Lexer.ofText, String.toList_ofList, whole]
  exact ofLexer_printed keywords clean isTail

/-- Lexemes that touch, a quote in a string and comments. -/
theorem content_of_printed_touching :
    let tape := fun text => ofLexer (.ofText ⟨true, true, true, true⟩ (.ofDialect .mySQL) text)
    let touching := tape "a<>'it''s'/**/1.5e3.5[b c]`d`0x1F||@@v.w*-.6e- -- end"
    let spread := tape "a <> 'it''s' 1.5e3 .5 [b c] `d` 0x1F || @@v.w * - .6 e - "
    touching.isClean = true ∧ spread.isClean = true ∧
      spread.tokens.map Token.content = touching.tokens.map Token.content := by
  intro tape touching spread
  have clean : touching.isClean = true := by decide +kernel
  have whole : spread = tape (String.ofList (printed touching.tokens)) := by decide +kernel
  obtain ⟨cleanAgain, same, -⟩ := content_of_printed _ _ _ clean _ List.mem_cons_self
  rw [whole]
  exact ⟨clean, cleanAgain, same⟩

end Tape

end SqlSharding
