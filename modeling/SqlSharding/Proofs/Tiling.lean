import SqlSharding.Proofs.Lexing.Gap

/-!
# Tiling

The calls of a lexer cover the text without an overlap: each begins where the last one ended, ignores
blanks and comments, and passes the characters of one token. The end or a fault comes after no more
calls than the text has characters.
-/

namespace SqlSharding

/-- The quotation marks around an identifier. -/
inductive IdentifierQuotes (rules : LexicalRules) : (opening closing : Char) → Prop
  | double : IdentifierQuotes rules '"' '"'
  | backtick (backtickQuotes : rules.backtickQuotes) : IdentifierQuotes rules '\x60' '\x60'
  | bracket (bracketQuotes : rules.bracketQuotes) : IdentifierQuotes rules '[' ']'

/-- A text that begins with a quote and ends before the quote does. In a string two quotes in a row
close nothing. -/
inductive OpenQuote (rules : LexicalRules) : List Char → Prop
  | string (value : List Char) : OpenQuote rules ('\'' :: doubleQuotes value)
  | identifier {opening closing : Char} {body : List Char}
      (quotes : IdentifierQuotes rules opening closing) (notClosed : closing ∉ body) :
      OpenQuote rules (opening :: body)

namespace Scan

variable {rules : LexicalRules} {dictionary : Dictionary} {first : Char} {rest : List Char}

/-- A string that is not closed has only doubled quotes in it. -/
theorem exists_value_of_stringValue (unclosed : stringValue rest = none) :
    ∃ value, rest = doubleQuotes value := by
  fun_induction stringValue rest with
  | case1 more inductionHypothesis =>
    obtain ⟨value, rfl⟩ := inductionHypothesis (by simpa using unclosed)
    exact ⟨'\'' :: value, by simp [doubleQuotes]⟩
  | case2 => cases unclosed
  | case3 c more notDoubled notQuote inductionHypothesis =>
    obtain ⟨value, rfl⟩ := inductionHypothesis (by simpa using unclosed)
    exact ⟨c :: value, by simp [doubleQuotes, notQuote]⟩
  | case4 => exact ⟨[], rfl⟩

/-- A quoted identifier fails only for its closing quote, which does not follow. -/
theorem not_mem_of_quotedIdentifier {opening closing : Char} {fault : ScanFault}
    (unclosed : quotedIdentifier opening closing rest = .error fault) :
    fault = .unclosed ∧ closing ∉ rest := by
  unfold quotedIdentifier at unclosed
  split at unclosed
  · cases unclosed
  · rename_i dropped
    refine ⟨(Except.error.inj unclosed).symm, fun isIn => ?_⟩
    have whole := List.takeWhile_append_dropWhile (p := (· != closing)) (l := rest)
    rw [dropped, List.append_nil] at whole
    rw [← whole] at isIn
    have other := List.all_eq_true.mp List.all_takeWhile closing isIn
    simp at other

/-- Only the lexemes of the last cases can fail. -/
theorem quoteOrSymbol_of_lexeme {fault : ScanFault}
    (failed : lexeme rules dictionary first rest = .error fault) :
    quoteOrSymbol rules first rest = .error fault := by
  unfold lexeme at failed
  split at failed
  · cases failed
  split at failed
  · cases failed
  split at failed
  · cases failed
  split at failed
  · cases failed
  · exact failed

/-- Scanning fails with an open quote, and otherwise with a character that opens no quote. -/
theorem openQuote_of_lexeme {fault : ScanFault}
    (failed : lexeme rules dictionary first rest = .error fault) :
    (fault = .unclosed ∧ OpenQuote rules (first :: rest)) ∨
      (fault = .illegal first ∧ ¬OpenQuote rules (first :: rest)) := by
  replace failed := quoteOrSymbol_of_lexeme failed
  unfold quoteOrSymbol at failed
  by_cases isString : first = '\''
  · subst isString
    rw [if_pos rfl, string] at failed
    split at failed
    · cases failed
    · rename_i unclosed
      obtain ⟨value, rfl⟩ := exists_value_of_stringValue unclosed
      exact .inl ⟨(Except.error.inj failed).symm, .string value⟩
  by_cases isDouble : first = '"'
  · subst isDouble
    rw [if_neg isString, if_pos rfl] at failed
    obtain ⟨rfl, notClosed⟩ := not_mem_of_quotedIdentifier failed
    exact .inl ⟨rfl, .identifier .double notClosed⟩
  by_cases isBacktick : first = '\x60' ∧ rules.backtickQuotes
  · rw [if_neg isString, if_neg isDouble, if_pos isBacktick] at failed
    obtain ⟨rfl, backtickQuotes⟩ := isBacktick
    obtain ⟨rfl, notClosed⟩ := not_mem_of_quotedIdentifier failed
    exact .inl ⟨rfl, .identifier (.backtick backtickQuotes) notClosed⟩
  by_cases isBracket : first = '[' ∧ rules.bracketQuotes
  · rw [if_neg isString, if_neg isDouble, if_neg isBacktick, if_pos isBracket] at failed
    obtain ⟨rfl, bracketQuotes⟩ := isBracket
    obtain ⟨rfl, notClosed⟩ := not_mem_of_quotedIdentifier failed
    exact .inl ⟨rfl, .identifier (.bracket bracketQuotes) notClosed⟩
  rw [if_neg isString, if_neg isDouble, if_neg isBacktick, if_neg isBracket, symbol] at failed
  refine .inr ⟨?_, fun isOpen => ?_⟩
  · split at failed
    · cases failed
    split at failed
    · cases failed
    · exact (Except.error.inj failed).symm
  · cases isOpen with
    | string => exact isString rfl
    | identifier quotes =>
      cases quotes with
      | double => exact isDouble rfl
      | backtick backtickQuotes => exact isBacktick ⟨rfl, backtickQuotes⟩
      | bracket bracketQuotes => exact isBracket ⟨rfl, bracketQuotes⟩

end Scan

/-- What a token covers of a text, if it is answered before the place `offset`. -/
structure Token.Covers (rules : LexicalRules) (text : List Char) (offset : Nat) (token : Token) :
    Prop where
  offset_le : offset ≤ token.start
  start_le : token.start ≤ token.stop
  stop_le : token.stop ≤ text.length
  /-- Blanks and comments stand before the token, and it begins with neither. -/
  ignored : Ignored rules (text.extract offset token.start) (text.drop token.start)
  /-- The characters of the token are those it is written with. -/
  written : text.extract token.start token.stop = token.kind.written token.text.toList
  notEmpty : token.kind ≠ .endOfText → token.start < token.stop
  atEnd : token.kind = .endOfText → token.start = text.length

/-- What a fault covers of a text, if it is answered between the places `offset` and `after`. -/
structure IllegalInput.Covers (rules : LexicalRules) (text : List Char) (offset after : Nat)
    (fault : IllegalInput) : Prop where
  offset_le : offset ≤ fault.position
  position_lt : fault.position < text.length
  /-- Blanks and comments stand before the fault, and it begins with neither. -/
  ignored : Ignored rules (text.extract offset fault.position) (text.drop fault.position)
  /-- A quote that is not closed is passed with all that follows it. -/
  unclosed : OpenQuote rules (text.drop fault.position) →
    fault.text.toList = text.drop fault.position ∧ after = text.length
  /-- Any other character is not passed. -/
  illegal : ¬OpenQuote rules (text.drop fault.position) →
    fault.text.toList = (text.drop fault.position).take 1 ∧ after = fault.position

/-- Blanks and comments stand before a token that is no end. -/
theorem Token.Covers.filler {rules : LexicalRules} {text : List Char} {offset : Nat} {token : Token}
    (covers : token.Covers rules text offset) (notEnd : token.kind ≠ .endOfText) :
    Filler rules (text.extract offset token.start) := by
  have startLt : token.start < text.length := Nat.lt_of_lt_of_le (covers.notEmpty notEnd) covers.stop_le
  exact covers.ignored.filler_of_ne (by simpa using startLt)

namespace Lexer

/-- What the answer of a call between two places covers of a text. -/
def Covers (rules : LexicalRules) (text : List Char) (offset after : Nat) :
    Except IllegalInput Token → Prop
  | .ok token => token.Covers rules text offset ∧ after = token.stop
  | .error fault => fault.Covers rules text offset after

/-- The lexer after so many calls. -/
def afterCalls : (calls : Nat) → Lexer → Lexer
  | 0, lexer => lexer
  | calls + 1, lexer => lexer.next.2.afterCalls calls

/-- One call more is made from where the others have left the lexer. -/
theorem afterCalls_succ (lexer : Lexer) (calls : Nat) :
    lexer.afterCalls (calls + 1) = (lexer.afterCalls calls).next.2 := by
  induction calls generalizing lexer with
  | zero => rfl
  | succ calls inductionHypothesis => exact inductionHypothesis lexer.next.2

/-- The lexer stands in a text. -/
structure StandsIn (rules : LexicalRules) (text : List Char) (lexer : Lexer) : Prop where
  rules : lexer.rules = rules
  keywords : lexer.dictionary.HasKeywords
  bounded : lexer.offset ≤ text.length
  rest : lexer.rest = text.drop lexer.offset

/-- The place `start` comes behind the blanks and comments that stand at the place `offset` of a
text. -/
structure Lands (rules : LexicalRules) (text : List Char) (offset start : Nat) (rest : List Char) :
    Prop where
  offset_le : offset ≤ start
  bounded : start ≤ text.length
  ignored : Ignored rules (text.extract offset start) (text.drop start)
  rest : text.drop start = rest

variable {rules : LexicalRules} {text rest : List Char} {lexer : Lexer} {offset start : Nat}

/-- A window of a text, from a place as far as a piece reaches that stands there. -/
theorem window {piece : List Char} {place : Nat} (bounded : place ≤ text.length)
    (whole : text.drop place = piece ++ rest) :
    text.extract place (place + piece.length) = piece ∧
      text.drop (place + piece.length) = rest ∧ place + piece.length ≤ text.length := by
  refine ⟨?_, ?_, ?_⟩
  · rw [List.extract_eq_take_drop, Nat.add_sub_cancel_left, whole, List.take_left]
  · rw [← List.drop_drop, whole, List.drop_left]
  · have lengths := congrArg List.length whole
    rw [List.length_drop, List.length_append] at lengths
    omega

/-- What follows a place is what stands up to a later place, and what follows that. -/
theorem drop_eq_extract {stop : Nat} (ordered : start ≤ stop) :
    text.drop start = text.extract start stop ++ text.drop stop := by
  have behind : text.drop stop = (text.drop start).drop (stop - start) := by
    rw [List.drop_drop, Nat.add_sub_of_le ordered]
  rw [List.extract_eq_take_drop, behind, List.take_append_drop]

/-- Two pieces of a text, one behind the other. -/
theorem extract_append {middle stop : Nat} (first : start ≤ middle) (second : middle ≤ stop) :
    text.extract start middle ++ text.extract middle stop = text.extract start stop := by
  have length : stop - start = middle - start + (stop - middle) := by omega
  have behind : text.drop middle = (text.drop start).drop (middle - start) := by
    rw [List.drop_drop, Nat.add_sub_of_le first]
  simp only [List.extract_eq_take_drop]
  rw [behind, length, List.take_add]

/-- A lexer in a text lands behind the blanks and comments before it. -/
theorem StandsIn.exists_lands (stands : lexer.StandsIn rules text) :
    ∃ (gap rest : List Char), Gap.betweenTokens.skip lexer.rules lexer.offset lexer.rest =
        (lexer.offset + gap.length, rest) ∧
      Lands rules text lexer.offset (lexer.offset + gap.length) rest := by
  obtain ⟨gap, rest, whole, skips, ignored⟩ :=
    Gap.exists_passes lexer.rules .betweenTokens lexer.offset lexer.rest
  rw [stands.rest] at whole
  obtain ⟨gapHere, atRest, bounded⟩ := window stands.bounded whole
  refine ⟨gap, rest, skips, Nat.le_add_right .., bounded, ?_, atRest⟩
  rw [gapHere, atRest, ← stands.rules]
  exact ignored

/-- Where nothing is left, the end covers the blanks and comments before it. -/
theorem Lands.endAt (lands : Lands rules text offset start []) :
    (Token.endAt start).Covers rules text offset where
  offset_le := lands.offset_le
  start_le := Nat.le_refl _
  stop_le := lands.bounded
  ignored := lands.ignored
  written := by simp [Token.endAt, Kind.written]
  notEmpty notEnd := absurd rfl notEnd
  atEnd _ := Nat.le_antisymm lands.bounded (List.drop_eq_nil_iff.mp lands.rest)

/-- A token covers the blanks and comments before it and the characters it is written with. -/
theorem Lands.token {lexeme : Lexeme} (notEnd : lexeme.kind ≠ .endOfText)
    (notEmpty : lexeme.written ≠ []) (lands : Lands rules text offset start (lexeme.written ++ rest)) :
    Token.Covers rules text offset
      ⟨lexeme.kind, String.ofList lexeme.text, start, start + lexeme.written.length⟩ where
  offset_le := lands.offset_le
  start_le := Nat.le_add_right ..
  stop_le := (window lands.bounded lands.rest).2.2
  ignored := lands.ignored
  written := by
    rw [(window lands.bounded lands.rest).1, String.toList_ofList, Lexeme.written]
  notEmpty _ := Nat.lt_add_of_pos_right (List.length_pos_iff.mpr notEmpty)
  atEnd isEnd := absurd isEnd notEnd

/-- Where characters are left, the place is in the text. -/
theorem Lands.lt_length {first : Char} (lands : Lands rules text offset start (first :: rest)) :
    start < text.length := by
  have lengths := congrArg List.length lands.rest
  rw [List.length_drop, List.length_cons] at lengths
  omega

/-- A quote that is not closed covers all that is left. -/
theorem Lands.unclosed {first : Char} (lands : Lands rules text offset start (first :: rest))
    (isOpen : OpenQuote rules (first :: rest)) :
    IllegalInput.Covers rules text offset text.length ⟨start, String.ofList (first :: rest)⟩ where
  offset_le := lands.offset_le
  position_lt := lands.lt_length
  ignored := lands.ignored
  unclosed _ := ⟨by rw [lands.rest, String.toList_ofList], rfl⟩
  illegal notOpen := absurd (lands.rest ▸ isOpen) notOpen

/-- A character that begins no token covers itself. -/
theorem Lands.illegal {first : Char} (lands : Lands rules text offset start (first :: rest))
    (notOpen : ¬OpenQuote rules (first :: rest)) :
    IllegalInput.Covers rules text offset start ⟨start, String.ofList [first]⟩ where
  offset_le := lands.offset_le
  position_lt := lands.lt_length
  ignored := lands.ignored
  unclosed isOpen := absurd (lands.rest ▸ isOpen) notOpen
  illegal _ := ⟨by rw [lands.rest, String.toList_ofList]; rfl, rfl⟩

/-- One call covers the text from the place of the lexer to the place of the lexer after it. -/
theorem StandsIn.next (stands : lexer.StandsIn rules text) :
    lexer.next.2.StandsIn rules text ∧
      Covers rules text lexer.offset lexer.next.2.offset lexer.next.1 := by
  obtain ⟨gap, rest, skips, lands⟩ := stands.exists_lands
  cases rest with
  | nil =>
    rw [next_of_skips_nil lexer skips]
    exact ⟨⟨stands.rules, stands.keywords, lands.bounded, lands.rest.symm⟩, lands.endAt, rfl⟩
  | cons first others =>
    cases scanned : Scan.lexeme lexer.rules lexer.dictionary first others with
    | ok lexeme =>
      obtain ⟨body, isFront, written, -⟩ := Scan.readsOff_lexeme stands.keywords lexeme scanned
      rw [isFront, ← List.cons_append, ← written] at lands
      obtain ⟨-, behind, bounded⟩ := window lands.bounded lands.rest
      rw [next_of_skips lexer skips scanned]
      exact ⟨⟨stands.rules, stands.keywords, bounded, behind.symm⟩,
        lands.token (Scan.kind_ne_endOfText stands.keywords scanned) (by simp [written]), rfl⟩
    | error fault =>
      have failed := Scan.openQuote_of_lexeme scanned
      rw [stands.rules] at failed
      obtain ⟨rfl, isOpen⟩ | ⟨rfl, notOpen⟩ := failed
      · have atEnd : lexer.offset + gap.length + (first :: others).length = text.length := by
          rw [← lands.rest, List.length_drop]
          exact Nat.add_sub_of_le lands.bounded
        have answer : lexer.next =
            (.error ⟨lexer.offset + gap.length, String.ofList (first :: others)⟩,
              lexer.moveTo text.length []) := by
          simp only [Lexer.next, skipGap, skips, scanned, atEnd]
          rfl
        rw [answer]
        exact ⟨⟨stands.rules, stands.keywords, Nat.le_refl _, List.drop_length.symm⟩,
          lands.unclosed isOpen⟩
      · have answer : lexer.next = (.error ⟨lexer.offset + gap.length, String.ofList [first]⟩,
            lexer.moveTo (lexer.offset + gap.length) (first :: others)) := by
          simp only [Lexer.next, skipGap, skips, scanned]
          rfl
        rw [answer]
        exact ⟨⟨stands.rules, stands.keywords, lands.bounded, lands.rest.symm⟩,
          lands.illegal notOpen⟩

/-- No call moves the lexer back. -/
theorem Covers.offset_le {after : Nat} {answer : Except IllegalInput Token}
    (covers : Covers rules text offset after answer) : offset ≤ after := by
  cases answer with
  | ok token =>
    obtain ⟨covers, rfl⟩ := covers
    exact Nat.le_trans covers.offset_le covers.start_le
  | error fault =>
    have positionLt := covers.position_lt
    refine Nat.le_trans (IllegalInput.Covers.offset_le covers) ?_
    by_cases isOpen : OpenQuote rules (text.drop fault.position)
    · rw [(covers.unclosed isOpen).2]
      exact Nat.le_of_lt positionLt
    · exact Nat.le_of_eq (covers.illegal isOpen).2.symm

/-- Calls leave a lexer in its text. -/
theorem StandsIn.afterCalls (stands : lexer.StandsIn rules text) (calls : Nat) :
    (lexer.afterCalls calls).StandsIn rules text := by
  induction calls generalizing lexer with
  | zero => exact stands
  | succ calls inductionHypothesis => exact inductionHypothesis stands.next.1

/-- The next call answers the end of the text or a fault. -/
def IsDone (lexer : Lexer) : Prop :=
  (∃ place, lexer.next.1 = .ok (.endAt place)) ∨ ∃ fault, lexer.next.1 = .error fault

/-- A gap and the token behind it, as they are written. -/
def pieceWritten (piece : List Char × Token) : List Char :=
  piece.1 ++ piece.2.kind.written piece.2.text.toList

variable {after : Lexer} {token : Token} {tokens : List Token}

/-- A token that is read covers the text from the place of the lexer up to the place behind it. -/
theorem StandsIn.reads (stands : lexer.StandsIn rules text) (reads : lexer.Reads token after) :
    after.StandsIn rules text ∧ token.Covers rules text lexer.offset ∧ after.offset = token.stop := by
  have next := stands.next
  rw [reads.answer] at next
  exact next

/-- The tokens that calls answer make up the text that they pass, with blanks and comments before each,
and take a character each at least. -/
theorem StandsIn.exists_pieces_of_yields (stands : lexer.StandsIn rules text)
    (yields : lexer.Yields tokens after) :
    lexer.offset + tokens.length ≤ after.offset ∧
      ∃ pieces : List (List Char × Token), pieces.map Prod.snd = tokens ∧
        (∀ piece ∈ pieces, Filler rules piece.1) ∧
        pieces.flatMap pieceWritten = text.extract lexer.offset after.offset := by
  induction yields with
  | nil => exact ⟨Nat.le_refl _, [], rfl, nofun, by simp [List.extract_eq_take_drop]⟩
  | @cons lexer middle after token tokens reads later inductionHypothesis =>
    obtain ⟨standsBehind, covers, atStop⟩ := stands.reads reads
    obtain ⟨count, pieces, areTokens, fillers, whole⟩ := inductionHypothesis standsBehind
    have toStart := covers.offset_le
    have notEmpty := covers.notEmpty reads.notEnd
    have toStop := covers.start_le
    have further : token.stop ≤ after.offset := by omega
    refine ⟨?_, (text.extract lexer.offset token.start, token) :: pieces, ?_, ?_, ?_⟩
    · rw [List.length_cons]
      omega
    · rw [List.map_cons, areTokens]
    · exact List.forall_mem_cons.mpr ⟨covers.filler reads.notEnd, fillers⟩
    · rw [List.flatMap_cons, whole, pieceWritten, ← covers.written, atStop,
        extract_append toStart toStop, extract_append (Nat.le_trans toStart toStop) further]

/-- Calls answer tokens, one behind the other, until the end or a fault. -/
theorem StandsIn.exists_yields (stands : lexer.StandsIn rules text) :
    ∃ tokens, lexer.Yields tokens (lexer.afterCalls tokens.length) ∧
      (lexer.afterCalls tokens.length).IsDone := by
  induction bound : lexer.rest.length using Nat.strongRecOn generalizing lexer with
  | _ bound inductionHypothesis =>
    rcases lexer.next_cases stands.keywords with
      ⟨token, after, reads⟩ | ⟨place, after, answer⟩ | ⟨fault, after, answer⟩
    · obtain ⟨standsBehind, -⟩ := stands.reads reads
      obtain ⟨tokens, yields, isDone⟩ :=
        inductionHypothesis _ (bound ▸ reads.shorter stands.keywords) standsBehind rfl
      have afterFirst : lexer.afterCalls (tokens.length + 1) = after.afterCalls tokens.length := by
        rw [Lexer.afterCalls, reads.answer]
      refine ⟨token :: tokens, ?_, ?_⟩
      · rw [List.length_cons, afterFirst]
        exact .cons reads yields
      · rw [List.length_cons, afterFirst]
        exact isDone
    · exact ⟨[], .nil, .inl ⟨place, congrArg Prod.fst answer⟩⟩
    · exact ⟨[], .nil, .inr ⟨fault, congrArg Prod.fst answer⟩⟩

/-- Calls answer the tokens of a text, one behind the other, until its end or a fault. Each takes a
character at least. -/
theorem StandsIn.exists_pieces (stands : lexer.StandsIn rules text) :
    ∃ pieces : List (List Char × Token), lexer.offset + pieces.length ≤ text.length ∧
      lexer.Yields (pieces.map Prod.snd) (lexer.afterCalls pieces.length) ∧
      (∀ piece ∈ pieces, Filler rules piece.1) ∧
      text.drop lexer.offset = pieces.flatMap pieceWritten ++
        text.drop (lexer.afterCalls pieces.length).offset ∧
      (lexer.afterCalls pieces.length).IsDone := by
  obtain ⟨tokens, yields, isDone⟩ := stands.exists_yields
  obtain ⟨count, pieces, rfl, fillers, whole⟩ := stands.exists_pieces_of_yields yields
  rw [List.length_map] at count yields whole isDone
  have bounded := (stands.afterCalls pieces.length).bounded
  refine ⟨pieces, by omega, yields, fillers, ?_, isDone⟩
  rw [whole, ← drop_eq_extract (by omega)]

/-- A lexer of a text stands in it. -/
theorem standsIn_ofText (rules : LexicalRules) (dialect : Dialect) (text : String) :
    (ofText rules (.ofDialect dialect) text).StandsIn rules text.toList :=
  ⟨rfl, Dictionary.hasKeywords_ofDialect dialect, Nat.zero_le _, rfl⟩

/-- The calls of a fresh lexer cover its text, whatever the rules, the dialect and the text are. No
call moves the lexer back or out of the text, and each covers what it passes. The first calls answer
the tokens of the text, which with the gaps before them make up the text, and after no more tokens
than there are characters a call answers the end or a fault. -/
theorem calls_cover (rules : LexicalRules) (dialect : Dialect) (text : String) :
    let lexer := ofText rules (.ofDialect dialect) text
    (∀ calls, (lexer.afterCalls calls).offset ≤ (lexer.afterCalls (calls + 1)).offset ∧
      (lexer.afterCalls calls).offset ≤ text.toList.length ∧
      Covers rules text.toList (lexer.afterCalls calls).offset
        (lexer.afterCalls (calls + 1)).offset (lexer.afterCalls calls).next.1) ∧
    ∃ pieces : List (List Char × Token), pieces.length ≤ text.toList.length ∧
      lexer.Yields (pieces.map Prod.snd) (lexer.afterCalls pieces.length) ∧
      (∀ piece ∈ pieces, Filler rules piece.1) ∧
      text.toList = pieces.flatMap pieceWritten ++
        text.toList.drop (lexer.afterCalls pieces.length).offset ∧
      (lexer.afterCalls pieces.length).IsDone := by
  intro lexer
  have stands : lexer.StandsIn rules text.toList := standsIn_ofText rules dialect text
  refine ⟨fun calls => ?_, ?_⟩
  · have standsHere := stands.afterCalls calls
    obtain ⟨-, covers⟩ := standsHere.next
    rw [← afterCalls_succ] at covers
    exact ⟨covers.offset_le, standsHere.bounded, covers⟩
  · obtain ⟨pieces, count, yields, filled, whole, isDone⟩ := stands.exists_pieces
    have fromStart : lexer.offset = 0 := rfl
    rw [fromStart] at count whole
    exact ⟨pieces, by omega, yields, filled, whole, isDone⟩

end Lexer

end SqlSharding
