import SqlSharding.Proofs.Lexing.Place
import SqlSharding.Proofs.Outline.Shape
import SqlSharding.Proofs.Retrace.Statements

/-!
# Scripts

Statements with a semicolon between every two are read one by one, each as if it stood alone, but
that its marks are counted from the beginning of the script.
-/

namespace SqlSharding

/-- The mark so many characters further on. -/
def TableMark.shift (count : Nat) (mark : TableMark) : TableMark :=
  { mark with position := mark.position + count }

/-- The reference so many characters further on. -/
def TableReference.shift (count : Nat) (reference : TableReference) : TableReference :=
  { reference with mark := reference.mark.shift count }

/-- The statement so many characters further on. -/
def Statement.shift (count : Nat) (statement : Statement) : Statement :=
  { statement with marks := statement.marks.map (·.shift count) }

/-- A text that can be a piece of a script, and the statement it is read to alone. -/
structure IsPiece (dialect : Dialect) (rule : ShardingRule) (text : String) (statement : Statement) :
    Prop where
  clean : (Tape.ofText dialect text).isClean = true
  noSemicolon : ∀ token ∈ (Tape.ofText dialect text).tokens, token.kind ≠ .symbol .semicolon
  /-- The text ends with the last character of its last token before the end token. -/
  noRest : (Tape.ofText dialect text).tokens.dropLast.getLast?.map (·.stop) = some text.length
  parsed : parse dialect rule text = .ok statement

/-- From the cursor on, the statements of some pieces can be read one after another. Before each of
them the cursor is on the first token of its piece, and behind the last one it is at the end. -/
inductive ReadsPieces (dialect : Dialect) (rule : ShardingRule) :
    (offset : Nat) → List (String × Statement) → Cursor → Prop
  | nil {offset : Nat} {cursor : Cursor} (atEnd : cursor.current.kind = .endOfText) :
      ReadsPieces dialect rule offset [] cursor
  | cons {offset : Nat} {text : String} {statement : Statement} {later : List (String × Statement)}
      {cursor after : Cursor} {first : Token}
      (isFirst : (Tape.ofText dialect text).tokens.head? = some first)
      (onFirst : cursor.current = first.shift offset)
      (read : Reading.statementOf dialect rule cursor = .ok (statement.shift offset) after)
      (readsLater : ReadsPieces dialect rule (offset + text.length + 1) later after) :
      ReadsPieces dialect rule offset ((text, statement) :: later) cursor

/-- Tokens answered by the same ones so many characters further on, and the end by a semicolon. -/
def Echo.shift (count : Nat) : Echo where
  kept token answer := answer = token.shift count
  marked token answer := answer = token.shift count
  semicolonEnds := True
  kind_of_kept := by
    rintro token _ rfl
    rfl
  text_of_kept := by
    rintro token _ rfl -
    rfl
  kind_of_marked := by
    rintro token _ rfl -
    exact .inl rfl

namespace Lexer

/-- A semicolon is read wherever it stands, whatever follows. -/
theorem reads_semicolon (lexer : Lexer) (offset : Nat) (rest : List Char) :
    (lexer.moveTo offset (';' :: rest)).Reads ⟨.symbol .semicolon, ";", offset, offset + 1⟩
      (lexer.moveTo (offset + 1) rest) := by
  have skips : Gap.betweenTokens.skip lexer.rules offset (';' :: rest) = (offset, ';' :: rest) :=
    Gap.skip_of_isBreak rfl
  have scanned : Scan.lexeme lexer.rules lexer.dictionary ';' rest =
      .ok ⟨.symbol .semicolon, [';'], rest⟩ := by
    have notPair : rest.head?.bind (Scan.pairSymbol? ';') = none := by
      cases rest <;> simp [Scan.pairSymbol?]
    rw [Scan.lexeme, if_neg (by simp), if_neg (by decide), if_neg (by simp), if_neg (by simp),
      if_neg (by decide), if_neg (by decide), if_neg (by simp), if_neg (by simp), Scan.symbol, notPair]
    rfl
  have answer := @next_of_skips (lexer.moveTo offset (';' :: rest)) [] _ _ _ skips scanned
  exact ⟨answer, by simp⟩

/-- Behind the last token that is answered. -/
theorem Yields.offset_eq {lexer after : Lexer} {first : List Token} {token : Token}
    (keywords : lexer.dictionary.HasKeywords) (yields : lexer.Yields (first ++ [token]) after) :
    after.offset = token.stop := by
  obtain ⟨middle, next, front, reads, behind⟩ := yields.split
  cases behind with
  | nil =>
    obtain ⟨gap, written, readsAs⟩ := reads.exists_readsAs (front.dictionary_eq keywords ▸ keywords)
    rw [readsAs.landed, moveTo_offset]

end Lexer

/-- A lexer of the dialect with characters before it and behind it. -/
def Lexer.within (dialect : Dialect) (offset : Nat) (rest : List Char) : Lexer :=
  (Lexer.ofDialect dialect "").moveTo offset rest

section Pieces

variable {dialect : Dialect} {rule : ShardingRule} {text : String} {statement : Statement}

/-- The lexer within a text has a dictionary of keywords. -/
theorem Lexer.hasKeywords_within (dialect : Dialect) (offset : Nat) (rest : List Char) :
    (Lexer.within dialect offset rest).dictionary.HasKeywords :=
  Dictionary.hasKeywords_ofDialect dialect

/-- The last token of a piece takes its last character, so nothing is left behind it. -/
theorem IsPiece.rest_eq_nil (isPiece : IsPiece dialect rule text statement) {taken : List Token}
    {place : Nat} {after : Lexer}
    (tokens : (Tape.ofText dialect text).tokens = taken ++ [.endAt place]) (notEmpty : taken ≠ [])
    (yields : (Lexer.ofDialect dialect text).Yields taken after) : after.rest = [] := by
  have keywords := Dictionary.hasKeywords_ofDialect dialect
  obtain ⟨front, last, rfl⟩ := (List.eq_nil_or_concat taken).resolve_left notEmpty
  rw [List.concat_eq_append] at tokens yields
  have atEnd : last.stop = text.length := by
    have noRest := isPiece.noRest
    rw [tokens, List.dropLast_concat, List.getLast?_concat] at noRest
    exact Option.some.inj noRest
  obtain ⟨passed, passedAs⟩ := yields.exists_yieldsAs keywords
  have characters : text.toList = passed ++ after.rest := passedAs.rest
  have offset : after.offset = passed.length := by
    rw [passedAs.landed]
    exact Nat.zero_add _
  have length : passed.length = text.toList.length := by
    rw [String.length_toList, ← atEnd, ← yields.offset_eq keywords, offset]
  rw [characters, List.length_append] at length
  exact List.eq_nil_of_length_eq_zero (by omega)

/-- The tokens of a piece before its end are answered wherever the piece stands, also with a semicolon
behind it. -/
theorem IsPiece.exists_front (isPiece : IsPiece dialect rule text statement) :
    ∃ first front place, (Tape.ofText dialect text).tokens = first :: front ++ [.endAt place] ∧
      ∀ offset rest, rest = [] ∨ Breaks [] rest →
        (Lexer.within dialect offset (text.toList ++ rest)).Yields
          ((first :: front).map (Token.shift offset))
          (Lexer.within dialect (offset + text.length) rest) := by
  have finished : (Tape.ofText dialect text).ending = .finished := by
    simpa [Tape.isClean] using isPiece.clean
  obtain ⟨taken, place, tokens⟩ := Tape.ofText_finished finished
  obtain ⟨cursor, _, _, family, _, begins, onKeyword, -, -, -⟩ :=
    Reading.parse_ok_iff_outline.mp isPiece.parsed
  have whole := begins.tokens.trans tokens
  cases taken with
  | nil =>
    have current : cursor.current = .endAt place := (List.cons.inj whole).1
    rw [current] at onKeyword
    cases onKeyword
  | cons first front =>
    obtain ⟨middle, passed, -, -⟩ := Cursor.exists_passes whole
    obtain ⟨after, yields, -⟩ := begins.exists_yields passed
    have nothing := isPiece.rest_eq_nil tokens (by simp) yields
    obtain ⟨passed, passedAs⟩ := yields.exists_yieldsAs (Dictionary.hasKeywords_ofDialect dialect)
    have characters : text.toList = passed := by
      have whole : text.toList = passed ++ after.rest := passedAs.rest
      rw [whole, nothing, List.append_nil]
    refine ⟨first, front, place, tokens, fun offset rest isRest => ?_⟩
    have again := passedAs.again offset rest (nothing ▸ isRest)
    rw [← characters, String.length_toList] at again
    have start : (Lexer.ofDialect dialect text).offset + offset = offset := Nat.zero_add _
    have stop : (Lexer.ofDialect dialect text).offset + text.length + offset =
        offset + text.length := by
      rw [Nat.add_right_comm, start]
    rw [start, stop] at again
    exact again

end Pieces

/-- A table is the same wherever it is referred to. -/
theorem Tables.ofReferences_shift (count : Nat) (references : List TableReference) :
    ofReferences (references.map (·.shift count)) = ofReferences references := by
  rw [ofReferences, List.foldl_map]
  rfl

/-- An outline that is alike further on makes the same statement further on. -/
theorem Outline.statement_of_alike {count : Nat} {outline outline' : Outline} {rule : ShardingRule}
    {family : Family} (alike : Marked.Alike (Echo.shift count).MarksAlike outline outline') :
    outline'.statement rule family = (outline.statement rule family).shift count := by
  obtain ⟨references, columns⟩ := outline
  obtain ⟨references', columns'⟩ := outline'
  obtain ⟨referencesAlike, rfl⟩ := alike
  have moved : List.Forall₂ Eq (references.map (·.shift count)) references' := by
    refine List.forall₂_map_left_iff.mpr (referencesAlike.imp ?_)
    rintro ⟨_, alias?⟩ ⟨_, _⟩ ⟨⟨token, _, rfl, rfl, rfl⟩, rfl⟩
    rfl
  rw [List.forall₂_eq_eq_eq] at moved
  subst moved
  simp only [statement, Statement.ofReferences, Statement.shift, Tables.ofReferences_shift,
    List.map_map]
  cases references <;> rfl

namespace Reading

variable {dialect : Dialect} {rule : ShardingRule} {text : String} {statement : Statement}
  {cursor after : Cursor}

/-- Only one grammar moves past any token, and no dialect but its own has it. -/
theorem endsFor_of_ne {echo : Echo} (notSqlServer : dialect ≠ .sqlServer) :
    EndsFor echo dialect.grammar := by
  cases dialect with
  | sqlServer => exact absurd rfl notSqlServer
  | h2 | mySQL | oracle | postgreSQL => rintro ⟨⟩

/-- A piece is read to the same outline where the end or a semicolon stands behind it. -/
theorem exists_outline_of_piece {offset : Nat} {taken : List Token} {place : Nat}
    (notSqlServer : dialect ≠ .sqlServer) (isPiece : IsPiece dialect rule text statement)
    (tokens : (Tape.ofText dialect text).tokens = taken ++ [.endAt place])
    (settled : cursor.Settled) (passed : cursor.Passes (taken.map (Token.shift offset)) after)
    (ends : after.AtStatementEnd) :
    ∃ (family : Family) (outline : Outline), cursor.current.kind = .reserved family.keyword ∧
      family.outline dialect.grammar cursor = .ok outline after ∧
        outline.statement rule family = statement.shift offset := by
  obtain ⟨alone, middle, _, family, outline, begins, onKeyword, read, -, rfl⟩ :=
    parse_ok_iff_outline.mp isPiece.parsed
  obtain ⟨trail, passedAlone, names, -, -, again⟩ :=
    retraces_outline (endsFor_of_ne notSqlServer) family () _ _ _ begins.settled read
  -- A piece has no semicolon, so alone its outline reaches the end token.
  have whole : taken ++ [.endAt place] = trail.tokens ++ middle.tokens := by
    rw [← passedAlone.tokens, begins.tokens, tokens]
  have atEnd : middle.current.kind = .endOfText := by
    refine (ensures_outline _ _ _ _ _ read).2.resolve_right (isPiece.noSemicolon _ ?_)
    rw [tokens, whole]
    simp [Cursor.tokens]
  have nothing := (passedAlone.settled begins.settled).ahead_of_end atEnd
  have same : taken = trail.tokens := by
    refine (List.append_inj' whole ?_).1
    simp [Cursor.tokens, nothing]
  have answers : List.Forall₂ (Echo.shift offset).Answers trail (taken.map (Token.shift offset)) := by
    rw [same, Trail.tokens, List.map_map, List.forall₂_map_right_iff, List.forall₂_same]
    intro step _
    unfold Echo.Answers
    split <;> rfl
  have ahead : (Echo.shift offset).Ahead true middle.current after.current := by
    rcases ends with atEnd' | onSemicolon
    · exact .same (atEnd'.trans atEnd.symm)
    · exact .ended trivial atEnd onSemicolon
  obtain ⟨outline', alike, read'⟩ := again () _ _ _ trivial settled answers passed ahead
  have atStart : (Echo.shift offset).Ahead false alone.current cursor.current :=
    ahead_of_trail passedAlone passed names (by simp) answers ahead.loosen
  exact ⟨family, outline', atStart.onReserved onKeyword, read', Outline.statement_of_alike alike⟩

/-- The characters behind the first piece of a script: none, or a semicolon and the other pieces. -/
theorem exists_rest_of_script (text : String) (later : List String) :
    ∃ rest, (";".intercalate (text :: later)).toList = text.toList ++ rest ∧
      (later = [] ∧ rest = [] ∨ later ≠ [] ∧ rest = ';' :: (";".intercalate later).toList) := by
  cases later with
  | nil => exact ⟨[], by simp, .inl ⟨rfl, rfl⟩⟩
  | cons next later =>
    refine ⟨';' :: (";".intercalate (next :: later)).toList, ?_, .inr ⟨by simp, rfl⟩⟩
    rw [String.intercalate_cons_cons, String.toList_append, String.toList_append, List.append_assoc]
    rfl

/-- There is a token at the beginning of a script. -/
theorem tokens_ne_nil_of_script {pieces : List (String × Statement)} (notEmpty : pieces ≠ [])
    (arePieces : ∀ piece ∈ pieces, IsPiece dialect rule piece.1 piece.2) (offset : Nat) :
    (Tape.ofLexer (.within dialect offset (";".intercalate (pieces.map (·.1))).toList)).tokens ≠ [] := by
  obtain ⟨piece, later, rfl⟩ := List.exists_cons_of_ne_nil notEmpty
  obtain ⟨rest, characters, isRest⟩ := exists_rest_of_script piece.1 (later.map (·.1))
  obtain ⟨first, front, place, -, again⟩ := (arePieces piece List.mem_cons_self).exists_front
  have yields := again offset rest (isRest.imp (·.2) fun ⟨_, rest⟩ => rest ▸ .here rfl)
  rw [List.map_cons, characters, Tape.ofLexer_of_yields (Lexer.hasKeywords_within _ _ _) yields]
  simp [Tape.prepend]

/-- From the first token of a piece on, its statement is read in its place, if the end or a semicolon
stands behind it. -/
theorem exists_middle_of_piece (notSqlServer : dialect ≠ .sqlServer) {offset : Nat}
    {rest : List Char} (isPiece : IsPiece dialect rule text statement)
    (stands : cursor.StandsAt (.within dialect offset (text.toList ++ rest)))
    (isRest : rest = [] ∨ Breaks [] rest)
    (notEmpty : (Tape.ofLexer (.within dialect (offset + text.length) rest)).tokens ≠ []) :
    ∃ (first : Token) (middle : Cursor),
      (Tape.ofText dialect text).tokens.head? = some first ∧
        cursor.current = first.shift offset ∧ middle.Settled ∧
          middle.StandsAt (.within dialect (offset + text.length) rest) ∧
            (middle.AtStatementEnd → ∀ after,
              (discard <| skipIf [.symbol .semicolon]) middle = .ok PUnit.unit after →
                statementOf dialect rule cursor = .ok (statement.shift offset) after) := by
  obtain ⟨first, front, place, tokens, again⟩ := isPiece.exists_front
  have keywords := Lexer.hasKeywords_within dialect offset (text.toList ++ rest)
  have settled := stands.settled keywords
  obtain ⟨middle, passed, standsMiddle⟩ :=
    stands.exists_passes keywords (again offset rest isRest) notEmpty
  refine ⟨first, middle, by rw [tokens]; rfl, passed.current_eq, passed.settled settled,
    standsMiddle, fun ends after ended => ?_⟩
  obtain ⟨family, outline, onKeyword, read, same⟩ :=
    exists_outline_of_piece notSqlServer isPiece tokens settled passed ends
  exact statementOf_ok_iff_outline.mpr
    ⟨family, outline, middle, onKeyword, read, ended, same.symm⟩

/-- The last piece is read to the end. -/
theorem readsPieces_last (notSqlServer : dialect ≠ .sqlServer) {offset : Nat}
    (isPiece : IsPiece dialect rule text statement)
    (stands : cursor.StandsAt (.within dialect offset (text.toList ++ []))) :
    ReadsPieces dialect rule offset [(text, statement)] cursor := by
  have tape : Tape.ofLexer (.within dialect (offset + text.length) []) =
      ⟨[.endAt (offset + text.length)], .finished⟩ :=
    Tape.ofLexer_of_end rfl
  obtain ⟨first, middle, isFirst, onFirst, settled, standsMiddle, read⟩ :=
    exists_middle_of_piece notSqlServer isPiece stands (.inl rfl) (by simp [tape])
  have current : middle.current = .endAt (offset + text.length) :=
    (List.cons.inj (standsMiddle.tokens.trans (congrArg Tape.tokens tape))).1
  have atEnd : middle.current.kind = .endOfText := by
    rw [current]
    rfl
  have ended : (discard <| skipIf [.symbol .semicolon]) middle = .ok PUnit.unit middle :=
    discard_ok_iff.mpr ⟨false, skipIf_of_not_mem settled (by simp) (by simp [atEnd])⟩
  exact .cons isFirst onFirst (read (.inl atEnd) _ ended) (.nil atEnd)

/-- A piece with a semicolon behind it is read to the first token behind the semicolon. -/
theorem exists_after_piece (notSqlServer : dialect ≠ .sqlServer) {offset : Nat}
    {rest : List Char} (isPiece : IsPiece dialect rule text statement)
    (stands : cursor.StandsAt (.within dialect offset (text.toList ++ ';' :: rest)))
    (notEmpty : (Tape.ofLexer (.within dialect (offset + text.length + 1) rest)).tokens ≠ []) :
    ∃ (first : Token) (after : Cursor),
      (Tape.ofText dialect text).tokens.head? = some first ∧
        cursor.current = first.shift offset ∧
          statementOf dialect rule cursor = .ok (statement.shift offset) after ∧
            after.StandsAt (.within dialect (offset + text.length + 1) rest) := by
  have keywords := Lexer.hasKeywords_within dialect (offset + text.length) (';' :: rest)
  have yields : (Lexer.within dialect (offset + text.length) (';' :: rest)).Yields
      [⟨.symbol .semicolon, ";", offset + text.length, offset + text.length + 1⟩]
      (.within dialect (offset + text.length + 1) rest) :=
    .cons (Lexer.reads_semicolon _ _ _) .nil
  have middleNotEmpty :
      (Tape.ofLexer (.within dialect (offset + text.length) (';' :: rest))).tokens ≠ [] := by
    rw [Tape.ofLexer_of_yields keywords yields]
    simp [Tape.prepend]
  obtain ⟨first, middle, isFirst, onFirst, settled, standsMiddle, read⟩ :=
    exists_middle_of_piece notSqlServer isPiece stands (.inr (.here rfl)) middleNotEmpty
  obtain ⟨after, passed, standsAfter⟩ := standsMiddle.exists_passes keywords yields notEmpty
  have onSemicolon : middle.current.kind = .symbol .semicolon := by
    rw [passed.current_eq]
  have ended : (discard <| skipIf [.symbol .semicolon]) middle = .ok PUnit.unit after :=
    discard_ok_iff.mpr ⟨true, skipIf_of_passes settled (by simp) (by simp) passed⟩
  exact ⟨first, after, isFirst, onFirst, read (.inr onSemicolon) _ ended, standsAfter⟩

/-- From the first token of a script on, its pieces are read one after another. -/
theorem readsPieces_of_standsAt (notSqlServer : dialect ≠ .sqlServer)
    {pieces : List (String × Statement)} (notEmpty : pieces ≠ [])
    (arePieces : ∀ piece ∈ pieces, IsPiece dialect rule piece.1 piece.2) {offset : Nat}
    (stands : cursor.StandsAt
      (.within dialect offset (";".intercalate (pieces.map (·.1))).toList)) :
    ReadsPieces dialect rule offset pieces cursor := by
  induction pieces generalizing offset cursor with
  | nil => exact absurd rfl notEmpty
  | cons piece later inductionHypothesis =>
    rw [List.forall_mem_cons] at arePieces
    obtain ⟨isPiece, areLater⟩ := arePieces
    obtain ⟨rest, characters, isRest⟩ := exists_rest_of_script piece.1 (later.map (·.1))
    rw [List.map_cons, characters] at stands
    rcases isRest with ⟨none, rfl⟩ | ⟨some, rfl⟩
    · obtain rfl := List.map_eq_nil_iff.mp none
      exact readsPieces_last notSqlServer isPiece stands
    · have laterNotEmpty : later ≠ [] := fun none => some (congrArg _ none)
      obtain ⟨first, after, isFirst, onFirst, read, standsAfter⟩ :=
        exists_after_piece notSqlServer isPiece stands
          (tokens_ne_nil_of_script laterNotEmpty areLater _)
      exact .cons isFirst onFirst read (inductionHypothesis laterNotEmpty areLater standsAfter)

/-- The statements of a script are read one by one, from the first token to the end. -/
theorem readsPieces_of_script (notSqlServer : dialect ≠ .sqlServer)
    {pieces : List (String × Statement)} (notEmpty : pieces ≠ [])
    (arePieces : ∀ piece ∈ pieces, IsPiece dialect rule piece.1 piece.2) :
    ∃ cursor, advance (.ofText dialect (";".intercalate (pieces.map (·.1)))) = .ok () cursor ∧
      ReadsPieces dialect rule 0 pieces cursor := by
  obtain ⟨cursor, begins⟩ :=
    Cursor.exists_begins (tokens_ne_nil_of_script notEmpty arePieces 0)
  refine ⟨cursor, advance_ofText_ok_iff.mpr begins, ?_⟩
  exact readsPieces_of_standsAt notSqlServer notEmpty arePieces begins.standsAt

/-- A script of a query and a removal. -/
theorem readsPieces_of_script_two :
    IsPiece .mySQL .empty "SELECT a FROM t"
        ⟨.select, ⟨[⟨"t", []⟩]⟩, [⟨14, "t"⟩], [], none⟩ ∧
      IsPiece .mySQL .empty "DROP TABLE u" ⟨.drop, ⟨[⟨"u", []⟩]⟩, [⟨11, "u"⟩], [], none⟩ ∧
        ∃ cursor, advance (.ofText .mySQL "SELECT a FROM t;DROP TABLE u") = .ok () cursor ∧
          ReadsPieces .mySQL .empty 0 [
            ("SELECT a FROM t", ⟨.select, ⟨[⟨"t", []⟩]⟩, [⟨14, "t"⟩], [], none⟩),
            ("DROP TABLE u", ⟨.drop, ⟨[⟨"u", []⟩]⟩, [⟨11, "u"⟩], [], none⟩)] cursor := by
  have query : IsPiece .mySQL .empty "SELECT a FROM t"
      ⟨.select, ⟨[⟨"t", []⟩]⟩, [⟨14, "t"⟩], [], none⟩ :=
    ⟨by decide +kernel, by decide +kernel, by decide +kernel,
      parse_of_toOption (by decide +kernel)⟩
  have removal : IsPiece .mySQL .empty "DROP TABLE u"
      ⟨.drop, ⟨[⟨"u", []⟩]⟩, [⟨11, "u"⟩], [], none⟩ :=
    ⟨by decide +kernel, by decide +kernel, by decide +kernel,
      parse_of_toOption (by decide +kernel)⟩
  have script : "SELECT a FROM t;DROP TABLE u" =
      ";".intercalate ["SELECT a FROM t", "DROP TABLE u"] := by
    decide
  have notSqlServer : Dialect.mySQL ≠ .sqlServer := by decide
  refine ⟨query, removal, ?_⟩
  rw [script]
  refine @readsPieces_of_script _ _ notSqlServer [(_, _), (_, _)] (by simp) ?_
  rw [List.forall_mem_cons, List.forall_mem_singleton]
  exact ⟨query, removal⟩

end Reading

end SqlSharding
