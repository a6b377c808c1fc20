import SqlSharding.Proofs.Lexing.Quote
import SqlSharding.Proofs.Marks

/-!
# Rewriting

Every name that a statement marks can be written anew, as a quoted name with a suffix. The text that
comes of it is parsed to the same statement about the tables with the suffix.
-/

namespace SqlSharding

/-- The text with the name of every mark written anew, between double quotes and with a suffix. The
marks are replaced from the last one to the first, so each is still at its place. -/
def Statement.rewrite (statement : Statement) (suffix text : String) : String :=
  statement.marks.foldr (fun mark => mark.replaceIn (quoteName (mark.name ++ suffix))) text

/-- A token at a place gives way to a quoted name, and the tokens behind it move on. -/
def Token.moved (place more : Nat) (token : Token) : Token :=
  if token.start < place then token else token.shift more

/-- The tokens of a text answered by those of the text with a quoted name at one place. -/
def Echo.rename (place more : Nat) (name : String) : Echo where
  kept token answer := answer = token.moved place more
  marked token answer :=
    answer = if token.start = place then .quoted name place else token.moved place more
  semicolonEnds := False
  kind_of_kept := by
    rintro token _ rfl
    unfold Token.moved
    split <;> rfl
  text_of_kept := by
    rintro token _ rfl -
    unfold Token.moved
    split <;> rfl
  kind_of_marked := by
    rintro token _ rfl -
    split
    · exact .inr rfl
    · unfold Token.moved
      split <;> exact .inl rfl

namespace Reading

variable {echo : Echo} {strict : Bool} {grammar : Grammar} {dialect : Dialect} {text : String}
  {cursor after : Cursor} {family : Family} {outline : Outline}

/-- Where the end is answered by the end, a semicolon is kept like any other symbol. -/
theorem keeps_skipIf_semicolon (endStays : ¬echo.semicolonEnds) :
    Keeps echo strict (skipIf [.symbol .semicolon]) := by
  refine keeps_skipIf_of_ahead (by simp) fun token answer ahead notOn => ?_
  cases ahead with
  | same kind => rwa [kind]
  | renamed _ _ isIdentifier => simp [isIdentifier]
  | ended allowed _ _ => exact absurd allowed endStays

/-- Reads the outline of a statement and the semicolon that may end it. -/
def outlineToEnd (grammar : Grammar) (family : Family) : Reading Outline := do
  let outline ← family.outline grammar
  discard <| skipIf [.symbol .semicolon]
  return outline

/-- An outline and the semicolon behind it retrace, where the end is answered by the end. -/
theorem retraces_outlineToEnd (endStays : ¬echo.semicolonEnds) :
    Retraces echo true false fun _ : Unit => outlineToEnd grammar family := by
  have rest : Retraces echo true true fun outline : Outline => (do
      discard <| skipIf [.symbol .semicolon]
      return outline) :=
    .after (keeps_skipIf_semicolon endStays).discard fun _ =>
      .value (fun _ => rfl) fun _ _ alike => alike
  exact (retraces_outline (fun _ => endStays) family).comp rest (by simp) (by simp)

end Reading

/-- The text begins with a statement of the family that has the outline. -/
def Outline.IsReadFrom (dialect : Dialect) (family : Family) (text : String) (outline : Outline) :
    Prop :=
  ∃ cursor after : Cursor, cursor.Begins dialect text ∧
    cursor.current.kind = .reserved family.keyword ∧
      Reading.outlineToEnd dialect.grammar family cursor = .ok outline after

/-- A text is parsed exactly if it begins with a statement, whose outline is read from it. -/
theorem Reading.parse_ok_iff_isReadFrom {dialect : Dialect} {rule : ShardingRule} {text : String}
    {statement : Statement} :
    parse dialect rule text = .ok statement ↔
      ∃ (family : Family) (outline : Outline), outline.IsReadFrom dialect family text ∧
        statement = outline.statement rule family := by
  simp only [parse_ok_iff_outline, Outline.IsReadFrom, outlineToEnd, bind_ok_iff, pure_ok_iff]
  constructor
  · rintro ⟨cursor, middle, after, family, outline, begins, onKeyword, read, ended, rfl⟩
    exact ⟨family, outline, ⟨cursor, after, begins, onKeyword, outline, middle, read, _, after, ended,
      rfl, rfl⟩, rfl⟩
  · rintro ⟨family, outline, ⟨cursor, after, begins, onKeyword, _, middle, read, _, _, ended, rfl,
      rfl⟩, rfl⟩
    exact ⟨cursor, middle, after, family, outline, begins, onKeyword, read, ended, rfl⟩

namespace Echo

variable {place more : Nat} {name : String}

/-- The steps before the place answer themselves, the one at the place is answered by the quoted
name, and those behind it move on. -/
theorem answers_rename (more : Nat) (name : String) {left right : Trail} {token : Token}
    (before : ∀ passed ∈ left.tokens, passed.start < token.start)
    (behind : ∀ passed ∈ right.tokens, token.start < passed.start) :
    List.Forall₂ (rename token.start more name).Answers (left ++ (token, true) :: right)
      (left.tokens ++ .quoted name token.start :: right.tokens.map (Token.shift more)) := by
  have isBefore : ∀ step ∈ left, (rename token.start more name).Answers step step.1 := by
    intro step isIn
    have earlier := before step.1 (List.mem_map_of_mem isIn)
    unfold Answers
    split
    · simp [rename, Token.moved, earlier, Nat.ne_of_lt earlier]
    · simp [rename, Token.moved, earlier]
  have isBehind : ∀ step ∈ right, (rename token.start more name).Answers step (step.1.shift more) := by
    intro step isIn
    have later := behind step.1 (List.mem_map_of_mem isIn)
    unfold Answers
    split
    · simp [rename, Token.moved, Nat.not_lt_of_gt later, Nat.ne_of_gt later]
    · simp [rename, Token.moved, Nat.not_lt_of_gt later]
  refine List.rel_append ?_ (.cons ?_ ?_)
  · rw [Trail.tokens, List.forall₂_map_right_iff, List.forall₂_same]
    exact isBefore
  · simp [Answers, rename]
  · rw [Trail.tokens, List.map_map, List.forall₂_map_right_iff, List.forall₂_same]
    exact isBehind

/-- A mark before the place that is written anew stays as it is. -/
theorem mark_eq_of_before {mark mark' : TableMark} (before : mark.position < place)
    (alike : (rename place more name).MarksAlike mark mark') : mark' = mark := by
  obtain ⟨token, _, rfl, rfl, rfl⟩ := alike
  have earlier : token.start < place := before
  rw [if_neg (Nat.ne_of_lt earlier), Token.moved, if_pos earlier]

/-- The mark at the place is that of the quoted name. -/
theorem mark_eq_of_at {mark mark' : TableMark} (atPlace : mark.position = place)
    (alike : (rename place more name).MarksAlike mark mark') : mark' = ⟨place, quoteName name⟩ := by
  obtain ⟨token, _, rfl, rfl, rfl⟩ := alike
  have here : token.start = place := atPlace
  rw [if_pos here]
  rfl

/-- A mark behind the place keeps what is written there. -/
theorem written_eq_of_behind {mark mark' : TableMark} (behind : place < mark.position)
    (alike : (rename place more name).MarksAlike mark mark') : mark'.written = mark.written := by
  obtain ⟨token, _, rfl, rfl, rfl⟩ := alike
  have later : place < token.start := behind
  rw [if_neg (Nat.ne_of_gt later), Token.moved, if_neg (Nat.not_lt_of_gt later)]
  rfl

end Echo

/-- The references have the same written name and alias, perhaps at other places. -/
def TableReference.SameWritten (left right : TableReference) : Prop :=
  right.mark.written = left.mark.written ∧ right.alias? = left.alias?

attribute [ext] TableReference

/-- References that differ in the name at one place. -/
theorem exists_references_of_rename {front back references : List TableReference}
    {reference : TableReference} {more : Nat} {name : String}
    (before : ∀ other ∈ front, other.mark.position < reference.mark.position)
    (behind : ∀ other ∈ back, reference.mark.position < other.mark.position)
    (alike : List.Forall₂
      (Marked.ReferencesAlike (Echo.rename reference.mark.position more name).MarksAlike)
      (front ++ reference :: back) references) :
    ∃ back', references =
        front ++ ⟨⟨reference.mark.position, quoteName name⟩, reference.alias?⟩ :: back' ∧
      List.Forall₂ TableReference.SameWritten back back' := by
  obtain ⟨front', rest, rfl, frontAlike, restAlike⟩ := exists_of_forall₂_append alike
  cases restAlike with
  | @cons _ reference' _ back' isAlike backAlike =>
    have frontSame : List.Forall₂ Eq front front' := by
      refine ((List.forall₂_and_left _ _).mpr ⟨before, frontAlike⟩).imp ?_
      rintro left right ⟨isBefore, marksAlike, aliases⟩
      exact TableReference.ext (Echo.mark_eq_of_before isBefore marksAlike).symm aliases.symm
    have atPlace : reference' = ⟨⟨reference.mark.position, quoteName name⟩, reference.alias?⟩ :=
      TableReference.ext (Echo.mark_eq_of_at rfl isAlike.1) isAlike.2
    rw [List.forall₂_eq_eq_eq] at frontSame
    subst frontSame
    refine ⟨back', by rw [atPlace], ((List.forall₂_and_left _ _).mpr ⟨behind, backAlike⟩).imp ?_⟩
    rintro left right ⟨isBehind, marksAlike, aliases⟩
    exact ⟨Echo.written_eq_of_behind isBehind marksAlike, aliases⟩

namespace Reading

variable {dialect : Dialect} {family : Family} {text name : String} {outline : Outline}

/-- From its first token on, the new text has the same tokens but for the name and the places behind
it. -/
theorem exists_begins_of_replaceIn {cursor after : Cursor} {left right : List Token} {token : Token}
    {more : Nat} (begins : cursor.Begins dialect text)
    (passed : cursor.Passes (left ++ token :: right) after) (notChars : token.kind ≠ .literal .chars)
    (noQuote : '"' ∉ name.toList) (longer : (quoteName name).length = token.text.length + more) :
    ∃ cursor' after' : Cursor,
      cursor'.Begins dialect (token.mark.replaceIn (quoteName name) text) ∧
        cursor'.Passes (left ++ .quoted name token.start :: right.map (Token.shift more)) after' ∧
          after'.current = after.current.shift more := by
  have keywords := Dictionary.hasKeywords_ofDialect dialect
  obtain ⟨lexer, yields, stands⟩ := begins.exists_yields passed
  obtain ⟨middle, next, front, reads, behind⟩ := yields.split
  have middleKeywords : middle.dictionary.HasKeywords := front.dictionary_eq keywords ▸ keywords
  have nextKeywords : next.dictionary.HasKeywords :=
    reads.dictionary_eq middleKeywords ▸ middleKeywords
  have tokens : (Tape.ofText dialect (token.mark.replaceIn (quoteName name) text)).tokens =
      (left ++ .quoted name token.start :: right.map (Token.shift more)) ++
        after.current.shift more :: after.ahead.tokens.map (Token.shift more) := by
    have tape := Tape.ofText_replaceIn front reads notChars noQuote longer
    rw [Tape.ofLexer_of_yields nextKeywords behind] at tape
    rw [Token.mark, tape]
    simp [Tape.prepend, Tape.cons, Tape.shift, ← stands.tokens, Cursor.tokens]
  have notEmpty : (Tape.ofText dialect (token.mark.replaceIn (quoteName name) text)).tokens ≠ [] := by
    rw [tokens]
    simp
  obtain ⟨cursor', begins'⟩ := Cursor.exists_begins notEmpty
  obtain ⟨after', passed', current, -⟩ := Cursor.exists_passes (begins'.tokens.trans tokens)
  exact ⟨cursor', after', begins', passed', current⟩

/-- One name is written anew, and the text is read to the same outline with the new name. -/
theorem exists_outline_of_replaceIn {front back : List TableReference} {reference : TableReference}
    {more : Nat} (isRead : outline.IsReadFrom dialect family text)
    (references : outline.references = front ++ reference :: back) (noQuote : '"' ∉ name.toList)
    (longer : (quoteName name).length = reference.mark.written.length + more) :
    ∃ (outline' : Outline) (back' : List TableReference),
      outline'.IsReadFrom dialect family (reference.mark.replaceIn (quoteName name) text) ∧
        outline'.columns = outline.columns ∧
          outline'.references =
            front ++ ⟨⟨reference.mark.position, quoteName name⟩, reference.alias?⟩ :: back' ∧
              List.Forall₂ TableReference.SameWritten back back' := by
  obtain ⟨cursor, after, begins, onKeyword, read⟩ := isRead
  obtain ⟨mark, alias?⟩ := reference
  have retraces : Retraces (Echo.rename mark.position more name) true false
      fun _ : Unit => outlineToEnd dialect.grammar family :=
    retraces_outlineToEnd id
  obtain ⟨trail, passed, names, marks, -, again⟩ := retraces () _ _ _ begins.settled read
  -- The mark of the reference is a token of the trail.
  have marks : outline.references.map (·.mark) = trail.marked.map Token.mark := marks
  rw [references, List.map_append, List.map_cons] at marks
  obtain ⟨left, right, token, rfl, rfl, frontMarks, backMarks⟩ := Trail.exists_of_marks marks.symm
  have isName : token.kind.isName = true := names token (by simp [Trail.marked])
  have tokens : Trail.tokens (left ++ (token, true) :: right) =
      left.tokens ++ token :: right.tokens := by
    simp [Trail.tokens]
  have passedAround : cursor.Passes (left.tokens ++ token :: right.tokens) after := tokens ▸ passed
  obtain ⟨lexer, yields, -⟩ := begins.exists_yields passedAround
  obtain ⟨before, behind⟩ := yields.around (Dictionary.hasKeywords_ofDialect dialect)
  obtain ⟨cursor', after', begins', passed', current⟩ :=
    exists_begins_of_replaceIn begins passedAround (Kind.ne_chars_of_isName isName) noQuote longer
  have answers := Echo.answers_rename more name before behind
  have ahead : (Echo.rename token.start more name).Ahead true after.current after'.current :=
    .same (by rw [current]; rfl)
  obtain ⟨outline', ⟨alike, columns⟩, read'⟩ :=
    again () _ _ _ trivial begins'.settled answers passed' ahead
  have alike : List.Forall₂ (Marked.ReferencesAlike (Echo.rename token.start more name).MarksAlike)
      (front ++ ⟨token.mark, alias?⟩ :: back) outline'.references :=
    references ▸ alike
  have frontBefore : ∀ other ∈ front, other.mark.position < token.start := by
    have marksBefore := Trail.forall_mark (· < token.start) before
    rwa [frontMarks, List.forall_mem_map] at marksBefore
  have backBehind : ∀ other ∈ back, token.start < other.mark.position := by
    have marksBehind := Trail.forall_mark (token.start < ·) behind
    rwa [backMarks, List.forall_mem_map] at marksBehind
  obtain ⟨back', references', moved⟩ :=
    @exists_references_of_rename front back _ ⟨token.mark, alias?⟩ more name frontBefore backBehind
      alike
  refine ⟨outline', back', ⟨cursor', after', begins', ?_, read'⟩, columns, references', moved⟩
  -- The first word is no name, so it is not written anew.
  have atStart : (Echo.rename token.start more name).Ahead false cursor.current cursor'.current :=
    ahead_of_trail passed passed' names (by simp) answers ahead.loosen
  exact atStart.onReserved onKeyword

/-- A suffix that is added to references is added to those that are written in the same way. -/
theorem addsSuffix_of_sameWritten {suffix : String} {left middle right : List TableReference}
    (adds : List.Forall₂ (Tables.AddsSuffix suffix) left middle)
    (same : List.Forall₂ TableReference.SameWritten middle right) :
    List.Forall₂ (Tables.AddsSuffix suffix) left right := by
  induction adds generalizing right with
  | nil =>
    cases same
    exact .nil
  | @cons reference renamed left middle isAdded _ inductionHypothesis =>
    cases same with
    | cons isSame later =>
      refine .cons ⟨?_, isSame.2.trans isAdded.2⟩ (inductionHypothesis later)
      rw [← isAdded.1, TableMark.name, isSame.1, TableMark.name]

/-- The names from some reference on are written anew, the last one first. -/
theorem exists_outline_of_rewrite {suffix : String} (noQuote : '"' ∉ suffix.toList)
    {front back : List TableReference} (isRead : outline.IsReadFrom dialect family text)
    (references : outline.references = front ++ back)
    (noQuotes : ∀ reference ∈ back, '"' ∉ reference.mark.name.toList) :
    ∃ (outline' : Outline) (back' : List TableReference),
      outline'.IsReadFrom dialect family ((back.map (·.mark)).foldr
        (fun mark => mark.replaceIn (quoteName (mark.name ++ suffix))) text) ∧
        outline'.columns = outline.columns ∧ outline'.references = front ++ back' ∧
          List.Forall₂ (Tables.AddsSuffix suffix) back back' := by
  induction back generalizing front with
  | nil => exact ⟨outline, [], isRead, rfl, references, .nil⟩
  | cons reference back inductionHypothesis =>
    rw [List.forall_mem_cons] at noQuotes
    obtain ⟨outline₁, back₁, isRead₁, columns₁, references₁, adds⟩ :=
      @inductionHypothesis (front ++ [reference]) (by simpa using references) noQuotes.2
    have noQuoteAnew : '"' ∉ (reference.mark.name ++ suffix).toList := by
      rw [String.toList_append, List.mem_append]
      exact not_or.mpr ⟨noQuotes.1, noQuote⟩
    have longer : reference.mark.written.length ≤
        (quoteName (reference.mark.name ++ suffix)).length := by
      have unquoted : reference.mark.written.length ≤ reference.mark.name.length + 2 :=
        length_le_unquote _
      rw [length_quoteName, String.length_append]
      omega
    obtain ⟨more, length⟩ := Nat.exists_eq_add_of_le longer
    rw [List.append_assoc, List.singleton_append] at references₁
    obtain ⟨outline', back', isRead', columns', references', same⟩ :=
      exists_outline_of_replaceIn isRead₁ references₁ noQuoteAnew length
    refine ⟨outline', _, isRead', columns'.trans columns₁, references', .cons ⟨?_, rfl⟩ ?_⟩
    · exact unquote_quoteName _
    · exact addsSuffix_of_sameWritten adds same

/-- A statement whose names are written anew is parsed to the same statement about tables with the
suffix. -/
theorem parse_rewrite {statement : Statement} {suffix : String}
    (parsed : parse dialect .empty text = .ok statement)
    (noQuotes : ∀ mark ∈ statement.marks, '"' ∉ mark.name.toList) (noQuote : '"' ∉ suffix.toList) :
    ∃ renamed, parse dialect .empty (statement.rewrite suffix text) = .ok renamed ∧
      renamed.family = statement.family ∧ renamed.insertColumns = statement.insertColumns ∧
        renamed.marks.map (·.name) = statement.marks.map (·.name ++ suffix) ∧
          renamed.tables.entries = statement.tables.entries.map (·.withSuffix suffix) := by
  obtain ⟨family, outline, isRead, rfl⟩ := parse_ok_iff_isReadFrom.mp parsed
  have noQuotes : ∀ reference ∈ outline.references, '"' ∉ reference.mark.name.toList :=
    fun reference isIn => noQuotes _ (List.mem_map_of_mem isIn)
  obtain ⟨outline', _, isRead', columns, rfl, adds⟩ :=
    @exists_outline_of_rewrite _ _ _ _ _ noQuote [] _ isRead rfl noQuotes
  refine ⟨outline'.statement .empty family, parse_ok_iff_isReadFrom.mpr ⟨_, _, isRead', rfl⟩, rfl,
    columns, ?_, Tables.entries_ofReferences_of_addsSuffix adds⟩
  simp only [Outline.statement, Statement.ofReferences, List.map_map]
  exact Tables.names_of_addsSuffix adds

/-- Two names, of which one is quoted, get a suffix. -/
theorem parse_rewrite_join :
    parse .mySQL .empty "SELECT k FROM t o JOIN s.`u` USING(k)" =
        .ok ⟨.select, ⟨[⟨"t", ["o"]⟩, ⟨"u", []⟩]⟩, [⟨14, "t"⟩, ⟨25, "`u`"⟩], [], none⟩ ∧
      ∃ renamed, parse .mySQL .empty "SELECT k FROM \"t_0\" o JOIN s.\"u_0\" USING(k)" = .ok renamed ∧
        renamed.family = .select ∧ renamed.insertColumns = [] ∧
          renamed.marks.map (·.name) = ["t_0", "u_0"] ∧
            renamed.tables.entries = [⟨"t_0", ["o"]⟩, ⟨"u_0", []⟩] := by
  have parsed : parse .mySQL .empty "SELECT k FROM t o JOIN s.`u` USING(k)" =
      .ok ⟨.select, ⟨[⟨"t", ["o"]⟩, ⟨"u", []⟩]⟩, [⟨14, "t"⟩, ⟨25, "`u`"⟩], [], none⟩ :=
    parse_of_toOption (by decide +kernel)
  have rewritten := @parse_rewrite _ _ _ "_0" parsed (by decide) (by decide)
  have text : Statement.rewrite
      ⟨.select, ⟨[⟨"t", ["o"]⟩, ⟨"u", []⟩]⟩, [⟨14, "t"⟩, ⟨25, "`u`"⟩], [], none⟩ "_0"
        "SELECT k FROM t o JOIN s.`u` USING(k)" =
      "SELECT k FROM \"t_0\" o JOIN s.\"u_0\" USING(k)" := by
    decide +kernel
  rw [text] at rewritten
  exact ⟨parsed, rewritten⟩

end Reading

end SqlSharding
