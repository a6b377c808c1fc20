import SqlSharding.Proofs.Lexing.Place
import SqlSharding.Proofs.Outline.Shape
import SqlSharding.Proofs.Retrace.Statements
import SqlSharding.Proofs.Tables

/-!
# Marks

The marks of a statement are tokens of its text that are names, in the order of the text, and its
tables are those that the marks name.
-/

namespace SqlSharding

/-- Every token answers itself only. -/
def Echo.same : Echo where
  kept token answer := answer = token
  marked token answer := answer = token
  semicolonEnds := False
  kind_of_kept kept := congrArg Token.kind kept
  text_of_kept kept _ := congrArg Token.text kept
  kind_of_marked marked _ := .inl (congrArg Token.kind marked)

/-- How many marks and tables a statement of a family can have. -/
def Family.Counts (marks tables : Nat) : Family → Prop
  | .select => True
  | .insert | .update | .delete | .create | .alter => marks = 1 ∧ tables = 1
  | .drop | .truncate => 1 ≤ marks ∧ 1 ≤ tables

/-- The statement agrees with the text it is read from. -/
structure Statement.Describes (dialect : Dialect) (text : String) (statement : Statement) : Prop where
  /-- Every mark is set at a token of the text that is a name. -/
  isName : ∀ mark ∈ statement.marks, ∃ token ∈ (Tape.ofText dialect text).tokens,
    token.kind.isName = true ∧ token.StandsIn text ∧ token.start = mark.position ∧
      token.stop = mark.position + mark.written.length
  /-- What a mark holds is written at its place. -/
  written : ∀ mark ∈ statement.marks,
    (text.toList.drop mark.position).take mark.written.length = mark.written.toList
  /-- A mark stands behind the name that is marked before it. -/
  ordered : statement.marks.Pairwise fun left right =>
    left.position < right.position ∧ left.position + left.written.length ≤ right.position
  /-- The tables are the distinct names of the marks. -/
  names : statement.tables.names = Text.distinctNames (statement.marks.map (·.name))
  distinct : statement.tables.names.Pairwise fun left right => Text.sameName left right = false
  /-- A table is spelled as the first mark of its name. -/
  spelling : ∀ name ∈ statement.tables.names,
    (statement.marks.map (·.name)).find? (Text.sameName name) = some name
  counts : statement.family.Counts statement.marks.length statement.tables.size
  onlyInsertions : statement.family ≠ .insert →
    statement.insertColumns = [] ∧ statement.generatedKey? = none
  /-- A rule shards the statement just if it shards a table that is marked. -/
  sharded : ∀ rule : ShardingRule,
    (statement.isSharded rule = true ↔ statement.shardedTables rule ≠ []) ∧
      (statement.isSharded rule = true ↔
        ∃ mark ∈ statement.marks, rule.isLogicTable mark.name = true)

/-- The marks of tokens that stand one behind the other in a text stand one behind the other. -/
theorem Token.pairwise_mark {text : String} {tokens : List Token}
    (standsIn : ∀ token ∈ tokens, token.StandsIn text)
    (ordered : tokens.Pairwise fun left right => left.stop ≤ right.start) :
    (tokens.map Token.mark).Pairwise fun left right =>
      left.position < right.position ∧ left.position + left.written.length ≤ right.position := by
  rw [List.pairwise_map]
  refine ordered.imp_of_mem fun {left right} isLeft _ before => ?_
  have stop := (standsIn left isLeft).stop
  have notEmpty := (standsIn left isLeft).notEmpty
  simp only [Token.mark]
  omega

namespace Outline

variable {outline : Outline} {rule : ShardingRule} {family : Family}

/-- The marks of the outline. -/
def marks (outline : Outline) : List TableMark :=
  outline.references.map (·.mark)

/-- The tables of the statement of an outline are the distinct names of its marks. -/
theorem names_statement :
    (outline.statement rule family).tables.names = Text.distinctNames (outline.marks.map (·.name)) := by
  rw [marks, List.map_map]
  exact Tables.names_ofReferences outline.references

/-- The statement of an outline has as many marks and tables as its family can have. -/
theorem counts_statement (fits : outline.Fits family) :
    family.Counts outline.marks.length (outline.statement rule family).tables.size := by
  have single : ∀ target, outline.references = [target] →
      outline.marks.length = 1 ∧ (outline.statement rule family).tables.size = 1 := by
    intro target references
    simp only [marks, statement, Statement.ofReferences, references]
    exact ⟨rfl, rfl⟩
  have several : outline.references ≠ [] →
      1 ≤ outline.marks.length ∧ 1 ≤ (outline.statement rule family).tables.size := by
    intro notEmpty
    obtain ⟨reference, isIn⟩ := List.exists_mem_of_ne_nil _ notEmpty
    have isMark : reference.mark ∈ outline.marks := List.mem_map_of_mem isIn
    obtain ⟨name, isKept, -⟩ := Text.exists_mem_distinctNames (List.mem_map_of_mem isMark)
    have names : (outline.statement rule family).tables.names = _ := names_statement
    rw [← names, Tables.names] at isKept
    obtain ⟨table, isTable, -⟩ := List.mem_map.mp isKept
    exact ⟨List.length_pos_of_mem isMark, List.length_pos_of_mem isTable⟩
  cases family with
  | select => trivial
  | insert =>
    obtain ⟨target, references⟩ := fits
    exact single target references
  | update | delete | create | alter =>
    obtain ⟨target, rfl⟩ := fits
    exact single target rfl
  | drop | truncate => exact several fits.1

/-- Only the statement of an insertion has columns and a generated key. -/
theorem onlyInsertions_statement (fits : outline.Fits family) (notInsert : family ≠ .insert) :
    (outline.statement rule family).insertColumns = [] ∧
      (outline.statement rule family).generatedKey? = none := by
  refine ⟨?_, if_neg notInsert⟩
  cases family with
  | select => exact fits
  | insert => exact absurd rfl notInsert
  | update | delete | create | alter =>
    obtain ⟨target, rfl⟩ := fits
    rfl
  | drop | truncate => exact fits.2

end Outline

namespace Statement

variable {statement : Statement}

/-- A statement is sharded exactly if some of its tables are. -/
theorem isSharded_iff_shardedTables (rule : ShardingRule) :
    statement.isSharded rule = true ↔ statement.shardedTables rule ≠ [] := by
  simp [isSharded, shardedTables, List.filter_eq_nil_iff]

/-- It is enough to look at one spelling of each name. -/
theorem isSharded_iff_exists_mark {rule : ShardingRule}
    (names : statement.tables.names = Text.distinctNames (statement.marks.map (·.name))) :
    statement.isSharded rule = true ↔
      ∃ mark ∈ statement.marks, rule.isLogicTable mark.name = true := by
  rw [isSharded, names, List.any_eq_true]
  constructor
  · rintro ⟨name, isKept, isLogic⟩
    obtain ⟨mark, isMark, rfl⟩ := List.mem_map.mp (Text.mem_of_mem_distinctNames isKept)
    exact ⟨mark, isMark, isLogic⟩
  · rintro ⟨mark, isMark, isLogic⟩
    obtain ⟨kept, isKept, same⟩ := Text.exists_mem_distinctNames (List.mem_map_of_mem isMark)
    exact ⟨kept, isKept, by rwa [← rule.isLogicTable_congr same]⟩

end Statement

namespace Reading

variable {dialect : Dialect} {rule : ShardingRule} {text : String} {cursor middle : Cursor}
  {family : Family} {outline : Outline} {statement : Statement}

/-- The marks of an outline are tokens that its reading passes. -/
theorem exists_marked_of_outline (begins : cursor.Begins dialect text)
    (read : family.outline dialect.grammar cursor = .ok outline middle) :
    ∃ (taken : List Token) (after : Lexer) (marked : List Token),
      cursor.Passes taken middle ∧ (Lexer.ofDialect dialect text).Yields taken after ∧
        List.Sublist marked taken ∧ (∀ token ∈ marked, token.kind.isName = true) ∧
          outline.marks = marked.map Token.mark := by
  have ends : EndsFor Echo.same dialect.grammar := fun _ => id
  obtain ⟨trail, passed, names, marks, -, -⟩ :=
    retraces_outline ends family () _ _ _ begins.settled read
  obtain ⟨after, yields, -⟩ := begins.exists_yields passed
  exact ⟨trail.tokens, after, trail.marked, passed, yields, trail.marked_sublist, names, marks⟩

/-- The statement that a text is parsed to agrees with it. -/
theorem describes_of_parse (parsed : parse dialect rule text = .ok statement) :
    statement.Describes dialect text := by
  obtain ⟨cursor, middle, -, family, outline, begins, -, read, -, rfl⟩ :=
    parse_ok_iff_outline.mp parsed
  obtain ⟨taken, after, marked, passed, yields, isSublist, areNames, marks⟩ :=
    exists_marked_of_outline begins read
  have fits := (ensures_outline dialect.grammar family _ _ _ read).1
  have names : (outline.statement rule family).tables.names =
      Text.distinctNames (outline.marks.map (·.name)) :=
    Outline.names_statement
  have standsIn : ∀ token ∈ marked, token.StandsIn text := by
    intro token isMarked
    exact yields.standsIn (isSublist.subset isMarked) (Kind.ne_chars_of_isName (areNames token isMarked))
  have isToken : ∀ token ∈ marked, token ∈ (Tape.ofText dialect text).tokens := by
    intro token isMarked
    rw [← begins.tokens, passed.tokens]
    exact List.mem_append_left _ (isSublist.subset isMarked)
  have inOrder := (yields.ordered (Dictionary.hasKeywords_ofDialect dialect)).2.sublist isSublist
  have marks : (outline.statement rule family).marks = marked.map Token.mark := marks
  exact {
    isName := by
      rw [marks, List.forall_mem_map]
      intro token isMarked
      exact ⟨token, isToken token isMarked, areNames token isMarked, standsIn token isMarked, rfl,
        (standsIn token isMarked).stop⟩
    written := by
      rw [marks, List.forall_mem_map]
      exact fun token isMarked => (standsIn token isMarked).written
    ordered := by
      rw [marks]
      exact Token.pairwise_mark standsIn inOrder
    names := names
    distinct := by
      rw [names]
      exact Text.pairwise_distinctNames _
    spelling := by
      rw [names]
      exact fun name isKept => Text.find?_of_mem_distinctNames isKept
    counts := by
      have length : (outline.statement rule family).marks.length = outline.marks.length := rfl
      rw [length]
      exact Outline.counts_statement fits
    onlyInsertions := Outline.onlyInsertions_statement fits
    sharded := fun other =>
      ⟨Statement.isSharded_iff_shardedTables other, Statement.isSharded_iff_exists_mark names⟩ }

/-- Three marks of two tables, of which one is marked in two letter cases. -/
theorem describes_of_parse_join :
    ∃ statement, parse .mySQL .empty "SELECT * FROM t_order o, db.`T_Order` x JOIN item" =
        .ok statement ∧
      statement.Describes .mySQL "SELECT * FROM t_order o, db.`T_Order` x JOIN item" ∧
        statement.marks = [⟨14, "t_order"⟩, ⟨28, "`T_Order`"⟩, ⟨45, "item"⟩] ∧
          statement.tables.names = ["t_order", "item"] := by
  have parsed : parse .mySQL .empty "SELECT * FROM t_order o, db.`T_Order` x JOIN item" =
      .ok ⟨.select, ⟨[⟨"t_order", ["o", "x"]⟩, ⟨"item", []⟩]⟩,
        [⟨14, "t_order"⟩, ⟨28, "`T_Order`"⟩, ⟨45, "item"⟩], [], none⟩ :=
    parse_of_toOption (by decide +kernel)
  exact ⟨_, parsed, describes_of_parse parsed, rfl, rfl⟩

end Reading

end SqlSharding
