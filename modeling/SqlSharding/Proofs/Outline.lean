import SqlSharding.Proofs.Opening
import SqlSharding.Proofs.Progress.Statements

/-!
# Outlines

An outline is what is read of a statement before the semicolon that may end it. Every parser reads an
outline, moves past a semicolon if there is one, and makes a statement of the outline; the rule
matters in this last step only. A statement opens with its first word and the words a grammar allows
before a table or a list, and what queries and updates read behind their openings is named here, too.
-/

namespace SqlSharding

/-- What a statement is made of. -/
structure Outline where
  references : List TableReference
  /-- The columns an insertion names. -/
  columns : List String := []
  deriving DecidableEq

/-- The statement of a family with the outline. The generated key of an insertion is that of its
table. -/
def Outline.statement (rule : ShardingRule) (family : Family) (outline : Outline) : Statement :=
  { Statement.ofReferences family outline.references with
    insertColumns := outline.columns
    generatedKey? :=
      if family = .insert then
        outline.references.head?.bind fun target =>
          Reading.generatedKey? rule target.mark.name outline.columns
      else none }

/-- The mark without its place. -/
def TableMark.withoutPlace (mark : TableMark) : TableMark :=
  { mark with position := 0 }

/-- The marks are the same but for their places. -/
def TableMark.SameName (mark mark' : TableMark) : Prop :=
  mark'.withoutPlace = mark.withoutPlace

/-- The reference without its place. -/
def TableReference.withoutPlace (reference : TableReference) : TableReference :=
  { reference with mark := reference.mark.withoutPlace }

/-- The statement without the places of its marks. -/
def Statement.withoutPlaces (statement : Statement) : Statement :=
  { statement with marks := statement.marks.map (·.withoutPlace) }

/-- The outline without the places of its references. -/
def Outline.withoutPlaces (outline : Outline) : Outline :=
  { outline with references := outline.references.map (·.withoutPlace) }

/-- Only the marks of a statement depend on places. -/
theorem Outline.statement_withoutPlaces (outline : Outline) (rule : ShardingRule) (family : Family) :
    outline.withoutPlaces.statement rule family =
      (outline.statement rule family).withoutPlaces := by
  obtain ⟨references, columns⟩ := outline
  have sameTables : Tables.ofReferences (references.map (·.withoutPlace)) =
      Tables.ofReferences references := by
    rw [Tables.ofReferences, List.foldl_map]
    rfl
  simp only [statement, withoutPlaces, Statement.withoutPlaces, Statement.ofReferences, sameTables,
    List.map_map]
  cases references <;> rfl

namespace Reading

/-- Reads the outline of a query. -/
def selectOutline (grammar : Grammar) : Reading Outline := do
  discard <| accept (.reserved .SELECT)
  grammar.skipSelectModifiers
  skipSelectList
  let references ←
    if ← skipIf [.reserved .FROM] then tableReferences grammar else pure []
  skipItemsUntil (.symbol .semicolon :: setOperators)
  refuse setOperators
  return ⟨references, []⟩

/-- Moves past `INTO`, which some grammars need. -/
def skipInto (grammar : Grammar) : Reading Unit :=
  if grammar.insertIntoOptional then
    discard <| skipIf [.reserved .INTO]
  else
    discard <| accept (.reserved .INTO)

/-- Reads the outline of an insertion. -/
def insertOutline (grammar : Grammar) : Reading Outline := do
  discard <| accept (.reserved .INSERT)
  grammar.skipInsertModifiers
  skipInto grammar
  let target ← plainTable
  let columns ← insertColumns grammar
  skipUntil [.symbol .semicolon]
  return ⟨[target], columns⟩

/-- Reads the outline of an update. -/
def updateOutline (grammar : Grammar) : Reading Outline := do
  discard <| accept (.reserved .UPDATE)
  grammar.skipUpdateModifiers
  let target ← aliasedTable
  refuseOtherTables
  grammar.skipTableHints
  discard <| accept (.reserved .SET)
  skipItemsUntil [.reserved .FROM, .symbol .semicolon]
  refuse [.reserved .FROM]
  return ⟨[target], []⟩

/-- Reads the outline of a deletion. -/
def deleteOutline (grammar : Grammar) : Reading Outline := do
  discard <| accept (.reserved .DELETE)
  grammar.skipDeletePrefix
  let target ← aliasedTable
  refuseOtherTables
  skipUntil [.symbol .semicolon]
  return ⟨[target], []⟩

/-- Reads the outline of a creation. -/
def createOutline (grammar : Grammar) : Reading Outline := do
  discard <| accept (.reserved .CREATE)
  grammar.skipCreateModifiers
  expectTable .create
  skipIfNotExists grammar
  let table ← plainTable
  skipUntil [.symbol .semicolon]
  return ⟨[table], []⟩

/-- Reads the outline of an alteration. -/
def alterOutline (grammar : Grammar) : Reading Outline := do
  discard <| accept (.reserved .ALTER)
  expectTable .alter
  skipIfExists grammar
  grammar.skipOnly
  let table ← plainTable
  skipUntil [.symbol .semicolon]
  return ⟨[table], []⟩

/-- Reads the outline of a removal. -/
def dropOutline (grammar : Grammar) : Reading Outline := do
  discard <| accept (.reserved .DROP)
  grammar.skipDropModifiers
  expectTable .drop
  skipIfExists grammar
  let tables ← tableList grammar.multipleDropTables plainTable
  skipUntil [.symbol .semicolon]
  return ⟨tables, []⟩

/-- Moves past `TABLE`, which some grammars need. -/
def skipTable (grammar : Grammar) : Reading Unit :=
  if grammar.truncateTableRequired then
    discard <| accept (.reserved .TABLE)
  else
    discard <| skipIf [.reserved .TABLE]

/-- Reads the outline of an emptying. -/
def truncateOutline (grammar : Grammar) : Reading Outline := do
  discard <| accept (.reserved .TRUNCATE)
  skipTable grammar
  let tables ← tableList grammar.multipleTruncateTables (do
    grammar.skipOnly
    plainTable)
  skipUntil [.symbol .semicolon]
  return ⟨tables, []⟩

end Reading

/-- Reads the outline of a statement of the family. -/
def Family.outline (grammar : Grammar) : Family → Reading Outline
  | select => Reading.selectOutline grammar
  | insert => Reading.insertOutline grammar
  | update => Reading.updateOutline grammar
  | delete => Reading.deleteOutline grammar
  | create => Reading.createOutline grammar
  | alter => Reading.alterOutline grammar
  | drop => Reading.dropOutline grammar
  | truncate => Reading.truncateOutline grammar

open Reading

/-- Moves past the words that a grammar allows between the first word of a statement and its table, or
the list of a query. -/
def Family.skipWords (grammar : Grammar) : Family → Reading Unit
  | select => grammar.skipSelectModifiers
  | insert => do
    grammar.skipInsertModifiers
    skipInto grammar
  | update => grammar.skipUpdateModifiers
  | delete => grammar.skipDeletePrefix
  | create => do
    grammar.skipCreateModifiers
    expectTable .create
    skipIfNotExists grammar
  | alter => do
    expectTable .alter
    skipIfExists grammar
    grammar.skipOnly
  | drop => do
    grammar.skipDropModifiers
    expectTable .drop
    skipIfExists grammar
  | truncate => skipTable grammar

/-- Moves past the words before the table of a statement, or before the list of a query. -/
def Family.opening (grammar : Grammar) (family : Family) : Reading Unit := do
  discard <| accept (.reserved family.keyword)
  family.skipWords grammar

/-- The tokens behind a table that make it one of several. -/
def otherTableKinds : List Kind :=
  [.symbol .comma, .reserved .USING] ++ joinModifiers ++ joinKeywords

namespace Reading

/-- Reads a query behind its opening. -/
def queryBody (grammar : Grammar) : Reading Outline := do
  skipSelectList
  let references ←
    if ← skipIf [.reserved .FROM] then tableReferences grammar else pure []
  skipItemsUntil (.symbol .semicolon :: setOperators)
  refuse setOperators
  return ⟨references, []⟩

/-- Reads the clauses of a query behind its tables. -/
def queryClauses (references : List TableReference) : Reading Outline := do
  skipItemsUntil (.symbol .semicolon :: setOperators)
  refuse setOperators
  return ⟨references, []⟩

/-- Behind its opening a query has a list, its tables if there is a `FROM`, and its clauses. -/
theorem queryBody_eq (grammar : Grammar) :
    queryBody grammar = (do
      skipSelectList
      if ← skipIf [.reserved .FROM] then
        tableReferences grammar >>= queryClauses
      else
        queryClauses []) := by
  simp only [queryBody, pure_bind]
  rfl

/-- The outline of a query is read by its opening and its body. -/
theorem selectOutline_eq_body (grammar : Grammar) :
    selectOutline grammar = (do
      Family.select.opening grammar
      queryBody grammar) := by
  simp only [Family.opening, bind_assoc]
  rfl

/-- Reads the one table of an update or a deletion. -/
def oneTarget : Reading Outline := do
  let target ← aliasedTable
  refuse otherTableKinds
  return ⟨[target], []⟩

/-- Reads an update behind its table. -/
def updateBody (grammar : Grammar) : Reading Unit := do
  grammar.skipTableHints
  discard <| accept (.reserved .SET)
  skipItemsUntil [.reserved .FROM, .symbol .semicolon]
  refuse [.reserved .FROM]

/-- Reads an update behind its opening. -/
def updateRest (grammar : Grammar) : Reading Outline := do
  let outline ← oneTarget
  updateBody grammar
  return outline

/-- The outline of an update is read by its opening, its one table and what is behind the table. -/
theorem updateOutline_eq_body (grammar : Grammar) :
    updateOutline grammar = (do
      Family.update.opening grammar
      let outline ← oneTarget
      updateBody grammar
      return outline) := by
  simp only [Family.opening, oneTarget, updateBody, bind_assoc, pure_bind]
  rfl

end Reading

/-- Reads a statement of the family behind its opening. -/
def Family.body (grammar : Grammar) : Family → Reading Outline
  | select => queryBody grammar
  | insert => do
    let target ← plainTable
    let columns ← insertColumns grammar
    skipUntil [.symbol .semicolon]
    return ⟨[target], columns⟩
  | update => updateRest grammar
  | delete => do
    let outline ← oneTarget
    skipUntil [.symbol .semicolon]
    return outline
  | create | alter => do
    let table ← plainTable
    skipUntil [.symbol .semicolon]
    return ⟨[table], []⟩
  | drop => do
    let tables ← tableList grammar.multipleDropTables plainTable
    skipUntil [.symbol .semicolon]
    return ⟨tables, []⟩
  | truncate => do
    let tables ← tableList grammar.multipleTruncateTables (do
      grammar.skipOnly
      plainTable)
    skipUntil [.symbol .semicolon]
    return ⟨tables, []⟩

/-- Every outline is read by an opening and what is behind it. -/
theorem Family.outline_eq_body (grammar : Grammar) (family : Family) :
    family.outline grammar = (do
      family.opening grammar
      family.body grammar) := by
  cases family with
  | select => exact selectOutline_eq_body grammar
  | update => exact updateOutline_eq_body grammar
  | delete =>
    simp only [opening, body, oneTarget, bind_assoc, pure_bind]
    rfl
  | _ =>
    simp only [opening, skipWords, bind_assoc]
    rfl

/-- Every outline begins with the first word of its statement. -/
theorem Family.outline_eq_keyword (grammar : Grammar) (family : Family) :
    family.outline grammar = (do
      discard <| accept (.reserved family.keyword)
      family.skipWords grammar
      family.body grammar) := by
  rw [outline_eq_body, opening, bind_assoc]

/-- Every parser reads an outline, and then the semicolon. -/
theorem Family.parser_eq (grammar : Grammar) (rule : ShardingRule) (family : Family) :
    family.parser grammar rule = (do
      let outline ← family.outline grammar
      discard <| skipIf [.symbol .semicolon]
      return outline.statement rule family) := by
  cases family <;>
    simp only [parser, outline, Reading.select, Reading.insert, Reading.update, Reading.delete,
      Reading.create, Reading.alter, Reading.drop, Reading.truncate, selectOutline, insertOutline,
      updateOutline, deleteOutline, createOutline, alterOutline, dropOutline, truncateOutline,
      skipSelectRest, skipUpdateRest, skipToStatementEnd, skipInto, skipTable, bind_assoc, pure_bind,
      ite_bind] <;> rfl

/-- A statement is read by reading its outline and the semicolon that may end it. -/
theorem Reading.statementOf_ok_iff_outline {dialect : Dialect} {rule : ShardingRule}
    {before after : Cursor} {statement : Statement} :
    statementOf dialect rule before = .ok statement after ↔
      ∃ (family : Family) (outline : Outline) (middle : Cursor),
        before.current.kind = .reserved family.keyword ∧
          family.outline dialect.grammar before = .ok outline middle ∧
            (discard <| skipIf [.symbol .semicolon]) middle = .ok PUnit.unit after ∧
              statement = outline.statement rule family := by
  rw [statementOf_ok_iff]
  simp only [Family.parser_eq, bind_ok_iff, pure_ok_iff]
  constructor
  · rintro ⟨family, onKeyword, outline, middle, read, _, final, ended, rfl, rfl⟩
    exact ⟨family, outline, middle, onKeyword, read, ended, rfl⟩
  · rintro ⟨family, outline, middle, onKeyword, read, ended, rfl⟩
    exact ⟨family, onKeyword, outline, middle, read, _, after, ended, rfl, rfl⟩

/-- A text is parsed by reading an outline from its first token on. -/
theorem Reading.parse_ok_iff_outline {dialect : Dialect} {rule : ShardingRule} {text : String}
    {statement : Statement} :
    parse dialect rule text = .ok statement ↔
      ∃ (cursor middle after : Cursor) (family : Family) (outline : Outline),
        cursor.Begins dialect text ∧ cursor.current.kind = .reserved family.keyword ∧
          family.outline dialect.grammar cursor = .ok outline middle ∧
            (discard <| skipIf [.symbol .semicolon]) middle = .ok PUnit.unit after ∧
              statement = outline.statement rule family := by
  simp only [parse_ok_iff, statementOf_ok_iff_outline]
  constructor
  · rintro ⟨cursor, after, begins, family, outline, middle, onKeyword, read, ended, rfl⟩
    exact ⟨cursor, middle, after, family, outline, begins, onKeyword, read, ended, rfl⟩
  · rintro ⟨cursor, middle, after, family, outline, begins, onKeyword, read, ended, rfl⟩
    exact ⟨cursor, after, begins, family, outline, middle, onKeyword, read, ended, rfl⟩

/-- A text that begins with the word of a family is parsed by reading the outline of the family. -/
theorem Reading.parse_ok_iff_of_begins {dialect : Dialect} {rule : ShardingRule} {text : String}
    {statement : Statement} {start : Cursor} {family : Family} (begins : start.Begins dialect text)
    (onKeyword : start.current.kind = .reserved family.keyword) :
    parse dialect rule text = .ok statement ↔
      ∃ outline middle after, family.outline dialect.grammar start = .ok outline middle ∧
        (discard <| skipIf [.symbol .semicolon]) middle = .ok PUnit.unit after ∧
          statement = outline.statement rule family := by
  rw [parse_ok_iff_outline]
  constructor
  · rintro ⟨cursor, middle, after, found, outline, begins', onKeyword', read, ended, rfl⟩
    obtain rfl := begins'.unique begins
    obtain rfl : found = family := by
      rw [onKeyword, Kind.reserved.injEq] at onKeyword'
      exact Family.keyword_inj onKeyword'.symm
    exact ⟨outline, middle, after, read, ended, rfl⟩
  · rintro ⟨outline, middle, after, read, ended, rfl⟩
    exact ⟨start, middle, after, family, outline, begins, onKeyword, read, ended, rfl⟩

/-- Two texts come to the same but for places if one is parsed to the same as the other whenever the
other is parsed, and the other is parsed whenever the one is. -/
theorem Reading.toOption_parse_eq {dialect : Dialect} {rule : ShardingRule} {text other : String}
    (forth : ∀ statement, parse dialect rule text = .ok statement →
      ∃ statement', parse dialect rule other = .ok statement' ∧
        statement'.withoutPlaces = statement.withoutPlaces)
    (back : ∀ statement', parse dialect rule other = .ok statement' →
      ∃ statement, parse dialect rule text = .ok statement) :
    (parse dialect rule other).toOption.map Statement.withoutPlaces =
      (parse dialect rule text).toOption.map Statement.withoutPlaces := by
  cases parsed : parse dialect rule text with
  | ok statement =>
    obtain ⟨statement', parsed', same⟩ := forth statement parsed
    rw [parsed']
    exact congrArg some same
  | error cause =>
    cases parsed' : parse dialect rule other with
    | error cause' => rfl
    | ok statement' =>
      obtain ⟨statement, parsedBack⟩ := back statement' parsed'
      rw [parsed] at parsedBack
      cases parsedBack

end SqlSharding
