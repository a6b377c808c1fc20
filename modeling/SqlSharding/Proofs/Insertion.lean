import SqlSharding.Proofs.Outline.Target
import SqlSharding.Proofs.Passage.Items

/-!
# Columns of insertions

The columns of an insertion are read from a list that stands directly behind the name of the table, and
whether the generated key is supplied is decided by this list. Without a list there every column counts
as supplied, also where an alias or another clause stands between the name and the list.
-/

namespace SqlSharding

/-- Further columns behind a column, each behind a comma. -/
inductive MoreColumns : List Token → (columns : List String) → Prop
  | nil : MoreColumns [] []
  | column {comma last : Token} {name rest : List Token} {columns : List String}
      (isComma : comma.kind = .symbol .comma) (isName : DottedName name last)
      (later : MoreColumns rest columns) :
      MoreColumns (comma :: (name ++ rest)) (unquote last.text :: columns)

/-- A list of columns between parentheses. -/
inductive ColumnGroup : List Token → (columns : List String) → Prop
  | mk {opening last closing : Token} {name rest : List Token} {columns : List String}
      (opens : opening.kind = .symbol .leftParen) (isName : DottedName name last)
      (more : MoreColumns rest columns) (closes : closing.kind = .symbol .rightParen) :
      ColumnGroup (opening :: (name ++ (rest ++ [closing]))) (unquote last.text :: columns)

/-- A column, which is known by the last part of its name. -/
inductive Column : List Token → (column : String) → Prop
  | mk {name : List Token} {last : Token} (isName : DottedName name last) :
      Column name (unquote last.text)

/-- Further columns are items of a list. -/
theorem moreColumns_iff {rest : List Token} {columns : List String} :
    MoreColumns rest columns ↔ BehindCommas Column rest columns := by
  constructor <;> intro more
  · induction more with
    | nil => exact .nil
    | column isComma isName _ inductionHypothesis => exact .item isComma (.mk isName) inductionHypothesis
  · induction more with
    | nil => exact .nil
    | item isComma isItem _ inductionHypothesis =>
      obtain ⟨isName⟩ := isItem
      exact .column isComma isName inductionHypothesis

namespace Reading

open Cursor

variable {before after : Cursor} {columns : List String}

/-- The name of a column is a dotted name, of which the last part counts without its quotation marks. -/
theorem columnName_ok_iff (settled : before.Settled) {column : String} :
    columnName before = .ok column after ↔
      ∃ name last, before.Passes name after ∧ DottedName name last ∧
        after.current.kind ≠ .symbol .dot ∧ column = unquote last.text :=
  ofName_ok_iff settled fun last => unquote last.text

/-- Every column in a list is read. -/
theorem readsEvery_columnName : ReadsEvery columnName Column (· ≠ .symbol .dot) id := by
  rintro before after tokens _ settled passed ⟨isName⟩ notDot
  exact (columnName_ok_iff settled).mpr ⟨tokens, _, passed, isName, notDot, rfl⟩

/-- Nothing but a column is read as an item of a list of columns. -/
theorem readsOnly_columnName : ReadsOnly columnName Column (· ≠ .symbol .dot) id := by
  intro before after column settled read
  obtain ⟨name, last, passed, isName, notDot, rfl⟩ := (columnName_ok_iff settled).mp read
  exact ⟨name, _, passed, .mk isName, notDot, rfl⟩

/-- A list of columns is passed whole. -/
theorem columnList_ok_iff (settled : before.Settled) :
    columnList before = .ok columns after ↔
      ∃ group, before.Passes group after ∧ ColumnGroup group columns := by
  rw [columnList_eq]
  constructor
  · intro passed
    obtain ⟨_, behindOpening, opened, passed⟩ := bind_ok_iff.mp passed
    obtain ⟨opening, opened⟩ := discard_ok_iff.mp opened
    obtain ⟨rfl, opens, toOpening⟩ := (accept_ok_iff settled (by decide)).mp opened
    obtain ⟨column, behindColumn, read, passed⟩ := bind_ok_iff.mp passed
    obtain ⟨name, last, toColumn, isName, notDot, rfl⟩ :=
      (columnName_ok_iff (toOpening.settled settled)).mp read
    have passes := toOpening.trans toColumn
    obtain ⟨_, atClosing, loop, passed⟩ := bind_ok_iff.mp passed
    obtain ⟨rest, later, toClosing, more, -, -, rfl⟩ := exists_behindCommas proceeds_columnName
      readsOnly_columnName (passes.settled settled) notDot loop
    replace more := moreColumns_iff.mpr more
    replace passes := passes.trans toClosing
    obtain ⟨_, behindClosing, closed, passed⟩ := bind_ok_iff.mp passed
    obtain ⟨rfl, rfl⟩ := pure_ok_iff.mp passed
    obtain ⟨closing, closed⟩ := discard_ok_iff.mp closed
    obtain ⟨rfl, closes, ends⟩ :=
      (accept_ok_iff (passes.settled settled) (by decide)).mp closed
    refine ⟨_, passes.trans ends, ?_⟩
    have isGroup := ColumnGroup.mk opens isName more closes
    simpa using isGroup
  · rintro ⟨_, passed, @⟨opening, last, closing, name, rest, later, opens, isName, more, closes⟩⟩
    obtain ⟨behindOpening, toOpening, onward⟩ := passed.uncons
    obtain ⟨behindColumn, toColumn, onward⟩ := onward.split
    obtain ⟨atClosing, toClosing, ends⟩ := onward.split
    have opened := accept_of_passes settled (by decide) opens toOpening
    replace settled := toOpening.settled settled
    have onClosing : atClosing.current.kind = .symbol .rightParen := by rw [ends.current_eq, closes]
    have notDot : atClosing.current.kind ≠ .symbol .dot := by simp [onClosing]
    have notComma : atClosing.current.kind ≠ .symbol .comma := by simp [onClosing]
    replace more := moreColumns_iff.mp more
    have stopped : behindColumn.current.kind ≠ .symbol .dot := by
      rw [toClosing.kindAhead]
      exact @BehindCommas.follows _ _ (· ≠ .symbol .dot) _ _ _ more nofun notDot
    have read := (columnName_ok_iff settled).mpr ⟨name, last, toColumn, isName, stopped, rfl⟩
    replace settled := toColumn.settled settled
    have loop := itemsAfter_of_passes proceeds_columnName readsEvery_columnName nofun settled more
      toClosing notDot notComma [unquote last.text]
    rw [List.map_id] at loop
    have closed := accept_of_passes (toClosing.settled settled) (by decide) closes ends
    exact bind_ok_iff.mpr ⟨_, _, discard_ok_iff.mpr ⟨_, opened⟩, bind_ok_iff.mpr ⟨_, _, read,
      bind_ok_iff.mpr ⟨_, _, loop, bind_ok_iff.mpr ⟨_, _, discard_ok_iff.mpr ⟨_, closed⟩, rfl⟩⟩⟩⟩

/-- Columns are read from a list under the cursor or, where the grammar has it, from assignments. -/
theorem insertColumns_ok {grammar : Grammar} (settled : before.Settled)
    (passed : insertColumns grammar before = .ok columns after) :
    (before.current.kind = .symbol .leftParen →
      ∃ group, before.Passes group after ∧ ColumnGroup group columns) ∧
    (before.current.kind ≠ .symbol .leftParen →
      ¬(grammar.insertSetClause = true ∧ before.current.kind = .reserved .SET) → columns = []) := by
  rw [insertColumns, isOn_bind] at passed
  constructor
  · intro isOpen
    rw [if_pos (by simp [isOn_iff, isOpen])] at passed
    exact (columnList_ok_iff settled).mp passed
  · intro notOpen noAssignments
    rw [if_neg (by simpa [isOn_iff] using notOpen)] at passed
    split at passed
    · rename_i hasAssignments
      obtain ⟨skipped, middle, skips, rest⟩ := bind_ok_iff.mp passed
      rcases (skipIf_ok_iff settled (by decide)).mp skips with ⟨-, onSet, -⟩ | ⟨rfl, -, rfl⟩
      · exact absurd ⟨hasAssignments, by simpa using onSet⟩ noAssignments
      · exact (pure_ok_iff.mp rest).1
    · exact (pure_ok_iff.mp passed).1

end Reading

/-- How the columns and the generated key of an insertion are read, where the tokens `behind` follow the
name of its table. -/
structure Statement.KeyReadFrom (grammar : Grammar) (rule : ShardingRule) (table : String)
    (behind : List Token) (statement : Statement) : Prop where
  /-- There is a generated key when the rule gives the table a generated column. -/
  generated : statement.generatedKey?.map (·.column) = rule.generatedColumn? table
  /-- A parenthesis behind the name begins a list of columns. -/
  listed : kindAhead behind .endOfText = .symbol .leftParen →
    ∃ group later, behind = group ++ later ∧ ColumnGroup group statement.insertColumns
  /-- The key is supplied when the list behind the name has its column. -/
  supplied : ∀ group next later columns, behind = group ++ next :: later →
    ColumnGroup group columns → ∀ key, statement.generatedKey? = some key →
      (key.isSupplied = true ↔ ∃ column ∈ columns, Text.sameName column key.column = true)
  /-- Without a list behind the name, and without assignments, every column counts as supplied. -/
  unlisted : kindAhead behind .endOfText ≠ .symbol .leftParen →
    ¬(grammar.insertSetClause = true ∧ kindAhead behind .endOfText = .reserved .SET) →
      ∀ key, statement.generatedKey? = some key → key.isSupplied = true

namespace Reading

open Cursor

variable {before after : Cursor} {columns : List String}

/-- The generated key is supplied exactly if the insertion names no columns, or names that one in any
letter case. -/
theorem isSupplied_of_generatedKey? {rule : ShardingRule} {table : String} {key : GeneratedKey}
    (isKey : generatedKey? rule table columns = some key) :
    key.isSupplied = true ↔
      columns = [] ∨ ∃ column ∈ columns, Text.sameName column key.column = true := by
  obtain ⟨column, -, rfl⟩ := Option.map_eq_some_iff.mp isKey
  simp

/-- The columns and the key are read from what stands under the cursor. -/
theorem keyReadFrom_of_insertColumns {grammar : Grammar} (rule : ShardingRule)
    (target : TableReference) (settled : before.Settled)
    (passed : insertColumns grammar before = .ok columns after) :
    ((Outline.mk [target] columns).statement rule .insert).KeyReadFrom grammar rule target.mark.name
      before.tokens where
  generated := by
    simp [Outline.statement, generatedKey?, Function.comp_def]
  listed isOpen := by
    obtain ⟨group, passes, isGroup⟩ := (insertColumns_ok settled passed).1 isOpen
    exact ⟨group, after.tokens, passes.tokens, isGroup⟩
  supplied group next later found tokens isGroup key isKey := by
    obtain ⟨behindGroup, passes, -, -⟩ := exists_passes tokens
    have read := (columnList_ok_iff settled).mpr ⟨group, passes, isGroup⟩
    have isOpen : before.isOn [.symbol .leftParen] = true := by
      obtain ⟨opens, -, -, -⟩ := isGroup
      simp [isOn_iff, passes.current_eq, opens]
    rw [insertColumns, isOn_bind, if_pos isOpen, read] at passed
    cases passed
    rw [isSupplied_of_generatedKey? isKey, or_iff_right]
    obtain ⟨⟩ := isGroup
    exact List.cons_ne_nil _ _
  unlisted notOpen noAssignments key isKey := by
    have noColumns := (insertColumns_ok settled passed).2 notOpen noAssignments
    exact (isSupplied_of_generatedKey? isKey).mpr (.inl noColumns)

/-- Reads an insertion behind its opening up to the rest that is not read. -/
def insertTarget (grammar : Grammar) : Reading Outline := do
  let target ← plainTable
  let columns ← insertColumns grammar
  return ⟨[target], columns⟩

/-- An insertion is its opening, its table and columns, and a rest that is skipped. -/
theorem insertOutline_eq_target (grammar : Grammar) :
    insertOutline grammar = (do
      Family.insert.opening grammar
      let outline ← insertTarget grammar
      skipUntil [.symbol .semicolon]
      return outline) := by
  simp only [Family.opening, Family.skipWords, insertTarget, bind_assoc, pure_bind]
  rfl

/-- Behind the opening of an insertion stands the name of its table, and behind the name its columns are
read. -/
theorem insertTarget_ok_iff {grammar : Grammar} (settled : before.Settled) {outline : Outline} :
    insertTarget grammar before = .ok outline after ↔
      ∃ name last atColumns columns, before.Passes name atColumns ∧ DottedName name last ∧
        atColumns.current.kind ≠ .symbol .dot ∧
        insertColumns grammar atColumns = .ok columns after ∧
        outline = ⟨[⟨last.mark, none⟩], columns⟩ := by
  rw [insertTarget, bind_ok_iff]
  simp only [plainTable_ok_iff settled, bind_ok_iff, pure_ok_iff]
  constructor
  · rintro ⟨_, atColumns, ⟨name, last, passed, isName, stopped, rfl⟩, columns, _, listed, rfl, rfl⟩
    exact ⟨name, last, atColumns, columns, passed, isName, stopped, listed, rfl⟩
  · rintro ⟨name, last, atColumns, columns, passed, isName, stopped, listed, rfl⟩
    exact ⟨_, atColumns, ⟨name, last, passed, isName, stopped, rfl⟩, columns, after, listed, rfl, rfl⟩

/-- The table of an insertion stands outside of groups, and its columns are read directly behind the
name. -/
theorem exists_target_of_insertOutline {grammar : Grammar} {tokens : List Token} {outline : Outline}
    (outside : before.StandsOutside tokens) (read : insertOutline grammar before = .ok outline after) :
    ∃ front name last atColumns behindColumns columns,
      tokens = front ++ (name ++ atColumns.tokens) ∧ DottedName name last ∧
        atColumns.current.kind ≠ .symbol .dot ∧ atColumns.Settled ∧
        insertColumns grammar atColumns = .ok columns behindColumns ∧
        outline = ⟨[⟨last.mark, none⟩], columns⟩ := by
  rw [insertOutline_eq_target, bind_ok_iff] at read
  obtain ⟨_, atName, opened, read⟩ := read
  obtain ⟨settled, front, whole, -⟩ := standsOutside_of_opening outside opened
  obtain ⟨_, behindColumns, targetRead, read⟩ := bind_ok_iff.mp read
  obtain ⟨_, _, -, read⟩ := bind_ok_iff.mp read
  obtain ⟨rfl, -⟩ := pure_ok_iff.mp read
  obtain ⟨name, last, atColumns, columns, passed, isName, stopped, listed, rfl⟩ :=
    (insertTarget_ok_iff settled).mp targetRead
  refine ⟨front, name, last, atColumns, behindColumns, columns, ?_, isName, stopped,
    passed.settled settled, listed, rfl⟩
  rw [whole, passed.tokens]

end Reading

/-- The generated key of an insertion is reported for the table that the rule gives one to, and it is
decided by the list of columns directly behind the name of the table. -/
theorem keyReadFrom_of_parse {dialect : Dialect} {rule : ShardingRule} {text : String}
    {statement : Statement} (parsed : parse dialect rule text = .ok statement)
    (isInsertion : statement.family = .insert) :
    ∃ front name last behind,
      (Tape.ofText dialect text).tokens = front ++ (name ++ behind) ∧ DottedName name last ∧
        kindAhead behind .endOfText ≠ .symbol .dot ∧ statement.marks = [last.mark] ∧
        statement.KeyReadFrom dialect.grammar rule last.mark.name behind := by
  obtain ⟨cursor, middle, -, family, outline, begins, -, read, -, rfl⟩ :=
    Reading.parse_ok_iff_outline.mp parsed
  obtain rfl : family = .insert := isInsertion
  have outside : cursor.StandsOutside (Tape.ofText dialect text).tokens :=
    ⟨begins.settled, [], begins.tokens.symm, rfl⟩
  obtain ⟨front, name, last, atColumns, behindColumns, columns, tokens, isName, stopped, settled,
    listed, rfl⟩ := Reading.exists_target_of_insertOutline outside read
  exact ⟨front, name, last, atColumns.tokens, tokens, isName, stopped, rfl,
    Reading.keyReadFrom_of_insertColumns rule ⟨last.mark, none⟩ settled listed⟩

/-- A list that has the column in another letter case, between quotation marks and behind its table. -/
theorem keyReadFrom_of_parse_quoted :
    let text := "INSERT INTO s.T_Order (user_id, o.`ORDER_ID`) VALUES (1, 2)"
    let rule : ShardingRule :=
      { tableRules := [{ logicTable := "t_order", generatedColumn? := some "order_id" }] }
    ∃ statement front name last behind,
      parse .mySQL rule text = .ok statement ∧ statement.family = .insert ∧
        statement.generatedKey? = some ⟨"order_id", true⟩ ∧
        (Tape.ofText .mySQL text).tokens = front ++ (name ++ behind) ∧ DottedName name last ∧
        statement.KeyReadFrom .mySQL rule last.mark.name behind := by
  intro text rule
  have parsed : parse .mySQL rule text =
      .ok ⟨.insert, ⟨[⟨"T_Order", []⟩]⟩, [⟨14, "T_Order"⟩], ["user_id", "ORDER_ID"],
        some ⟨"order_id", true⟩⟩ :=
    Reading.parse_of_toOption (by decide +kernel)
  obtain ⟨front, name, last, behind, tokens, isName, -, -, keyReadFrom⟩ :=
    keyReadFrom_of_parse parsed rfl
  exact ⟨_, front, name, last, behind, parsed, rfl, rfl, tokens, isName, keyReadFrom⟩

/-- A list behind an alias is not read, so that a key that it lacks counts as supplied. -/
theorem exists_key_not_supplied :
    let text := "INSERT INTO t_order AS o (user_id) VALUES (1)"
    let rule : ShardingRule :=
      { tableRules := [{ logicTable := "t_order", generatedColumn? := some "order_id" }] }
    ∃ group,
      (Tape.ofText .postgreSQL text).tokens =
        [⟨.reserved .INSERT, "INSERT", 0, 6⟩, ⟨.reserved .INTO, "INTO", 7, 11⟩,
          ⟨.literal .identifier, "t_order", 12, 19⟩, ⟨.reserved .AS, "AS", 20, 22⟩,
          ⟨.literal .identifier, "o", 23, 24⟩] ++ group ++
        [⟨.reserved .VALUES, "VALUES", 35, 41⟩, ⟨.symbol .leftParen, "(", 42, 43⟩,
          ⟨.literal .int, "1", 43, 44⟩, ⟨.symbol .rightParen, ")", 44, 45⟩, .endAt 45] ∧
      ColumnGroup group ["user_id"] ∧
      (parse .postgreSQL rule text).toOption.map (·.generatedKey?) =
        some (some ⟨"order_id", true⟩) := by
  intro text rule
  let opening : Token := ⟨.symbol .leftParen, "(", 25, 26⟩
  let name : Token := ⟨.literal .identifier, "user_id", 26, 33⟩
  let closing : Token := ⟨.symbol .rightParen, ")", 33, 34⟩
  have isName : DottedName [name] name := .mk rfl .nil
  have unquoted : unquote name.text = "user_id" := by decide +kernel
  have isGroup : ColumnGroup [opening, name, closing] [unquote name.text] :=
    @ColumnGroup.mk opening name closing [name] [] [] rfl isName .nil rfl
  rw [unquoted] at isGroup
  exact ⟨_, by decide +kernel, isGroup, by decide +kernel⟩

end SqlSharding
