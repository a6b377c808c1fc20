import SqlSharding.Proofs.Groups.Statements

/-!
# How readings are put together

Every reading is put together from a few basic ones by sequences and loops (`Composed`). The readings
up to the end of a statement are built from steps that pass one token or one group (`Step`); only the
columns of an insertion and the rest behind the tables look into groups. What a step has and sequences
and loops keep, every reading has. No step is over a semicolon, but for those over any item at all.
-/

namespace SqlSharding

/-- The words that begin the statements of the families. -/
def leadingKinds : List Kind := Family.all.map fun family => .reserved family.keyword

/-- The first word of every family is among the leading words. -/
theorem mem_leadingKinds (family : Family) : .reserved family.keyword ∈ leadingKinds := by
  cases family <;> decide

namespace Reading

variable {α β : Type} {kinds : List Kind}

/-- Put together from basic readings by sequences and loops. -/
inductive Composed (basic : ∀ α : Type, Reading α → Prop) : ∀ {α : Type}, Reading α → Prop
  | basic {α : Type} {reading : Reading α} (isBasic : basic α reading) : Composed basic reading
  | pure {α : Type} (value : α) : Composed basic (pure value)
  | bind {α β : Type} {first : Reading α} {next : α → Reading β} (starts : Composed basic first)
      (goesOn : ∀ value, Composed basic (next value)) : Composed basic (first >>= next)
  | repeatTurns {α : Type} {turn : α → Reading (Turn α)} (turns : ∀ value, Composed basic (turn value))
      (value : α) : Composed basic (repeatTurns turn value)

namespace Composed

variable {basic : ∀ α : Type, Reading α → Prop}

/-- A choice is put together from basic readings if both of its ways are. -/
theorem ite {condition : Prop} [Decidable condition] {left right : Reading α}
    (whenTrue : Composed basic left) (whenFalse : Composed basic right) :
    Composed basic (if condition then left else right) := by
  split
  · exact whenTrue
  · exact whenFalse

/-- What is put together from basic readings is so without its value, too. -/
theorem discard {reading : Reading α} (composed : Composed basic reading) :
    Composed basic (discard reading) :=
  discard_eq reading ▸ composed.bind fun _ => .pure ()

/-- What is put together from readings that are put together themselves. -/
theorem trans {basic' : ∀ α : Type, Reading α → Prop} {reading : Reading α}
    (composed : Composed basic reading)
    (each : ∀ {α : Type} {reading : Reading α}, basic α reading → Composed basic' reading) :
    Composed basic' reading := by
  induction composed with
  | basic isBasic => exact each isBasic
  | pure value => exact .pure value
  | bind _ _ starts goesOn => exact .bind starts goesOn
  | repeatTurns _ value turns => exact .repeatTurns turns value

/-- A turn that begins with a token to skip is put together as its skipping and its body are. -/
theorem turnAfter {body : α → Reading α} (skips : Composed basic (skipIf kinds))
    (bodies : ∀ value, Composed basic (body value)) (value : α) :
    Composed basic (turnAfter kinds body value) :=
  skips.bind fun _ => .ite ((bodies value).bind fun _ => .pure _) (.pure _)

end Composed

/-- None of the kinds ends a text or a statement, or opens a group. -/
def Inner (kinds : List Kind) : Prop :=
  Ordinary kinds ∧ .symbol .semicolon ∉ kinds

instance : DecidablePred Inner := fun _ => inferInstanceAs (Decidable (_ ∧ _))

/-- Readings that pass at most one token, which opens no group, or one group. The token is no semicolon,
unless any item may be passed. -/
inductive Step (anyItem : Prop) : ∀ α : Type, Reading α → Prop
  | asks {α : Type} (answer : Cursor → α) : Step anyItem α fun cursor => .ok (answer cursor) cursor
  | refuse (kinds : List Kind) : Step anyItem Unit (refuse kinds)
  | unexpected {α : Type} : Step anyItem α unexpected
  | unsupported {α : Type} (family : Family) :
      Step anyItem α fun cursor => .error (.unsupportedStatement family cursor.current.text) cursor
  | skipIf {kinds : List Kind} (inner : Inner kinds) : Step anyItem Bool (skipIf kinds)
  | accept {expected : Kind} (inner : Inner [expected]) (leadsNone : expected ∉ leadingKinds) :
      Step anyItem Token (accept expected)
  | namePart : Step anyItem Token namePart
  | skipGroup : Step anyItem String skipGroup
  | itemTurn {stops : (afterDot : Bool) → Kind → Bool} (afterDot : Bool)
      (atEnd : stops afterDot (.symbol .semicolon) = true) :
      Step anyItem (Turn Bool) (itemTurn stops afterDot)
  | skipItem (allowed : anyItem) : Step anyItem Unit skipItem

/-- Put together from steps. -/
abbrev Steps (anyItem : Prop) {α : Type} (reading : Reading α) : Prop := Composed (Step anyItem) reading

variable {anyItem : Prop}

/-- Looking at the token under the cursor is a step. -/
theorem steps_isOn (kinds : List Kind) : Steps anyItem (isOn kinds) :=
  .basic (.asks fun cursor => cursor.isOn kinds)

/-- Skipping one of some inner kinds is a step. -/
theorem steps_skipIf (inner : Inner kinds) : Steps anyItem (skipIf kinds) :=
  .basic (.skipIf inner)

/-- Demanding a token is a step, unless it is the first word of a statement. -/
theorem steps_accept {expected : Kind} (inner : Inner [expected])
    (leadsNone : expected ∉ leadingKinds) : Steps anyItem (discard <| accept expected) :=
  .discard (.basic (.accept inner leadsNone))

/-- Skipping a group is a step. -/
theorem steps_skipGroup : Steps anyItem (discard skipGroup) :=
  .discard (.basic .skipGroup)

/-- All tokens of some inner kinds are skipped in steps. -/
theorem steps_skipAll (inner : Inner kinds) : Steps anyItem (skipAll kinds) := by
  rw [skipAll_eq]
  exact .repeatTurns (.turnAfter (steps_skipIf inner) fun _ => .pure ()) ()

/-- Items are skipped in steps, if a semicolon ends the skipping. -/
theorem steps_skipItems {stops : (afterDot : Bool) → Kind → Bool}
    (atEnd : ∀ afterDot, stops afterDot (.symbol .semicolon) = true) :
    Steps anyItem (skipItems stops) := by
  rw [skipItems_eq]
  exact .discard (.repeatTurns (fun afterDot => .basic (.itemTurn afterDot (atEnd afterDot))) false)

/-- A name is read in steps, part by part. -/
theorem steps_qualifiedName : Steps anyItem qualifiedName := by
  rw [qualifiedName_eq]
  exact .bind (.basic .namePart) fun _ =>
    .repeatTurns (.turnAfter (steps_skipIf (by decide)) fun _ => .basic .namePart) _

/-- The name of a table is read in steps. -/
theorem steps_tableMark : Steps anyItem tableMark :=
  .bind steps_qualifiedName fun _ => .pure _

/-- The name of a column is read in steps. -/
theorem steps_columnName : Steps anyItem columnName :=
  .bind steps_qualifiedName fun _ => .pure _

/-- An alias is read in steps. -/
theorem steps_alias? : Steps anyItem alias? :=
  .bind (steps_skipIf (by decide)) fun _ => .ite (.bind (.basic .namePart) fun _ => .pure _)
    (.bind (steps_isOn _) fun _ => .ite (.bind (.basic .namePart) fun _ => .pure _) (.pure _))

/-- A table without an alias is read in steps. -/
theorem steps_plainTable : Steps anyItem plainTable :=
  .bind steps_tableMark fun _ => .pure _

/-- A table with an alias is read in steps. -/
theorem steps_aliasedTable : Steps anyItem aliasedTable :=
  .bind steps_tableMark fun _ => .bind steps_alias? fun _ => .pure _

/-- The row limit behind `TOP` is skipped in steps, if a step may pass any item: what stands behind the
word is passed whatever it is. -/
theorem steps_skipTop (allowed : anyItem) : Steps anyItem Grammar.skipTop := by
  rw [skipTop_eq]
  refine .bind (steps_skipIf (by decide)) fun _ => .ite ?_ (.pure _)
  refine .bind (.basic (.skipItem allowed)) fun _ => ?_
  exact .bind (.discard (steps_skipIf (by decide))) fun _ => .bind (steps_skipIf (by decide)) fun _ =>
    .ite (steps_accept (by decide) (by decide)) (.pure _)

/-- The words behind `SELECT` are skipped in steps; one grammar has `TOP` among them. -/
theorem steps_skipSelectModifiers (grammar : Grammar) (allowed : grammar = .sqlServer → anyItem) :
    Steps anyItem grammar.skipSelectModifiers := by
  cases grammar with
  | mySQL => exact steps_skipAll (by decide)
  | sqlServer => exact .bind (steps_skipAll (by decide)) fun _ => steps_skipTop (allowed rfl)
  | oracle => exact steps_skipAll (by decide)
  | postgreSQL => exact steps_skipAll (by decide)

/-- The words behind `INSERT` are skipped in steps. -/
theorem steps_skipInsertModifiers (grammar : Grammar) : Steps anyItem grammar.skipInsertModifiers := by
  cases grammar with
  | mySQL => exact steps_skipAll (by decide)
  | _ => exact .pure ()

/-- The words behind `UPDATE` are skipped in steps; one grammar has `TOP` among them. -/
theorem steps_skipUpdateModifiers (grammar : Grammar) (allowed : grammar = .sqlServer → anyItem) :
    Steps anyItem grammar.skipUpdateModifiers := by
  cases grammar with
  | mySQL => exact steps_skipAll (by decide)
  | sqlServer => exact steps_skipTop (allowed rfl)
  | oracle => exact .discard (steps_skipIf (by decide))
  | postgreSQL => exact .discard (steps_skipIf (by decide))

/-- The word `ONLY` is skipped in steps. -/
theorem steps_skipOnly (grammar : Grammar) : Steps anyItem grammar.skipOnly := by
  cases grammar with
  | postgreSQL => exact .discard (steps_skipIf (by decide))
  | _ => exact .pure ()

/-- The words behind `DELETE` are skipped in steps; one grammar has `TOP` among them. -/
theorem steps_skipDeletePrefix (grammar : Grammar) (allowed : grammar = .sqlServer → anyItem) :
    Steps anyItem grammar.skipDeletePrefix := by
  cases grammar with
  | mySQL => exact .bind (steps_skipAll (by decide)) fun _ => steps_accept (by decide) (by decide)
  | oracle =>
    exact .bind (.discard (steps_skipIf (by decide))) fun _ => .discard (steps_skipIf (by decide))
  | sqlServer => exact .bind (steps_skipTop (allowed rfl)) fun _ => .discard (steps_skipIf (by decide))
  | postgreSQL =>
    exact .bind (steps_accept (by decide) (by decide)) fun _ => .discard (steps_skipIf (by decide))

/-- The words behind `CREATE` are skipped in steps. -/
theorem steps_skipCreateModifiers (grammar : Grammar) : Steps anyItem grammar.skipCreateModifiers := by
  cases grammar with
  | mySQL => exact .discard (steps_skipIf (by decide))
  | oracle =>
    exact .bind (steps_skipIf (by decide)) fun _ =>
      .ite (steps_accept (by decide) (by decide)) (.pure _)
  | sqlServer => exact .pure ()
  | postgreSQL =>
    exact .bind (.discard (steps_skipIf (by decide))) fun _ => .discard (steps_skipIf (by decide))

/-- The words behind `DROP` are skipped in steps. -/
theorem steps_skipDropModifiers (grammar : Grammar) : Steps anyItem grammar.skipDropModifiers := by
  cases grammar with
  | mySQL => exact .discard (steps_skipIf (by decide))
  | _ => exact .pure ()

/-- An index hint is skipped in steps. -/
theorem steps_indexHint : Steps anyItem indexHint :=
  .bind (.discard (steps_skipIf (by decide))) fun _ => .bind (steps_skipIf (by decide)) fun _ =>
    .ite (.bind (steps_skipAll (by decide)) fun _ => steps_skipGroup) steps_skipGroup

/-- The hints behind a table are skipped in steps. -/
theorem steps_skipTableHints (grammar : Grammar) : Steps anyItem grammar.skipTableHints := by
  cases grammar with
  | mySQL =>
    rw [Grammar.skipTableHints, skipIndexHints_eq]
    exact .repeatTurns (.turnAfter (steps_skipIf (by decide)) fun _ => steps_indexHint) ()
  | sqlServer => exact .bind (steps_skipIf (by decide)) fun _ => .ite steps_skipGroup (.pure _)
  | oracle => exact .pure ()
  | postgreSQL => exact .pure ()

/-- The word `TABLE` is demanded in steps. -/
theorem steps_expectTable (family : Family) : Steps anyItem (expectTable family) := by
  have expectTable_eq : expectTable family = (do
      if ← skipIf [.reserved .TABLE] then
        return ()
      else
        fun cursor => .error (.unsupportedStatement family cursor.current.text) cursor) := rfl
  rw [expectTable_eq]
  exact .bind (steps_skipIf (by decide)) fun _ => .ite (.pure _) (.basic (.unsupported family))

/-- The guard `IF EXISTS` is skipped in steps. -/
theorem steps_skipIfExists (grammar : Grammar) : Steps anyItem (skipIfExists grammar) :=
  .ite (.bind (steps_skipIf (by decide)) fun _ =>
    .ite (steps_accept (by decide) (by decide)) (.pure _)) (.pure _)

/-- The guard `IF NOT EXISTS` is skipped in steps. -/
theorem steps_skipIfNotExists (grammar : Grammar) : Steps anyItem (skipIfNotExists grammar) :=
  .ite (.bind (steps_skipIf (by decide)) fun _ => .ite (.bind (steps_accept (by decide) (by decide))
    fun _ => steps_accept (by decide) (by decide)) (.pure _)) (.pure _)

/-- The word `INTO` is passed in steps, whether or not it is needed. -/
theorem steps_skipInto (grammar : Grammar) : Steps anyItem (skipInto grammar) :=
  .ite (.discard (steps_skipIf (by decide))) (steps_accept (by decide) (by decide))

/-- The word `TABLE` of an emptying is passed in steps, whether or not it is needed. -/
theorem steps_skipTable (grammar : Grammar) : Steps anyItem (skipTable grammar) :=
  .ite (steps_accept (by decide) (by decide)) (.discard (steps_skipIf (by decide)))

/-- The words of a join are skipped in steps. -/
theorem steps_skipJoinType : Steps anyItem skipJoinType :=
  .bind (steps_isOn _) fun _ => .ite (.bind (steps_skipAll (by decide)) fun _ =>
    .bind (steps_skipIf (by decide)) fun _ => .ite (.pure _) (.basic .unexpected)) (.pure _)

/-- The condition of a join is skipped in steps. -/
theorem steps_skipJoinCondition : Steps anyItem skipJoinCondition :=
  .bind (steps_skipIf (by decide)) fun _ => .ite steps_skipGroup
    (.bind (steps_skipIf (by decide)) fun _ => .ite (steps_skipItems (by decide)) (.pure _))

/-- A table of a query is read in steps. -/
theorem steps_tableFactor (grammar : Grammar) : Steps anyItem (tableFactor grammar) :=
  .bind (steps_isOn _) fun _ => .ite
    (.bind steps_skipGroup fun _ => .bind (.discard steps_alias?) fun _ => .pure _)
    (.bind (steps_skipIf (by decide)) fun _ => .ite (.pure _) (.bind steps_aliasedTable fun _ =>
      .bind (steps_skipTableHints grammar) fun _ => .pure _))

/-- What joins a further table of a query is read in steps. -/
theorem steps_referencesTurn (grammar : Grammar) (references : List TableReference) :
    Steps anyItem (referencesTurn grammar references) :=
  .bind (steps_skipIf (by decide)) fun _ => .ite (.bind (steps_tableFactor grammar) fun _ => .pure _)
    (.bind steps_skipJoinType fun _ => .ite (.bind (steps_tableFactor grammar) fun _ =>
      .bind steps_skipJoinCondition fun _ => .pure _) (.pure _))

/-- The tables of a query are read in steps. -/
theorem steps_tableReferences (grammar : Grammar) : Steps anyItem (tableReferences grammar) :=
  .bind (steps_tableFactor grammar) fun _ => .repeatTurns (steps_referencesTurn grammar) _

/-- A comma and the table behind it are read in steps, if a table is. -/
theorem steps_tableListTurn (allowed : Bool) {table : Reading TableReference}
    (steps : Steps anyItem table) (references : List TableReference) :
    Steps anyItem (tableListTurn allowed table references) := by
  rw [tableListTurn_eq]
  cases allowed with
  | false =>
    rw [if_neg Bool.false_ne_true]
    exact .bind (steps_isOn _) fun _ => .ite (.basic .unexpected) (.pure _)
  | true =>
    rw [if_pos rfl]
    have skips : Steps anyItem (skipIf [.symbol .comma]) := steps_skipIf (by decide)
    exact .turnAfter skips (fun _ => .bind steps fun _ => .pure _) references

/-- A list of tables is read in steps, if a table is. -/
theorem steps_tableList (allowed : Bool) {table : Reading TableReference} (steps : Steps anyItem table) :
    Steps anyItem (tableList allowed table) :=
  .bind steps fun _ => .repeatTurns (steps_tableListTurn allowed steps) _

/-- A table that is emptied is read in steps, with `ONLY` before it or without. -/
theorem steps_truncatedTable (grammar : Grammar) :
    Steps anyItem (do
      grammar.skipOnly
      plainTable) :=
  .bind (steps_skipOnly grammar) fun _ => steps_plainTable

end Reading

open Reading

/-- Between its first word and its table, or its list, a statement is read in steps. -/
theorem Family.steps_skipWords {anyItem : Prop} (grammar : Grammar) (family : Family)
    (allowed : grammar = .sqlServer → family ∈ [select, update, delete] → anyItem) :
    Steps anyItem (family.skipWords grammar) := by
  cases family with
  | select => exact steps_skipSelectModifiers grammar fun same => allowed same (by decide)
  | insert => exact .bind (steps_skipInsertModifiers grammar) fun _ => steps_skipInto grammar
  | update => exact steps_skipUpdateModifiers grammar fun same => allowed same (by decide)
  | delete => exact steps_skipDeletePrefix grammar fun same => allowed same (by decide)
  | create =>
    exact .bind (steps_skipCreateModifiers grammar) fun _ =>
      .bind (steps_expectTable .create) fun _ => steps_skipIfNotExists grammar
  | alter =>
    exact .bind (steps_expectTable .alter) fun _ =>
      .bind (steps_skipIfExists grammar) fun _ => steps_skipOnly grammar
  | drop =>
    exact .bind (steps_skipDropModifiers grammar) fun _ =>
      .bind (steps_expectTable .drop) fun _ => steps_skipIfExists grammar
  | truncate => exact steps_skipTable grammar

end SqlSharding
