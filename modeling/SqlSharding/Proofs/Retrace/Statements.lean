import SqlSharding.Proofs.Retrace

/-!
# The tables that statements mark

Tables of a `FROM`, lists of tables, and the outline of each of the eight families, as readings that
mark tables.
-/

namespace SqlSharding

namespace Reading

open Marked

variable {echo : Echo} {strict opens : Bool}

/-- What stands in the place of a table and is none retraces. -/
theorem retraces_noTable :
    Retraces echo strict opens fun _ : Unit => (pure none : Reading (Option TableReference)) :=
  .value (fun _ => rfl) fun _ _ _ => List.Forall₂.nil

/-- A table of a query retraces. -/
theorem retraces_tableFactor (grammar : Grammar) :
    Retraces echo true false fun _ : Unit => tableFactor grammar := by
  have subQuery : Retraces echo true true fun _ : Unit => (do
      discard skipGroup
      discard Reading.alias?
      return none : Reading (Option TableReference)) :=
    .after keeps_skipGroup fun _ => .afterStrict keeps_alias?.discard fun _ => retraces_noTable
  have withHints : Retraces echo true true fun reference : TableReference => (do
      grammar.skipTableHints
      return some reference) :=
    .after (keeps_skipTableHints grammar) fun _ =>
      .value (fun _ => rfl) fun _ _ alike => List.Forall₂.cons alike .nil
  have table : Retraces echo true false fun _ : Unit => (do
      let reference ← aliasedTable
      grammar.skipTableHints
      return some reference) :=
    retraces_aliasedTable.comp withHints (by simp) (by simp)
  have onGroup : Keeps echo false (isOn [.symbol .leftParen]) :=
    keeps_isOn ⟨by decide, by decide, fun _ => by decide⟩
  refine .after onGroup fun _ => .ite subQuery.relax ?_
  have noTable : Retraces echo true true fun _ : Unit => pure none := retraces_noTable
  exact .afterSkip (by decide) noTable table

/-- Reads a table behind a join, and moves past the condition of the join. -/
def joinedFactor (grammar : Grammar) : Reading (Option TableReference) := do
  let joined ← tableFactor grammar
  skipJoinCondition
  return joined

/-- A joined table and its condition retrace. -/
theorem retraces_joinedFactor (grammar : Grammar) :
    Retraces echo true false fun _ : Unit => joinedFactor grammar := by
  have condition : Retraces echo true true fun joined : Option TableReference => (do
      skipJoinCondition
      return joined) :=
    .afterStrict keeps_skipJoinCondition fun _ => .value (fun _ => rfl) fun _ _ alike => alike
  exact (retraces_tableFactor grammar).comp condition (by simp) (by simp)

/-- A table, if there is one, is added to the references. -/
theorem retraces_addFactor {factor : Reading (Option TableReference)}
    (retraces : Retraces echo strict opens fun _ : Unit => factor) :
    Retraces echo strict opens fun references : List TableReference => (do
      let found ← factor
      return Turn.again (references ++ found.toList)) := by
  refine retraces.add (fun _ _ => List.map_append) fun _ _ _ _ alike foundAlike => .again ?_
  exact List.rel_append alike foundAlike

/-- A turn that is done retraces with the references it has. -/
theorem retraces_done :
    Retraces echo strict opens fun references : List TableReference =>
      (pure (Turn.done references) : Reading (Turn (List TableReference))) :=
  .value (fun _ => rfl) fun _ _ alike => .done alike

/-- A turn that joins a further table retraces. -/
theorem retraces_referencesTurn (grammar : Grammar) :
    Retraces echo true true (referencesTurn grammar) := by
  have joined : Retraces echo true false fun references : List TableReference => (do
      let found ← joinedFactor grammar
      return Turn.again (references ++ found.toList)) :=
    retraces_addFactor (retraces_joinedFactor grammar)
  simp only [joinedFactor, bind_assoc, pure_bind] at joined
  have onJoin : Keeps echo true (isOn (joinModifiers ++ joinKeywords)) :=
    keeps_isOn ⟨by decide, by decide, by simp⟩
  refine .afterSkip (by decide) (retraces_addFactor (retraces_tableFactor grammar)) ?_
  simp only [skipJoinType, bind_assoc, pure_bind, ite_bind]
  refine .afterStrict onJoin fun _ => .ite ?_ retraces_done
  refine .after (keeps_skipAll (by decide)) fun _ => ?_
  exact .afterSkip (by decide) joined .unexpected

/-- The tables of a query retrace. -/
theorem retraces_tableReferences (grammar : Grammar) :
    Retraces echo true false fun _ : Unit => tableReferences grammar := by
  have toList : Retraces echo false true fun first : Option TableReference =>
      (pure first.toList : Reading (List TableReference)) :=
    .value (fun _ => rfl) fun _ _ alike => alike
  have turns : Retraces echo true true (repeatTurns (referencesTurn grammar)) :=
    .repeatTurns (consumes_referencesTurn grammar) (retraces_referencesTurn grammar) (by simp)
  exact (retraces_tableFactor grammar).comp (toList.comp turns (by simp) (by simp)) (by simp)
    (by simp)

/-- A turn of a list of tables passes a comma first, so it does not begin with a marked token. -/
theorem retraces_tableListTurn (allowed : Bool) {table : Reading TableReference}
    (retraces : Retraces echo strict false fun _ : Unit => table) :
    Retraces echo strict true (tableListTurn allowed table) := by
  have added : Retraces echo strict false fun references : List TableReference => (do
      let longer ← (do return references ++ [← table])
      return Turn.again longer) := by
    simp only [bind_assoc, pure_bind]
    refine retraces.add (fun _ _ => List.map_append) fun _ _ _ _ alike foundAlike => .again ?_
    exact List.rel_append alike (.cons foundAlike .nil)
  have onComma : Keeps echo false (isOn [.symbol .comma]) :=
    keeps_isOn ⟨by decide, by decide, fun _ => by decide⟩
  rw [tableListTurn_eq]
  cases allowed with
  | false => exact .after onComma fun _ => .ite .unexpected retraces_done
  | true => exact .afterSkip (by decide) added retraces_done

/-- A list of tables retraces, if a table does. -/
theorem retraces_tableList (allowed : Bool) {table : Reading TableReference}
    (proceeds : Proceeds table) (retraces : Retraces echo true false fun _ : Unit => table) :
    Retraces echo true false fun _ : Unit => tableList allowed table := by
  have single : Retraces echo false true fun first : TableReference =>
      (pure [first] : Reading (List TableReference)) :=
    .value (fun _ => rfl) fun _ _ alike => List.Forall₂.cons alike .nil
  have turns : Retraces echo true true (repeatTurns (tableListTurn allowed table)) :=
    .repeatTurns (consumes_tableListTurn proceeds) (retraces_tableListTurn allowed retraces)
      (by simp)
  exact retraces.comp (single.comp turns (by simp) (by simp)) (by simp) (by simp)

variable {grammar : Grammar}

/-- The outline of a statement about one table, with words behind it that are skipped. -/
theorem retraces_single {table : Reading TableReference} {rest : Reading (List String)}
    (retraces : Retraces echo true false fun _ : Unit => table) (keeps : Keeps echo true rest) :
    Retraces echo true false fun _ : Unit => (do
      let target ← table
      let columns ← rest
      return Outline.mk [target] columns) := by
  have outline : Retraces echo true true fun target : TableReference => (do
      let columns ← rest
      return Outline.mk [target] columns) :=
    .afterStrict keeps fun _ =>
      .value (fun _ => rfl) fun _ _ alike => ⟨List.Forall₂.cons alike .nil, rfl⟩
  exact retraces.comp outline (by simp) (by simp)

/-- The outline of a statement about tables, with words behind them that are skipped. -/
theorem retraces_several {tables : Reading (List TableReference)} {rest : Reading Unit}
    (retraces : Retraces echo true false fun _ : Unit => tables) (keeps : Keeps echo true rest) :
    Retraces echo true false fun _ : Unit => (do
      let references ← tables
      rest
      return Outline.mk references []) := by
  have outline : Retraces echo true true fun references : List TableReference => (do
      rest
      return Outline.mk references []) :=
    .afterStrict keeps fun _ => .value (fun _ => rfl) fun _ _ alike => ⟨alike, rfl⟩
  exact retraces.comp outline (by simp) (by simp)

/-- The outline of a query retraces. -/
theorem retraces_selectOutline (ends : EndsFor echo grammar) :
    Retraces echo true false fun _ : Unit => selectOutline grammar := by
  have clauses : Keeps echo true (do
      skipItemsUntil (.symbol .semicolon :: setOperators)
      refuse setOperators) :=
    .bind (keeps_skipItemsUntil (by decide) (by decide)) fun _ => keeps_refuse (by decide)
  have noTables : Retraces echo true false fun _ : Unit =>
      (pure [] : Reading (List TableReference)) :=
    .value (fun _ => rfl) fun _ _ _ => List.Forall₂.nil
  have withTables := retraces_several (retraces_tableReferences grammar) clauses
  have without := retraces_several noTables clauses
  simp only [bind_assoc, pure_bind] at withTables without
  refine .after (keeps_accept (by simp)) fun _ => .after (keeps_skipSelectModifiers ends) fun _ => ?_
  refine .after keeps_skipSelectList fun _ => .after (keeps_skipIf (by decide)) fun _ => ?_
  simp only [pure_bind]
  exact .ite withTables without

/-- The outline of an insertion retraces. -/
theorem retraces_insertOutline :
    Retraces echo true false fun _ : Unit => insertOutline grammar := by
  have skipInto : Keeps echo false (skipInto grammar) :=
    .ite (.discard (keeps_skipIf (by decide))) (keeps_accept (by simp))
  have rest : Keeps echo true (do
      let columns ← insertColumns grammar
      skipUntil [.symbol .semicolon]
      return columns) :=
    .bind (keeps_insertColumns grammar) fun _ => .bind keeps_skipUntil_semicolon fun _ => .pure _
  have outline := retraces_single retraces_plainTable rest
  simp only [bind_assoc, pure_bind] at outline
  exact .after (keeps_accept (by simp)) fun _ => .after (keeps_skipInsertModifiers grammar) fun _ =>
    .after skipInto fun _ => outline

/-- The outline of an update retraces. -/
theorem retraces_updateOutline (ends : EndsFor echo grammar) :
    Retraces echo true false fun _ : Unit => updateOutline grammar := by
  have rest : Keeps echo true (do
      refuseOtherTables
      grammar.skipTableHints
      discard <| accept (.reserved .SET)
      skipItemsUntil [.reserved .FROM, .symbol .semicolon]
      refuse [.reserved .FROM]
      return ([] : List String)) :=
    .bind keeps_refuseOtherTables fun _ => .bind (keeps_skipTableHints grammar) fun _ =>
      .bind (keeps_accept (by simp)) fun _ => .bind (keeps_skipItemsUntil (by decide) (by decide))
        fun _ => .bind (keeps_refuse (by decide)) fun _ => .pure _
  have outline := retraces_single retraces_aliasedTable rest
  simp only [bind_assoc, pure_bind] at outline
  exact .after (keeps_accept (by simp)) fun _ => .after (keeps_skipUpdateModifiers ends) fun _ =>
    outline

/-- The outline of a deletion retraces. -/
theorem retraces_deleteOutline (ends : EndsFor echo grammar) :
    Retraces echo true false fun _ : Unit => deleteOutline grammar := by
  have rest : Keeps echo true (do
      refuseOtherTables
      skipUntil [.symbol .semicolon]
      return ([] : List String)) :=
    .bind keeps_refuseOtherTables fun _ => .bind keeps_skipUntil_semicolon fun _ => .pure _
  have outline := retraces_single retraces_aliasedTable rest
  simp only [bind_assoc, pure_bind] at outline
  exact .after (keeps_accept (by simp)) fun _ => .after (keeps_skipDeletePrefix ends) fun _ =>
    outline

/-- The outline of a statement that defines a table. -/
theorem retraces_definition :
    Retraces echo true false fun _ : Unit => (do
      let table ← plainTable
      skipUntil [.symbol .semicolon]
      return Outline.mk [table] []) := by
  have rest : Keeps echo true (do
      skipUntil [.symbol .semicolon]
      return ([] : List String)) :=
    .bind keeps_skipUntil_semicolon fun _ => .pure _
  have outline := retraces_single retraces_plainTable rest
  simpa only [bind_assoc, pure_bind] using outline

/-- The outline of a creation retraces. -/
theorem retraces_createOutline :
    Retraces echo true false fun _ : Unit => createOutline grammar :=
  .after (keeps_accept (by simp)) fun _ => .after (keeps_skipCreateModifiers grammar) fun _ =>
    .after (keeps_expectTable .create) fun _ => .after (keeps_skipIfNotExists grammar) fun _ =>
      retraces_definition

/-- The outline of an alteration retraces. -/
theorem retraces_alterOutline :
    Retraces echo true false fun _ : Unit => alterOutline grammar :=
  .after (keeps_accept (by simp)) fun _ => .after (keeps_expectTable .alter) fun _ =>
    .after (keeps_skipIfExists grammar) fun _ => .after (keeps_skipOnly grammar) fun _ =>
      retraces_definition

/-- The outline of a removal retraces. -/
theorem retraces_dropOutline :
    Retraces echo true false fun _ : Unit => dropOutline grammar := by
  have tables : Retraces echo true false fun _ : Unit =>
      tableList grammar.multipleDropTables plainTable :=
    retraces_tableList _ proceeds_plainTable retraces_plainTable
  exact .after (keeps_accept (by simp)) fun _ => .after (keeps_skipDropModifiers grammar) fun _ =>
    .after (keeps_expectTable .drop) fun _ => .after (keeps_skipIfExists grammar) fun _ =>
      retraces_several tables keeps_skipUntil_semicolon

/-- The outline of an emptying retraces. -/
theorem retraces_truncateOutline :
    Retraces echo true false fun _ : Unit => truncateOutline grammar := by
  have skipTable : Keeps echo false (skipTable grammar) :=
    .ite (keeps_accept (by simp)) (.discard (keeps_skipIf (by decide)))
  have table : Retraces echo true false fun _ : Unit => (do
      grammar.skipOnly
      plainTable) :=
    .after (keeps_skipOnly grammar) fun _ => retraces_plainTable
  exact .after (keeps_accept (by simp)) fun _ => .after skipTable fun _ =>
    retraces_several (retraces_tableList _ (proceeds_truncatedTable grammar) table)
      keeps_skipUntil_semicolon

/-- The outline of every statement retraces. -/
theorem retraces_outline (ends : EndsFor echo grammar) (family : Family) :
    Retraces echo true false fun _ : Unit => family.outline grammar := by
  cases family with
  | select => exact retraces_selectOutline ends
  | insert => exact retraces_insertOutline
  | update => exact retraces_updateOutline ends
  | delete => exact retraces_deleteOutline ends
  | create => exact retraces_createOutline
  | alter => exact retraces_alterOutline
  | drop => exact retraces_dropOutline
  | truncate => exact retraces_truncateOutline

end Reading

end SqlSharding
