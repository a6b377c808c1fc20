import SqlSharding.Proofs.Composition

/-!
# Parts of statements

Behind its opening, a statement is put together from parts: from steps, from
the tokens that are demanded around columns and behind a table, and from the skipping up to the end of the
statement. No part passes a semicolon, and none demands the first word of a statement.
-/

namespace SqlSharding

open Reading

namespace Reading

variable {α : Type}

/-- Readings that a statement is put together from behind its opening. -/
inductive Part : ∀ α : Type, Reading α → Prop
  | step {α : Type} {reading : Reading α} (isStep : Step False α reading) : Part α reading
  | accept {expected : Kind} (noEnd : expected ≠ .symbol .semicolon)
      (leadsNone : expected ∉ leadingKinds) : Part Token (accept expected)
  | untilSemicolon : Part (Turn Unit) (untilTurn [.symbol .semicolon] ())

/-- Put together from parts. -/
abbrev Parts {α : Type} (reading : Reading α) : Prop := Composed Part reading

/-- What is read in steps is put together from parts. -/
theorem parts_of_steps {reading : Reading α} (steps : Steps False reading) : Parts reading :=
  steps.trans fun isStep => .basic (.step isStep)

/-- A token may be demanded that is neither a semicolon nor the first word of a statement. -/
theorem parts_accept {expected : Kind} (noEnd : expected ≠ .symbol .semicolon)
    (leadsNone : expected ∉ leadingKinds) : Parts (discard <| accept expected) :=
  .discard (.basic (.accept noEnd leadsNone))

/-- Skipping up to a semicolon is put together from parts, one for each token. -/
theorem parts_skipUntil : Parts (skipUntil [.symbol .semicolon]) := by
  rw [skipUntil_eq]
  exact .repeatTurns (fun _ => .basic .untilSemicolon) ()

/-- A list behind its first item, with commas between the items. -/
theorem parts_itemsAfter {item : Reading α} (parts : Parts item) (first : List α) :
    Parts (repeatTurns (itemAfter (.symbol .comma) item) first) :=
  .repeatTurns (.turnAfter (parts_of_steps (steps_skipIf (by decide))) fun _ =>
    .bind parts fun _ => .pure _) first

/-- The name of a column is put together from parts. -/
theorem parts_columnName : Parts columnName :=
  parts_of_steps steps_columnName

/-- An assignment of an insertion is put together from parts. -/
theorem parts_assignment : Parts assignment :=
  .bind parts_columnName fun _ => .bind (parts_accept (by decide) (by decide)) fun _ =>
    .bind (parts_of_steps (steps_skipItems (by decide))) fun _ => .pure _

/-- The columns of an insertion are put together from parts, in parentheses or behind `SET`. -/
theorem parts_insertColumns (grammar : Grammar) : Parts (insertColumns grammar) := by
  have list : Parts columnList := by
    rw [columnList_eq]
    exact .bind (parts_accept (by decide) (by decide)) fun _ => .bind parts_columnName fun _ =>
      .bind (parts_itemsAfter parts_columnName _) fun _ =>
        .bind (parts_accept (by decide) (by decide)) fun _ => .pure _
  have assigned : Parts assignedColumns := by
    rw [assignedColumns_eq]
    exact .bind parts_assignment fun _ => parts_itemsAfter parts_assignment _
  exact .bind (parts_of_steps (steps_isOn _)) fun _ => .ite list
    (.ite (.bind (parts_of_steps (steps_skipIf (by decide))) fun _ => .ite assigned (.pure _))
      (.pure _))

/-- The skipping of items that stops at a semicolon is put together from parts. -/
theorem parts_skipItems {stops : (afterDot : Bool) → Kind → Bool}
    (atEnd : ∀ afterDot, stops afterDot (.symbol .semicolon) = true) : Parts (skipItems stops) :=
  parts_of_steps (steps_skipItems atEnd)

/-- Refusing a token is a part. -/
theorem parts_refuse (kinds : List Kind) : Parts (refuse kinds) :=
  parts_of_steps (.basic (.refuse kinds))

/-- A table without an alias is put together from parts. -/
theorem parts_plainTable : Parts plainTable :=
  parts_of_steps steps_plainTable

/-- The clauses of a query are put together from parts. -/
theorem parts_queryClauses (references : List TableReference) : Parts (queryClauses references) :=
  .bind (parts_skipItems (by decide)) fun _ => .bind (parts_refuse setOperators) fun _ => .pure _

/-- A query behind its opening is put together from parts. -/
theorem parts_queryBody (grammar : Grammar) : Parts (queryBody grammar) := by
  rw [queryBody_eq]
  exact .bind (parts_skipItems (by decide)) fun _ =>
    .bind (parts_of_steps (steps_skipIf (by decide))) fun _ =>
      .ite (.bind (parts_of_steps (steps_tableReferences grammar)) parts_queryClauses)
        (parts_queryClauses [])

/-- The one table of an update or a deletion is put together from parts. -/
theorem parts_oneTarget : Parts oneTarget :=
  .bind (parts_of_steps steps_aliasedTable) fun _ =>
    .bind (parts_refuse otherTableKinds) fun _ => .pure _

/-- An update behind its table is put together from parts. -/
theorem parts_updateBody (grammar : Grammar) : Parts (updateBody grammar) :=
  .bind (parts_of_steps (steps_skipTableHints grammar)) fun _ =>
    .bind (parts_accept (by decide) (by decide)) fun _ =>
      .bind (parts_skipItems (by decide)) fun _ => parts_refuse _

/-- What is left of a statement is skipped. -/
theorem parts_toEnd (outline : Outline) : Parts (do
    skipUntil [.symbol .semicolon]
    return outline) :=
  .bind parts_skipUntil fun _ => .pure outline

/-- Behind its opening a statement is put together from parts. -/
theorem parts_body (grammar : Grammar) (family : Family) : Parts (family.body grammar) := by
  cases family with
  | select => exact parts_queryBody grammar
  | insert =>
    exact .bind parts_plainTable fun target =>
      .bind (parts_insertColumns grammar) fun columns => parts_toEnd ⟨[target], columns⟩
  | update =>
    exact .bind parts_oneTarget fun _ => .bind (parts_updateBody grammar) fun _ => .pure _
  | delete => exact .bind parts_oneTarget parts_toEnd
  | create => exact .bind parts_plainTable fun table => parts_toEnd ⟨[table], []⟩
  | alter => exact .bind parts_plainTable fun table => parts_toEnd ⟨[table], []⟩
  | drop =>
    have areParts : Parts (tableList grammar.multipleDropTables plainTable) :=
      parts_of_steps (steps_tableList _ steps_plainTable)
    exact .bind areParts fun tables => parts_toEnd ⟨tables, []⟩
  | truncate =>
    have areParts := parts_of_steps
      (steps_tableList grammar.multipleTruncateTables (steps_truncatedTable grammar))
    exact .bind areParts fun tables => parts_toEnd ⟨tables, []⟩

end Reading

end SqlSharding
