import SqlSharding.Dispatch
import SqlSharding.Proofs.Echo

/-!
# What statements read of echoed tokens

All that statements read but the tables they mark, from the words before a table to the skipping of
the clauses behind it. One grammar moves past any token after a certain word, so its words are kept
only where the end of the text is answered by the end.
-/

namespace SqlSharding

namespace Reading

variable {echo : Echo} {strict : Bool}

/-- The end is answered in a way that the grammar allows. -/
def EndsFor (echo : Echo) (grammar : Grammar) : Prop :=
  grammar = .sqlServer → ¬echo.semicolonEnds

/-- The row limit behind `TOP` is kept, where the end is answered by the end. -/
theorem keeps_skipTop (endStays : ¬echo.semicolonEnds) : Keeps echo strict Grammar.skipTop := by
  have ties : Keeps echo strict (do
      discard <| skipIf [.sqlServer .PERCENT]
      if ← skipIf [.reserved .WITH] then
        discard <| accept (.sqlServer .TIES)) :=
    .bind (.discard (keeps_skipIf (by decide))) fun _ => .bind (keeps_skipIf (by decide)) fun _ =>
      .ite (keeps_accept (by simp)) (.pure _)
  refine .bind (keeps_skipIf (by decide)) fun _ => .ite ?_ (.pure _)
  refine .bind (keeps_isOn ⟨by decide, by decide, fun _ => by decide⟩) fun _ => .ite ?_ ?_
  · exact .bind keeps_skipGroup fun _ => ties
  · exact .bind (keeps_advance endStays) fun _ => ties

/-- The words behind `SELECT` are kept. -/
theorem keeps_skipSelectModifiers {grammar : Grammar} (ends : EndsFor echo grammar) :
    Keeps echo strict grammar.skipSelectModifiers := by
  cases grammar with
  | sqlServer => exact .bind (keeps_skipAll (by decide)) fun _ => keeps_skipTop (ends rfl)
  | mySQL => exact keeps_skipAll (by decide)
  | oracle => exact keeps_skipAll (by decide)
  | postgreSQL => exact keeps_skipAll (by decide)

/-- An index hint is kept. -/
theorem keeps_indexHint : Keeps echo strict indexHint :=
  .bind (.discard (keeps_skipIf (by decide))) fun _ => .bind (keeps_skipIf (by decide)) fun _ =>
    .ite (.bind (keeps_skipAll (by decide)) fun _ => keeps_skipGroup) keeps_skipGroup

/-- The hints behind a table are kept. -/
theorem keeps_skipTableHints (grammar : Grammar) : Keeps echo strict grammar.skipTableHints := by
  cases grammar with
  | mySQL =>
    rw [Grammar.skipTableHints, skipIndexHints_eq]
    exact .repeatTurns consumes_indexHints
      (keeps_turnAfter (by decide) fun _ => keeps_indexHint) ()
  | sqlServer => exact .bind (keeps_skipIf (by decide)) fun _ => .ite keeps_skipGroup (.pure _)
  | oracle => exact .pure ()
  | postgreSQL => exact .pure ()

/-- The words behind `INSERT` are kept. -/
theorem keeps_skipInsertModifiers (grammar : Grammar) :
    Keeps echo strict grammar.skipInsertModifiers := by
  cases grammar with
  | mySQL => exact keeps_skipAll (by decide)
  | oracle => exact .pure ()
  | sqlServer => exact .pure ()
  | postgreSQL => exact .pure ()

/-- The words behind `UPDATE` are kept. -/
theorem keeps_skipUpdateModifiers {grammar : Grammar} (ends : EndsFor echo grammar) :
    Keeps echo strict grammar.skipUpdateModifiers := by
  cases grammar with
  | mySQL => exact keeps_skipAll (by decide)
  | oracle => exact .discard (keeps_skipIf (by decide))
  | sqlServer => exact keeps_skipTop (ends rfl)
  | postgreSQL => exact .discard (keeps_skipIf (by decide))

/-- The words behind `DELETE` are kept. -/
theorem keeps_skipDeletePrefix {grammar : Grammar} (ends : EndsFor echo grammar) :
    Keeps echo strict grammar.skipDeletePrefix := by
  cases grammar with
  | mySQL => exact .bind (keeps_skipAll (by decide)) fun _ => keeps_accept (by simp)
  | oracle =>
    exact .bind (.discard (keeps_skipIf (by decide))) fun _ => .discard (keeps_skipIf (by decide))
  | sqlServer =>
    exact .bind (keeps_skipTop (ends rfl)) fun _ => .discard (keeps_skipIf (by decide))
  | postgreSQL =>
    exact .bind (keeps_accept (by simp)) fun _ => .discard (keeps_skipIf (by decide))

/-- The words behind `CREATE` are kept. -/
theorem keeps_skipCreateModifiers (grammar : Grammar) :
    Keeps echo strict grammar.skipCreateModifiers := by
  cases grammar with
  | mySQL => exact .discard (keeps_skipIf (by decide))
  | oracle => exact .bind (keeps_skipIf (by decide)) fun _ => .ite (keeps_accept (by simp)) (.pure _)
  | sqlServer => exact .pure ()
  | postgreSQL =>
    exact .bind (.discard (keeps_skipIf (by decide))) fun _ => .discard (keeps_skipIf (by decide))

/-- The words behind `DROP` are kept. -/
theorem keeps_skipDropModifiers (grammar : Grammar) :
    Keeps echo strict grammar.skipDropModifiers := by
  cases grammar with
  | mySQL => exact .discard (keeps_skipIf (by decide))
  | oracle => exact .pure ()
  | sqlServer => exact .pure ()
  | postgreSQL => exact .pure ()

/-- The word `ONLY` is kept. -/
theorem keeps_skipOnly (grammar : Grammar) : Keeps echo strict grammar.skipOnly := by
  cases grammar with
  | postgreSQL => exact .discard (keeps_skipIf (by decide))
  | mySQL => exact .pure ()
  | oracle => exact .pure ()
  | sqlServer => exact .pure ()

/-- The word `TABLE` is kept where it is demanded. -/
theorem keeps_expectTable (family : Family) : Keeps echo strict (expectTable family) := by
  refine .bind (keeps_skipIf (by decide)) fun _ => .ite (.pure _) ?_
  intro value before after settled passed
  rw [current_bind] at passed
  exact absurd passed throw_not_ok

/-- The guard `IF EXISTS` is kept. -/
theorem keeps_skipIfExists (grammar : Grammar) : Keeps echo strict (skipIfExists grammar) :=
  .ite (.bind (keeps_skipIf (by decide)) fun _ => .ite (keeps_accept (by simp)) (.pure _)) (.pure _)

/-- The guard `IF NOT EXISTS` is kept. -/
theorem keeps_skipIfNotExists (grammar : Grammar) : Keeps echo strict (skipIfNotExists grammar) :=
  .ite (.bind (keeps_skipIf (by decide)) fun _ =>
    .ite (.bind (keeps_accept (by simp)) fun _ => keeps_accept (by simp)) (.pure _)) (.pure _)

/-- Where no other table follows, none follows what answers. -/
theorem keeps_refuseOtherTables : Keeps echo strict refuseOtherTables :=
  keeps_refuse (by decide)

/-- A skipping that stops at a semicolon and at no name. -/
theorem keeps_skipItemsUntil {kinds : List Kind} (stopsAtSemicolon : .symbol .semicolon ∈ kinds)
    (noName : ∀ kind ∈ kinds, kind.isName = false) : Keeps echo strict (skipItemsUntil kinds) := by
  refine keeps_skipItems ⟨fun _ => by simpa using stopsAtSemicolon, fun _ _ kind stops => ?_⟩
  exact noName kind (by simpa using stops)

/-- The list of a query is kept. -/
theorem keeps_skipSelectList : Keeps echo strict skipSelectList :=
  keeps_skipItemsUntil (by decide) (by decide)

/-- The condition of a join is kept under a strict look: a dialect word ends it, so no name may be
answered by an identifier behind it. -/
theorem keeps_skipJoinCondition : Keeps echo true skipJoinCondition := by
  refine .bind (keeps_skipIf (by decide)) fun _ => .ite keeps_skipGroup ?_
  refine .bind (keeps_skipIf (by decide)) fun _ => .ite (keeps_skipItems ⟨fun _ => ?_, ?_⟩) (.pure _)
  · rfl
  · intro contradiction
    cases contradiction

/-- An assignment of an insertion is kept. -/
theorem keeps_assignment : Keeps echo strict assignment :=
  .bind keeps_columnName fun _ => .bind (keeps_accept (by simp)) fun _ =>
    .bind (keeps_skipItemsUntil (by decide) (by decide)) fun _ => .pure _

/-- A comma and the item behind it are kept, if an item is. -/
theorem keeps_itemAfter {α : Type} {item : Reading α} (keeps : Keeps echo strict item)
    (items : List α) : Keeps echo strict (itemAfter (.symbol .comma) item items) :=
  keeps_turnAfter (by decide) (fun _ => .bind keeps fun _ => .pure _) items

/-- The columns between parentheses are kept. -/
theorem keeps_columnList : Keeps echo strict columnList := by
  rw [columnList_eq]
  refine .bind (keeps_accept (by simp)) fun _ => .bind keeps_columnName fun _ => .bind ?_ fun _ =>
    .bind (keeps_accept (by simp)) fun _ => .pure _
  exact .repeatTurns (consumes_itemAfter (by simp) proceeds_columnName)
    (keeps_itemAfter keeps_columnName) _

/-- The columns that are assigned to are kept. -/
theorem keeps_assignedColumns : Keeps echo strict assignedColumns := by
  rw [assignedColumns_eq]
  exact .bind keeps_assignment fun _ => .repeatTurns
    (consumes_itemAfter (by simp) proceeds_assignment) (keeps_itemAfter keeps_assignment) _

/-- The columns of an insertion are kept. -/
theorem keeps_insertColumns (grammar : Grammar) : Keeps echo strict (insertColumns grammar) :=
  .bind (keeps_isOn ⟨by decide, by decide, fun _ => by decide⟩) fun _ => .ite keeps_columnList
    (.ite (.bind (keeps_skipIf (by decide)) fun _ => .ite keeps_assignedColumns (.pure _)) (.pure _))

end Reading

end SqlSharding
