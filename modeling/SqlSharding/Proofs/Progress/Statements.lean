import SqlSharding.Proofs.Progress

/-!
# Progress in statements

The loops of the statements, each as turns that consume: index hints, tables of a `FROM`, lists of
tables and lists of columns.
-/

namespace SqlSharding

namespace Reading

/-- A turn that reads an item behind each separator, and adds what it gives to a list. -/
def itemAfter {α : Type} (separator : Kind) (item : Reading α) : List α → Reading (Turn (List α)) :=
  turnAfter [separator] fun items => do return items ++ [← item]

/-- A turn that reads an item behind a separator takes the separator. -/
theorem consumes_itemAfter {α : Type} {separator : Kind} {item : Reading α}
    (notEnd : separator ≠ .endOfText) (proceeds : Proceeds item) :
    Consumes (itemAfter separator item) :=
  consumes_turnAfter (by simpa using Ne.symm notEnd) fun _ => .bind proceeds fun _ => .pure _

/-- An index hint, of which the first word has been read. -/
def indexHint : Reading Unit := do
  discard <| skipIf [.reserved .INDEX, .reserved .KEY]
  if ← skipIf [.reserved .FOR] then
    skipAll [.reserved .JOIN, .reserved .ORDER, .reserved .GROUP, .reserved .BY]
  discard skipGroup

/-- The words that begin an index hint. -/
def indexHintVerbs : List Kind := [.mySQL .USE, .mySQL .FORCE, .mySQL .IGNORE]

/-- Index hints are skipped by a loop over their verbs. -/
theorem skipIndexHints_eq :
    Grammar.skipIndexHints = repeatTurns (turnAfter indexHintVerbs fun _ => indexHint) () := by
  have turn_eq : (fun _ : Unit => do
      if ← skipIf [.mySQL .USE, .mySQL .FORCE, .mySQL .IGNORE] then
        discard <| skipIf [.reserved .INDEX, .reserved .KEY]
        if ← skipIf [.reserved .FOR] then
          skipAll [.reserved .JOIN, .reserved .ORDER, .reserved .GROUP, .reserved .BY]
        discard skipGroup
        return Turn.again ()
      else
        return .done ()) = turnAfter indexHintVerbs fun _ => indexHint := by
    funext _
    simp only [turnAfter, indexHint, indexHintVerbs, bind_assoc, ite_bind]
  rw [Grammar.skipIndexHints, turn_eq]

/-- An index hint gives nothing back. -/
theorem proceeds_indexHint : Proceeds indexHint :=
  .bind (.discard (proceeds_skipIf _)) fun _ => .bind (proceeds_skipIf _) fun _ =>
    .ite (.bind (proceeds_skipAll _) fun _ => .discard proceeds_skipGroup)
      (.discard proceeds_skipGroup)

/-- A turn over an index hint takes its verb. -/
theorem consumes_indexHints : Consumes (turnAfter indexHintVerbs fun _ : Unit => indexHint) :=
  consumes_turnAfter (by decide) fun _ => proceeds_indexHint

/-- The hints behind a table give nothing back. -/
theorem proceeds_skipTableHints (grammar : Grammar) : Proceeds grammar.skipTableHints := by
  cases grammar with
  | mySQL =>
    rw [Grammar.skipTableHints, skipIndexHints_eq]
    exact .repeatTurns (proceeds_turnAfter fun _ => proceeds_indexHint) ()
  | sqlServer =>
    exact .bind (proceeds_skipIf _) fun _ => .ite (.discard proceeds_skipGroup) (.pure _)
  | oracle => exact .pure ()
  | postgreSQL => exact .pure ()

/-- The word `ONLY` gives nothing back. -/
theorem proceeds_skipOnly (grammar : Grammar) : Proceeds grammar.skipOnly := by
  cases grammar with
  | postgreSQL => exact .discard (proceeds_skipIf _)
  | mySQL => exact .pure ()
  | oracle => exact .pure ()
  | sqlServer => exact .pure ()

/-- A table that is emptied may have a word before it. -/
theorem proceeds_truncatedTable (grammar : Grammar) :
    Proceeds (do
      grammar.skipOnly
      plainTable) :=
  .bind (proceeds_skipOnly grammar) fun _ => proceeds_plainTable

/-- A table of a query gives nothing back. -/
theorem proceeds_tableFactor (grammar : Grammar) : Proceeds (tableFactor grammar) :=
  .bind (proceeds_isOn _) fun _ => .ite
    (.bind (.discard proceeds_skipGroup) fun _ => .bind (.discard proceeds_alias?) fun _ => .pure _)
    (.bind (proceeds_skipIf _) fun _ => .ite (.pure _)
      (.bind proceeds_aliasedTable fun _ => .bind (proceeds_skipTableHints grammar) fun _ => .pure _))

/-- The condition of a join gives nothing back. -/
theorem proceeds_skipJoinCondition : Proceeds skipJoinCondition :=
  .bind (proceeds_skipIf _) fun _ => .ite (.discard proceeds_skipGroup)
    (.bind (proceeds_skipIf _) fun _ => .ite (proceeds_skipItems _) (.pure _))

/-- A join has its word. -/
theorem skipJoinType_remaining_lt {before after : Cursor}
    (passed : skipJoinType before = .ok true after) : after.remaining < before.remaining := by
  rw [skipJoinType, isOn_bind] at passed
  split at passed
  · obtain ⟨_, middle, modifiers, passed⟩ := bind_ok_iff.mp passed
    obtain ⟨isJoin, final, skipped, passed⟩ := bind_ok_iff.mp passed
    cases isJoin with
    | true =>
      obtain ⟨-, rfl⟩ := pure_ok_iff.mp passed
      exact Nat.lt_of_lt_of_le (skipIf_remaining_lt (by decide) skipped)
        (proceeds_skipAll _ _ _ _ modifiers)
    | false => cases passed
  · cases passed

/-- A turn of `tableReferences`. -/
def referencesTurn (grammar : Grammar) (references : List TableReference) :
    Reading (Turn (List TableReference)) := do
  if ← skipIf [.symbol .comma] then
    return .again (references ++ (← tableFactor grammar).toList)
  else if ← skipJoinType then
    let joined ← tableFactor grammar
    skipJoinCondition
    return .again (references ++ joined.toList)
  else
    return .done references

/-- The tables of a query are a first one and a loop over those that are joined. -/
theorem tableReferences_eq (grammar : Grammar) :
    tableReferences grammar =
      tableFactor grammar >>= fun first => repeatTurns (referencesTurn grammar) first.toList := rfl

/-- A turn that joins a further table takes the comma or the word of the join. -/
theorem consumes_referencesTurn (grammar : Grammar) : Consumes (referencesTurn grammar) := by
  intro references next before after taken
  obtain ⟨isComma, middle, skipped, taken⟩ := bind_ok_iff.mp taken
  cases isComma with
  | true =>
    obtain ⟨factor, final, read, taken⟩ := bind_ok_iff.mp taken
    obtain ⟨-, rfl⟩ := pure_ok_iff.mp taken
    exact Nat.lt_of_le_of_lt (proceeds_tableFactor grammar _ _ _ read)
      (skipIf_remaining_lt (by decide) skipped)
  | false =>
    obtain ⟨isJoin, joined, join, taken⟩ := bind_ok_iff.mp taken
    cases isJoin with
    | true =>
      obtain ⟨factor, final, read, taken⟩ := bind_ok_iff.mp taken
      obtain ⟨_, last, condition, taken⟩ := bind_ok_iff.mp taken
      obtain ⟨-, rfl⟩ := pure_ok_iff.mp taken
      have toFactor := proceeds_tableFactor grammar _ _ _ read
      have toCondition := proceeds_skipJoinCondition _ _ _ condition
      have toJoin := skipJoinType_remaining_lt join
      have toStart := proceeds_skipIf _ _ _ _ skipped
      omega
    | false =>
      obtain ⟨same, -⟩ := pure_ok_iff.mp taken
      cases same

/-- A turn of a list of tables. -/
def tableListTurn (allowed : Bool) (table : Reading TableReference)
    (references : List TableReference) : Reading (Turn (List TableReference)) := do
  if ← isOn [.symbol .comma] then
    if allowed then
      advance
      return .again (references ++ [← table])
    else
      unexpected
  else
    return .done references

/-- A list of tables is a first one and a loop over those behind commas. -/
theorem tableList_eq (allowed : Bool) (table : Reading TableReference) :
    tableList allowed table =
      table >>= fun first => repeatTurns (tableListTurn allowed table) [first] := rfl

/-- A list of tables goes on behind a comma that is skipped, or refuses the comma. -/
theorem tableListTurn_eq (allowed : Bool) (table : Reading TableReference) :
    tableListTurn allowed table =
      if allowed then itemAfter (.symbol .comma) table
      else fun references => do
        if ← isOn [.symbol .comma] then unexpected else return .done references := by
  funext references
  cases allowed with
  | false => rfl
  | true => simp [tableListTurn, itemAfter, turnAfter, skipIf, bind_assoc, ite_bind]

/-- A turn over a list of tables takes the comma. -/
theorem consumes_tableListTurn {allowed : Bool} {table : Reading TableReference}
    (proceeds : Proceeds table) : Consumes (tableListTurn allowed table) := by
  rw [tableListTurn_eq]
  cases allowed with
  | true => exact consumes_itemAfter (by decide) proceeds
  | false =>
    intro references next before after taken
    rw [if_neg Bool.false_ne_true, isOn_bind] at taken
    split at taken <;> cases taken

/-- The columns between parentheses are a first one and a loop over those behind commas. -/
theorem columnList_eq :
    columnList = (do
      discard <| accept (.symbol .leftParen)
      let first ← columnName
      let columns ← repeatTurns (itemAfter (.symbol .comma) columnName) [first]
      discard <| accept (.symbol .rightParen)
      return columns) := by
  have turn_eq : (fun columns => do
      if ← skipIf [.symbol .comma] then
        return Turn.again (columns ++ [← columnName])
      else
        return .done columns) = itemAfter (.symbol .comma) columnName := by
    funext columns
    simp only [itemAfter, turnAfter, bind_assoc, pure_bind]
  rw [columnList, turn_eq]

/-- An assignment gives nothing back. -/
theorem proceeds_assignment : Proceeds assignment :=
  .bind proceeds_columnName fun _ => .bind (.discard (proceeds_accept _)) fun _ =>
    .bind (proceeds_skipItems _) fun _ => .pure _

/-- The columns that are assigned to are a first one and a loop over those behind commas. -/
theorem assignedColumns_eq :
    assignedColumns = assignment >>= fun first =>
      repeatTurns (itemAfter (.symbol .comma) assignment) [first] := by
  have turn_eq : (fun columns => do
      if ← skipIf [.symbol .comma] then
        return Turn.again (columns ++ [← assignment])
      else
        return .done columns) = itemAfter (.symbol .comma) assignment := by
    funext columns
    simp only [itemAfter, turnAfter, bind_assoc, pure_bind]
  rw [assignedColumns, turn_eq]

end Reading

end SqlSharding
