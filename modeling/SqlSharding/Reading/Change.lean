import SqlSharding.Reading.Select

/-!
# Reading an UPDATE or a DELETE

Both change the rows of one table. A second table, whether in a list, by a join or in a `USING`, is
refused, and so is an update that reads from another table.
-/

namespace SqlSharding.Reading

/-- Fails if another table follows the table that is changed. -/
def refuseOtherTables : Reading Unit :=
  refuse ([.symbol .comma, .reserved .USING] ++ joinModifiers ++ joinKeywords)

/-- Moves past the assignments and conditions of an update. -/
def skipUpdateRest : Reading Unit := do
  skipItemsUntil [.reserved .FROM, .symbol .semicolon]
  refuse [.reserved .FROM]
  discard <| skipIf [.symbol .semicolon]

/-- Reads an update. -/
def update (grammar : Grammar) : Reading Statement := do
  discard <| accept (.reserved .UPDATE)
  grammar.skipUpdateModifiers
  let target ← aliasedTable
  refuseOtherTables
  grammar.skipTableHints
  discard <| accept (.reserved .SET)
  skipUpdateRest
  return .ofReferences .update [target]

/-- Reads a deletion. -/
def delete (grammar : Grammar) : Reading Statement := do
  discard <| accept (.reserved .DELETE)
  grammar.skipDeletePrefix
  let target ← aliasedTable
  refuseOtherTables
  skipToStatementEnd
  return .ofReferences .delete [target]

end SqlSharding.Reading
