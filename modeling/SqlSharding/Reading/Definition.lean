import SqlSharding.Reading.Modifier
import SqlSharding.Reading.Name

/-!
# Reading the definition of a table

`CREATE`, `ALTER`, `DROP` and `TRUNCATE` are read for tables only. What follows the table names is
skipped.
-/

namespace SqlSharding.Reading

/-- Moves past the word `TABLE`; a statement about another object is not supported. -/
def expectTable (family : Family) : Reading Unit := do
  if ← skipIf [.reserved .TABLE] then
    return ()
  else
    throw (.unsupportedStatement family (← current).text)

/-- Moves past `IF EXISTS` where the grammar has it. -/
def skipIfExists (grammar : Grammar) : Reading Unit := do
  if grammar.ifExistsGuards then
    if ← skipIf [.reserved .IF] then
      discard <| accept (.reserved .EXISTS)

/-- Moves past `IF NOT EXISTS` where the grammar has it. -/
def skipIfNotExists (grammar : Grammar) : Reading Unit := do
  if grammar.ifExistsGuards then
    if ← skipIf [.reserved .IF] then
      discard <| accept (.reserved .NOT)
      discard <| accept (.reserved .EXISTS)

/-- Reads tables with commas between them; a comma is unexpected unless a list is allowed. -/
def tableList (allowed : Bool) (table : Reading TableReference) : Reading (List TableReference) := do
  let first ← table
  repeatTurns (fun references => do
    if ← isOn [.symbol .comma] then
      if allowed then
        advance
        return .again (references ++ [← table])
      else
        unexpected
    else
      return .done references) [first]

/-- Reads the creation of a table. -/
def create (grammar : Grammar) : Reading Statement := do
  discard <| accept (.reserved .CREATE)
  grammar.skipCreateModifiers
  expectTable .create
  skipIfNotExists grammar
  let table ← plainTable
  skipToStatementEnd
  return .ofReferences .create [table]

/-- Reads the alteration of a table. -/
def alter (grammar : Grammar) : Reading Statement := do
  discard <| accept (.reserved .ALTER)
  expectTable .alter
  skipIfExists grammar
  grammar.skipOnly
  let table ← plainTable
  skipToStatementEnd
  return .ofReferences .alter [table]

/-- Reads the removal of tables. -/
def drop (grammar : Grammar) : Reading Statement := do
  discard <| accept (.reserved .DROP)
  grammar.skipDropModifiers
  expectTable .drop
  skipIfExists grammar
  let tables ← tableList grammar.multipleDropTables plainTable
  skipToStatementEnd
  return .ofReferences .drop tables

/-- Reads the emptying of tables. -/
def truncate (grammar : Grammar) : Reading Statement := do
  discard <| accept (.reserved .TRUNCATE)
  if grammar.truncateTableRequired then
    discard <| accept (.reserved .TABLE)
  else
    discard <| skipIf [.reserved .TABLE]
  let tables ← tableList grammar.multipleTruncateTables (do
    grammar.skipOnly
    plainTable)
  skipToStatementEnd
  return .ofReferences .truncate tables

end SqlSharding.Reading
