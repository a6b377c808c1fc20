import SqlSharding.Reading.Modifier
import SqlSharding.Reading.Name

/-!
# Reading an INSERT

The table and the columns that are filled are read, either from a list between parentheses or from
assignments. A statement that names no columns fills all of them.
-/

namespace SqlSharding.Reading

/-- Reads columns between parentheses. -/
def columnList : Reading (List String) := do
  discard <| accept (.symbol .leftParen)
  let first ← columnName
  let columns ← repeatTurns (fun columns => do
    if ← skipIf [.symbol .comma] then
      return .again (columns ++ [← columnName])
    else
      return .done columns) [first]
  discard <| accept (.symbol .rightParen)
  return columns

/-- Moves past the value that is assigned to a column. -/
def skipAssignedValue : Reading Unit :=
  skipItemsUntil [.symbol .comma, .symbol .semicolon, .reserved .ON]

/-- Reads an assignment and gives its column. -/
def assignment : Reading String := do
  let column ← columnName
  discard <| accept (.symbol .equals)
  skipAssignedValue
  return column

/-- Reads assignments with commas between them. -/
def assignedColumns : Reading (List String) := do
  let first ← assignment
  repeatTurns (fun columns => do
    if ← skipIf [.symbol .comma] then
      return .again (columns ++ [← assignment])
    else
      return .done columns) [first]

/-- Reads the columns that are filled; none if the statement names none. -/
def insertColumns (grammar : Grammar) : Reading (List String) := do
  if ← isOn [.symbol .leftParen] then
    columnList
  else if grammar.insertSetClause then
    if ← skipIf [.reserved .SET] then assignedColumns else return []
  else
    return []

/-- The generated column of a table, and whether an insertion into the columns supplies it. -/
def generatedKey? (rule : ShardingRule) (table : String) (columns : List String) :
    Option GeneratedKey :=
  (rule.generatedColumn? table).map fun column =>
    ⟨column, columns.isEmpty || columns.any (Text.sameName · column)⟩

/-- Reads an insertion. -/
def insert (grammar : Grammar) (rule : ShardingRule) : Reading Statement := do
  discard <| accept (.reserved .INSERT)
  grammar.skipInsertModifiers
  if grammar.insertIntoOptional then
    discard <| skipIf [.reserved .INTO]
  else
    discard <| accept (.reserved .INTO)
  let target ← plainTable
  let columns ← insertColumns grammar
  skipToStatementEnd
  return { Statement.ofReferences .insert [target] with
    insertColumns := columns
    generatedKey? := generatedKey? rule target.mark.name columns }

end SqlSharding.Reading
