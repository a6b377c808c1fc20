import SqlSharding.Reading.Modifier
import SqlSharding.Reading.Name

/-!
# Reading a SELECT

The tables of the first `FROM` are read. The select list, the join conditions and the clauses after
the tables are skipped. A query that is combined with another one is refused.
-/

namespace SqlSharding.Reading

/-- The words that combine two queries. -/
def setOperators : List Kind := [
  .reserved .UNION, .reserved .EXCEPT, .reserved .INTERSECT, .reserved .MINUS]

/-- The words that may stand before `JOIN`. -/
def joinModifiers : List Kind := [
  .reserved .NATURAL, .reserved .LEFT, .reserved .RIGHT, .reserved .FULL, .reserved .INNER,
  .reserved .OUTER, .reserved .CROSS]

/-- The words that join two tables. -/
def joinKeywords : List Kind := [.reserved .JOIN, .mySQL .STRAIGHT_JOIN]

/-- The name of the table that stands for no table. -/
def dualNames : List Kind := [.mySQL .DUAL, .oracle .DUAL]

/-- The tokens that end a join condition in every dialect. -/
def conditionTerminators : List Kind := [
  .symbol .comma, .symbol .semicolon, .reserved .WHERE, .reserved .GROUP, .reserved .HAVING,
  .reserved .ORDER, .reserved .UNION, .reserved .EXCEPT, .reserved .INTERSECT, .reserved .MINUS,
  .reserved .FOR]

/-- The dialect words that begin a clause after the tables. They are not reserved, so after a dot
each of them is a column. -/
def dialectClauses : List Kind := [
  .mySQL .LIMIT, .mySQL .OFFSET, .oracle .CONNECT, .oracle .START, .oracle .FETCH,
  .sqlServer .OFFSET, .sqlServer .FETCH, .postgreSQL .LIMIT, .postgreSQL .OFFSET,
  .postgreSQL .RETURNING]

/-- Moves to the end of the select list. -/
def skipSelectList : Reading Unit :=
  skipItemsUntil ([.reserved .FROM, .symbol .semicolon] ++ setOperators)

/-- Reads a table of a `FROM`, if there is one: a sub-query and the table that stands for no table
give none. -/
def tableFactor (grammar : Grammar) : Reading (Option TableReference) := do
  if ← isOn [.symbol .leftParen] then
    discard skipGroup
    discard alias?
    return none
  else if ← skipIf dualNames then
    return none
  else
    let reference ← aliasedTable
    grammar.skipTableHints
    return some reference

/-- Moves past the words that join two tables, and tells whether there were any. A word that may
stand before `JOIN` needs it. -/
def skipJoinType : Reading Bool := do
  if ← isOn (joinModifiers ++ joinKeywords) then
    skipAll joinModifiers
    if ← skipIf joinKeywords then
      return true
    else
      unexpected
  else
    return false

/-- Whether a token ends a join condition. -/
def endsCondition (afterDot : Bool) (kind : Kind) : Bool :=
  (conditionTerminators ++ joinModifiers ++ joinKeywords).contains kind ||
    !afterDot && dialectClauses.contains kind

/-- Moves past the condition of a join, if there is one. -/
def skipJoinCondition : Reading Unit := do
  if ← skipIf [.reserved .USING] then
    discard skipGroup
  else if ← skipIf [.reserved .ON] then
    skipItems endsCondition

/-- Reads tables with commas and joins between them. -/
def tableReferences (grammar : Grammar) : Reading (List TableReference) := do
  let first ← tableFactor grammar
  repeatTurns (fun references => do
    if ← skipIf [.symbol .comma] then
      return .again (references ++ (← tableFactor grammar).toList)
    else if ← skipJoinType then
      let joined ← tableFactor grammar
      skipJoinCondition
      return .again (references ++ joined.toList)
    else
      return .done references) first.toList

/-- Moves past the clauses after the tables. -/
def skipSelectRest : Reading Unit := do
  skipItemsUntil (.symbol .semicolon :: setOperators)
  refuse setOperators
  discard <| skipIf [.symbol .semicolon]

/-- Reads a query. -/
def select (grammar : Grammar) : Reading Statement := do
  discard <| accept (.reserved .SELECT)
  grammar.skipSelectModifiers
  skipSelectList
  let references ←
    if ← skipIf [.reserved .FROM] then tableReferences grammar else pure []
  skipSelectRest
  return .ofReferences .select references

end SqlSharding.Reading
