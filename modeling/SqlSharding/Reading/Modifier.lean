import SqlSharding.Cursor.Skip

/-!
# What the grammars differ in

Between the words that make up a statement and its table names, each grammar allows words of its
own, which are skipped. The grammars also differ in which forms of a statement they have.
-/

namespace SqlSharding.Grammar

/-- Whether an insertion may leave out the word `INTO`. -/
def insertIntoOptional : Grammar → Bool
  | .mySQL | .sqlServer => true
  | .oracle | .postgreSQL => false

/-- Whether an insertion may name its columns by assignments after `SET`. -/
def insertSetClause : Grammar → Bool
  | .mySQL => true
  | .oracle | .sqlServer | .postgreSQL => false

/-- Whether `DROP TABLE` takes a list of tables. -/
def multipleDropTables : Grammar → Bool
  | .mySQL | .sqlServer | .postgreSQL => true
  | .oracle => false

/-- Whether `TRUNCATE` takes a list of tables. -/
def multipleTruncateTables : Grammar → Bool
  | .postgreSQL => true
  | .mySQL | .oracle | .sqlServer => false

/-- Whether `TRUNCATE` needs the word `TABLE`. -/
def truncateTableRequired : Grammar → Bool
  | .oracle => true
  | .mySQL | .sqlServer | .postgreSQL => false

/-- Whether `IF EXISTS` and `IF NOT EXISTS` may stand before a table name. -/
def ifExistsGuards : Grammar → Bool
  | .mySQL | .sqlServer | .postgreSQL => true
  | .oracle => false

open Reading

/-- Moves past `TOP n` or `TOP (…)`, then `PERCENT` and `WITH TIES`, if `TOP` is there. -/
def skipTop : Reading Unit := do
  if ← skipIf [.sqlServer .TOP] then
    if ← isOn [.symbol .leftParen] then
      discard skipGroup
    else
      advance
    discard <| skipIf [.sqlServer .PERCENT]
    if ← skipIf [.reserved .WITH] then
      discard <| accept (.sqlServer .TIES)

/-- Moves past the words between `SELECT` and its list. -/
def skipSelectModifiers : Grammar → Reading Unit
  | .mySQL =>
    skipAll [.reserved .DISTINCT, .reserved .ALL, .mySQL .DISTINCTROW, .mySQL .HIGH_PRIORITY,
      .mySQL .STRAIGHT_JOIN, .mySQL .SQL_CALC_FOUND_ROWS, .mySQL .SQL_NO_CACHE]
  | .sqlServer => do
    skipAll [.reserved .DISTINCT, .reserved .ALL]
    skipTop
  | .oracle | .postgreSQL => skipAll [.reserved .DISTINCT, .reserved .ALL]

/-- Moves past index hints: `USE`, `FORCE` or `IGNORE`, then `INDEX` or `KEY`, then the purpose after
`FOR`, then a group of names; each part but the first may be missing. -/
def skipIndexHints : Reading Unit :=
  repeatTurns (fun _ => do
    if ← skipIf [.mySQL .USE, .mySQL .FORCE, .mySQL .IGNORE] then
      discard <| skipIf [.reserved .INDEX, .reserved .KEY]
      if ← skipIf [.reserved .FOR] then
        skipAll [.reserved .JOIN, .reserved .ORDER, .reserved .GROUP, .reserved .BY]
      discard skipGroup
      return .again ()
    else
      return .done ()) ()

/-- Moves past the hints after a table. -/
def skipTableHints : Grammar → Reading Unit
  | .mySQL => skipIndexHints
  | .sqlServer => do
    if ← skipIf [.reserved .WITH] then
      discard skipGroup
  | .oracle | .postgreSQL => pure ()

/-- Moves past the words between `INSERT` and `INTO`. -/
def skipInsertModifiers : Grammar → Reading Unit
  | .mySQL => skipAll [.mySQL .LOW_PRIORITY, .mySQL .DELAYED, .mySQL .HIGH_PRIORITY, .mySQL .IGNORE]
  | .oracle | .sqlServer | .postgreSQL => pure ()

/-- Moves past the words between `UPDATE` and the table. -/
def skipUpdateModifiers : Grammar → Reading Unit
  | .mySQL => skipAll [.mySQL .LOW_PRIORITY, .mySQL .IGNORE]
  | .oracle | .postgreSQL => discard <| skipIf [.reserved .ONLY]
  | .sqlServer => skipTop

/-- Moves past the words between `DELETE` and the table; the word `FROM` is among them, and some
grammars need it. -/
def skipDeletePrefix : Grammar → Reading Unit
  | .mySQL => do
    skipAll [.mySQL .LOW_PRIORITY, .mySQL .QUICK, .mySQL .IGNORE]
    discard <| accept (.reserved .FROM)
  | .oracle => do
    discard <| skipIf [.reserved .FROM]
    discard <| skipIf [.reserved .ONLY]
  | .sqlServer => do
    skipTop
    discard <| skipIf [.reserved .FROM]
  | .postgreSQL => do
    discard <| accept (.reserved .FROM)
    discard <| skipIf [.reserved .ONLY]

/-- Moves past the words between `CREATE` and `TABLE`. -/
def skipCreateModifiers : Grammar → Reading Unit
  | .mySQL => discard <| skipIf [.reserved .TEMPORARY]
  | .oracle => do
    if ← skipIf [.oracle .GLOBAL] then
      discard <| accept (.reserved .TEMPORARY)
  | .sqlServer => pure ()
  | .postgreSQL => do
    discard <| skipIf [.postgreSQL .GLOBAL, .postgreSQL .LOCAL]
    discard <| skipIf [.reserved .TEMPORARY, .postgreSQL .TEMP, .postgreSQL .UNLOGGED]

/-- Moves past the words between `DROP` and `TABLE`. -/
def skipDropModifiers : Grammar → Reading Unit
  | .mySQL => discard <| skipIf [.reserved .TEMPORARY]
  | .oracle | .sqlServer | .postgreSQL => pure ()

/-- Moves past the word that keeps a statement from the tables that inherit from its table. -/
def skipOnly : Grammar → Reading Unit
  | .postgreSQL => discard <| skipIf [.reserved .ONLY]
  | .mySQL | .oracle | .sqlServer => pure ()

end SqlSharding.Grammar
