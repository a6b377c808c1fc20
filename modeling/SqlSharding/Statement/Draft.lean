import SqlSharding.Reading.Name

/-!
# Statements under construction

A draft collects the tables of a statement reading by reading. A table name is marked as soon as it
is read, so a table whose alias is malformed leaves its mark without an entry.
-/

namespace SqlSharding

/-- A cursor, and what has been collected in front of it. -/
structure Draft where
  cursor : Cursor
  statement : Statement
  deriving DecidableEq

namespace Draft

/-- A draft in front of a text. -/
def ofText (family : Family) (dialect : Dialect) (text : String) : Draft :=
  ⟨.ofText dialect text, { family }⟩

variable {α : Type}

/-- Runs a reading. -/
def run (reading : Reading α) (draft : Draft) : Except ParseError α × Draft :=
  match reading draft.cursor with
  | .ok value cursor => (.ok value, { draft with cursor })
  | .error cause cursor => (.error cause, { draft with cursor })

/-- Marks a table name. -/
def addMark (draft : Draft) (mark : TableMark) : Draft :=
  { draft with statement := { draft.statement with marks := draft.statement.marks ++ [mark] } }

/-- Enters a table. -/
def addTable (draft : Draft) (table : Table) : Draft :=
  { draft with statement := { draft.statement with tables := draft.statement.tables.add table } }

/-- Reads the name of a table and marks it. -/
def readTableMark (draft : Draft) : Except ParseError TableMark × Draft :=
  match draft.run Reading.tableMark with
  | (.ok mark, after) => (.ok mark, after.addMark mark)
  | (.error cause, after) => (.error cause, after)

/-- Reads a table without an alias. -/
def readPlainTable (draft : Draft) : Except ParseError Unit × Draft :=
  match draft.readTableMark with
  | (.ok mark, after) => (.ok (), after.addTable (.ofName mark.name none))
  | (.error cause, after) => (.error cause, after)

/-- Reads a table with an alias, if there is one. -/
def readAliasedTable (draft : Draft) : Except ParseError Unit × Draft :=
  match draft.readTableMark with
  | (.ok mark, after) =>
    match after.run Reading.alias? with
    | (.ok alias?, final) => (.ok (), final.addTable (.ofName mark.name alias?))
    | (.error cause, final) => (.error cause, final)
  | (.error cause, after) => (.error cause, after)

end Draft

end SqlSharding
