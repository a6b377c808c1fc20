import SqlSharding.CommandLine.Failure
import SqlSharding.Dispatch

/-!
# Sessions

A session holds a dialect and a sharding rule. Statements are read against it and shown with their
tables, of which the sharded ones are marked.
-/

namespace SqlSharding

/-- What statements are read against. -/
structure Session where
  dialect : Dialect
  rule : ShardingRule
  deriving DecidableEq

namespace Session

/-- The line that shows a table. -/
def tableLine (session : Session) (table : Table) : String :=
  let mark := if session.rule.isLogicTable table.name then " [sharded]" else ""
  let aliases := if table.aliases.isEmpty then "" else " AS " ++ ", ".intercalate table.aliases
  "  " ++ table.name ++ aliases ++ mark

/-- The line that shows a generated key. -/
def keyLine (key : GeneratedKey) : String :=
  "Generated key: " ++ key.column ++ (if key.isSupplied then " (supplied)" else " (generated)")

/-- The lines that show a statement. -/
def statementLines (session : Session) (statement : Statement) : List String :=
  ["Statement: " ++ statement.label, "Tables (" ++ toString statement.tables.size ++ "):"] ++
    statement.tables.entries.map session.tableLine ++
    statement.generatedKey?.toList.map keyLine

/-- The lines that show the keywords of the eight families. -/
def keywordLines (session : Session) : List String :=
  ("Statement keywords for " ++ session.dialect.productName ++ ":") ::
    Family.all.map fun family => "  " ++ family.label ++ " " ++ family.category.label

/-- Reads a statement and gives the lines that show it. -/
def parseLines (session : Session) (text : String) : Except Failure (List String) :=
  match parse session.dialect session.rule text with
  | .ok statement => .ok (session.statementLines statement)
  | .error cause => .error (.refusedStatement session.dialect cause)

end Session

end SqlSharding
