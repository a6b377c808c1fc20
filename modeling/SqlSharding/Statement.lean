import SqlSharding.Rule
import SqlSharding.Statement.Family
import SqlSharding.Statement.Tables

/-!
# Statements

What is kept of a statement: its family, the tables it refers to, where their names stand in the
text, and for an insertion the columns it fills.
-/

namespace SqlSharding

/-- The generated column of the table that an insertion fills. -/
structure GeneratedKey where
  column : String
  /-- Whether the insertion gives the column a value itself. -/
  isSupplied : Bool
  deriving DecidableEq

/-- A statement that has been read. -/
structure Statement where
  family : Family
  tables : Tables := .empty
  /-- The table names in the text, in order. -/
  marks : List TableMark := []
  /-- The columns an insertion names, in order. -/
  insertColumns : List String := []
  generatedKey? : Option GeneratedKey := none
  deriving DecidableEq

namespace Statement

/-- The statement of a family that refers to tables in the given order. -/
def ofReferences (family : Family) (references : List TableReference) : Statement :=
  { family, tables := .ofReferences references, marks := references.map (·.mark) }

/-- The tables that are sharded by the rule. -/
def shardedTables (statement : Statement) (rule : ShardingRule) : List String :=
  statement.tables.names.filter rule.isLogicTable

/-- Whether one of the tables is sharded by the rule. -/
def isSharded (statement : Statement) (rule : ShardingRule) : Bool :=
  statement.tables.names.any rule.isLogicTable

/-- The statement in a word and its category. -/
def label (statement : Statement) : String :=
  statement.family.label ++ " statement (" ++ statement.family.category.label ++ ")"

end Statement

end SqlSharding
