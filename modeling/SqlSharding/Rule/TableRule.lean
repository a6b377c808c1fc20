import SqlSharding.Rule.DataNode
import SqlSharding.Text.Ascii

/-!
# Table rules

How one logic table is spread over data sources: its physical tables, the columns that choose among
them, and the column whose value is generated.
-/

namespace SqlSharding

/-- The sharding of one logic table. -/
structure TableRule where
  logicTable : String
  /-- The physical tables; none means a table of the logic name in every data source. -/
  actualNodes : List DataNode := []
  databaseColumns : List String := []
  tableColumns : List String := []
  /-- The column whose value is generated when an insertion leaves it out. -/
  generatedColumn? : Option String := none
  deriving DecidableEq

namespace TableRule

/-- Whether the rule is for the table, in any letter case. -/
def isFor (rule : TableRule) (table : String) : Bool :=
  Text.sameName rule.logicTable table

/-- The columns that choose a data source or a physical table, each once. -/
def shardingColumns (rule : TableRule) : List String :=
  Text.distinctNames (rule.databaseColumns ++ rule.tableColumns)

/-- The physical tables, given the data sources. -/
def dataNodes (rule : TableRule) (sources : List String) : List DataNode :=
  if rule.actualNodes.isEmpty then sources.map (⟨·, rule.logicTable⟩) else rule.actualNodes

end TableRule

end SqlSharding
