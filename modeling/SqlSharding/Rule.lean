import SqlSharding.Rule.TableRule

/-!
# Sharding rules

A sharding rule holds the data sources, a rule for each sharded table, and the groups of tables that
are sharded alike. Tables are looked up in any letter case, and the first rule for a table counts.
-/

namespace SqlSharding

/-- The sharding of a database. -/
structure ShardingRule where
  dataSources : List String := []
  /-- The data source of the tables that have no rule. -/
  defaultSource? : Option String := none
  tableRules : List TableRule := []
  /-- Groups of tables sharded alike, so that a join between them stays within one data source. -/
  bindingGroups : List (List String) := []
  deriving DecidableEq

namespace ShardingRule

/-- The rule without data sources and tables. -/
def empty : ShardingRule := {}

/-- The rule for a table. -/
def tableRule? (rule : ShardingRule) (table : String) : Option TableRule :=
  rule.tableRules.find? (·.isFor table)

/-- Whether a table is sharded. -/
def isLogicTable (rule : ShardingRule) (table : String) : Bool :=
  (rule.tableRule? table).isSome

/-- The generated column of a table. -/
def generatedColumn? (rule : ShardingRule) (table : String) : Option String :=
  (rule.tableRule? table).bind (·.generatedColumn?)

/-- The sharding columns of a table; a table without a rule has none. -/
def shardingColumns (rule : ShardingRule) (table : String) : List String :=
  ((rule.tableRule? table).map (·.shardingColumns)).getD []

/-- Whether a column is a sharding column of a table. -/
def isShardingColumn (rule : ShardingRule) (table column : String) : Bool :=
  (rule.shardingColumns table).any (Text.sameName · column)

/-- Whether a group holds a table. -/
def groupHolds (group : List String) (table : String) : Bool :=
  group.any (Text.sameName · table)

/-- The first group that holds a table. -/
def bindingGroup? (rule : ShardingRule) (table : String) : Option (List String) :=
  rule.bindingGroups.find? (groupHolds · table)

/-- Whether a table belongs to a group. -/
def isBindingTable (rule : ShardingRule) (table : String) : Bool :=
  (rule.bindingGroup? table).isSome

/-- Whether there are tables and the first group of the first one holds all of them. -/
def areAllBinding (rule : ShardingRule) : List String → Bool
  | [] => false
  | first :: others =>
    match rule.bindingGroup? first with
    | some group => (first :: others).all (groupHolds group)
    | none => false

/-- The physical tables of a table. A table without a rule is in the default source, if any. -/
def dataNodes (rule : ShardingRule) (table : String) : List DataNode :=
  match rule.tableRule? table with
  | some tableRule => tableRule.dataNodes rule.dataSources
  | none => rule.defaultSource?.toList.map (⟨·, table⟩)

end ShardingRule

end SqlSharding
