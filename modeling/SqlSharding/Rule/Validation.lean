import SqlSharding.Notice
import SqlSharding.Rule.Json
import SqlSharding.Text.LetterCase.Lower

/-!
# Consistency of sharding rules

A rule is consistent when it has data sources for its tables, no table is configured twice, every
data source it mentions is declared, and every table of a binding group has a rule. The first
inconsistency is reported. A table that can be spread by no column is only noted in the log.
-/

namespace SqlSharding

/-- How a rule is inconsistent. -/
inductive RuleError
  | noDataSources
  | duplicateTable (table : String)
  /-- The node mentions a data source that is not declared. A default source is its own node. -/
  | unknownDataSource (node source : String)
  | unknownBindingTable (table : String)
  deriving DecidableEq

/-- The wording of an inconsistency. -/
def RuleError.message : RuleError → String
  | noDataSources => "Sharding rule declares no data sources"
  | duplicateTable table => "Logic table " ++ table ++ " is configured more than once"
  | unknownDataSource node source =>
    "Data node '" ++ node ++ "' references unknown data source '" ++ source ++ "'"
  | unknownBindingTable table => "Binding table " ++ table ++ " has no table rule"

/-- Why no rule could be loaded. -/
inductive LoadError
  /-- The text was refused as JSON. -/
  | malformed (text : String) (fault : Json.Fault)
  | inconsistent (cause : RuleError)
  deriving DecidableEq

namespace ShardingRule

/-- Checks table rules in order, given the data sources and the lower-case names of the tables before
them. -/
def checkTables (sources : List String) :
    (seen : List String) → List TableRule → Logged (Except RuleError Unit)
  | _, [] => pure (.ok ())
  | seen, rule :: others =>
    let name := Text.toLower rule.logicTable
    if seen.contains name then
      pure (.error (.duplicateTable rule.logicTable))
    else
      match rule.actualNodes.find? fun node => !sources.contains node.source with
      | some node => pure (.error (.unknownDataSource node.render node.source))
      | none => do
        if rule.shardingColumns.isEmpty then
          Logged.tell (.noShardingColumns rule.logicTable)
        checkTables sources (name :: seen) others

/-- Checks that the default data source is declared. -/
def checkDefault (rule : ShardingRule) : Except RuleError Unit :=
  match rule.defaultSource? with
  | some source =>
    if rule.dataSources.contains source then .ok () else .error (.unknownDataSource source source)
  | none => .ok ()

/-- Checks that every table of a group has a rule. -/
def checkGroups (rule : ShardingRule) : Except RuleError Unit :=
  match rule.bindingGroups.flatten.find? fun table => !rule.isLogicTable table with
  | some table => .error (.unknownBindingTable table)
  | none => .ok ()

/-- Checks a rule. -/
def validate (rule : ShardingRule) : Logged (Except RuleError Unit) :=
  if rule.dataSources.isEmpty && !rule.tableRules.isEmpty then
    pure (.error .noDataSources)
  else do
    let tables ← checkTables rule.dataSources [] rule.tableRules
    return (do
      tables
      rule.checkDefault
      rule.checkGroups)

/-- The rule, if it is consistent. -/
def build (rule : ShardingRule) : Logged (Except RuleError ShardingRule) := do
  return (← rule.validate).map fun _ => rule

/-- The rule with another table rule. -/
def addTableRule (rule : ShardingRule) (tableRule : TableRule) : ShardingRule :=
  { rule with tableRules := rule.tableRules ++ [tableRule] }

/-- The rule with another binding group. -/
def addBindingGroup (rule : ShardingRule) (tables : List String) : ShardingRule :=
  { rule with bindingGroups := rule.bindingGroups ++ [tables] }

/-- Reads a rule and checks it. -/
def load (text : String) : Logged (Except LoadError ShardingRule) :=
  match ofJson text with
  | .error fault => pure (.error (.malformed text fault))
  | .ok rule => do return (← rule.build).mapError .inconsistent

end ShardingRule

end SqlSharding
