import SqlSharding.Json.Reader
import SqlSharding.Json.Writer
import SqlSharding.Rule

/-!
# Sharding rules in JSON

The written form of rules, and how it is read. All fields but the logic table may be left out, a data
node is a string, and the two fields that may be missing in a rule may also be null.
-/

namespace SqlSharding

open Json

/-- Reads a list of strings. -/
def Json.Reader.texts : Reader (List String) :=
  Reader.list Reader.text

/-- Reads a data node in a list of data nodes. -/
def DataNode.reader : Reader DataNode :=
  Reader.checked Reader.text fun text =>
    match DataNode.ofText? text with
    | some node => .ok node
    | none => .error (DataNode.refusal text)

namespace TableRule

/-- The fields of a table rule that have been read. -/
structure Draft where
  logicTable? : Option String := none
  actualNodes? : Option (List DataNode) := none
  databaseColumns? : Option (List String) := none
  tableColumns? : Option (List String) := none
  generatedColumn? : Option (Option String) := none
  deriving DecidableEq

/-- The fields in the order in which they are written. -/
def fields : List (Reader.Field Draft) := [
  { name := "logic_table"
    isSet := (·.logicTable?.isSome)
    read := fun draft => do return { draft with logicTable? := some (← Reader.text) } },
  { name := "actual_data_nodes"
    isSet := (·.actualNodes?.isSome)
    read := fun draft => do
      return { draft with actualNodes? := some (← Reader.list DataNode.reader) } },
  { name := "database_sharding_columns"
    isSet := (·.databaseColumns?.isSome)
    read := fun draft => do return { draft with databaseColumns? := some (← Reader.texts) } },
  { name := "table_sharding_columns"
    isSet := (·.tableColumns?.isSome)
    read := fun draft => do return { draft with tableColumns? := some (← Reader.texts) } },
  { name := "generate_key_column"
    isSet := (·.generatedColumn?.isSome)
    read := fun draft => do return { draft with generatedColumn? := some (← Reader.text?) } }]

/-- The rule with the fields that have been read; the logic table is needed. -/
def ofDraft (layout : Reader.Layout) (draft : Draft) : Except Cause TableRule :=
  match draft.logicTable? with
  | some logicTable => .ok {
      logicTable
      actualNodes := draft.actualNodes?.getD []
      databaseColumns := draft.databaseColumns?.getD []
      tableColumns := draft.tableColumns?.getD []
      generatedColumn? := draft.generatedColumn?.join }
  | none =>
    match layout with
    | .object => .error (.missingField "logic_table")
    | .array => .error (.tooShort 0 "struct TableRule with 5 elements")

/-- Reads a table rule. -/
def reader : Reader TableRule :=
  Reader.record "struct TableRule" fields {} ofDraft

/-- The table rule of a text. -/
def ofJson (text : String) : Except Fault TableRule :=
  reader.run text

/-- The written form of a table rule. -/
def json (rule : TableRule) : List Char :=
  Writer.object [
    ("logic_table", Writer.text rule.logicTable),
    ("actual_data_nodes", Writer.list (rule.actualNodes.map fun node => Writer.text node.render)),
    ("database_sharding_columns", Writer.list (rule.databaseColumns.map Writer.text)),
    ("table_sharding_columns", Writer.list (rule.tableColumns.map Writer.text)),
    ("generate_key_column", Writer.text? rule.generatedColumn?)]

/-- The written form of a table rule, as a text. -/
def toJson (rule : TableRule) : String :=
  String.ofList rule.json

end TableRule

namespace ShardingRule

/-- The fields of a sharding rule that have been read. -/
structure Draft where
  dataSources? : Option (List String) := none
  defaultSource? : Option (Option String) := none
  tableRules? : Option (List TableRule) := none
  bindingGroups? : Option (List (List String)) := none
  deriving DecidableEq

/-- The fields in the order in which they are written. -/
def fields : List (Reader.Field Draft) := [
  { name := "data_sources"
    isSet := (·.dataSources?.isSome)
    read := fun draft => do return { draft with dataSources? := some (← Reader.texts) } },
  { name := "default_data_source"
    isSet := (·.defaultSource?.isSome)
    read := fun draft => do return { draft with defaultSource? := some (← Reader.text?) } },
  { name := "table_rules"
    isSet := (·.tableRules?.isSome)
    read := fun draft => do
      return { draft with tableRules? := some (← Reader.list TableRule.reader) } },
  { name := "binding_table_groups"
    isSet := (·.bindingGroups?.isSome)
    read := fun draft => do
      return { draft with bindingGroups? := some (← Reader.list Reader.texts) } }]

/-- The rule with the fields that have been read. -/
def ofDraft (draft : Draft) : ShardingRule where
  dataSources := draft.dataSources?.getD []
  defaultSource? := draft.defaultSource?.join
  tableRules := draft.tableRules?.getD []
  bindingGroups := draft.bindingGroups?.getD []

/-- Reads a sharding rule. -/
def reader : Reader ShardingRule :=
  Reader.record "struct ShardingRule" fields {} fun _ draft => .ok (ofDraft draft)

/-- The sharding rule of a text, which may still be inconsistent. -/
def ofJson (text : String) : Except Fault ShardingRule :=
  reader.run text

/-- The written form of a sharding rule. -/
def json (rule : ShardingRule) : List Char :=
  Writer.object [
    ("data_sources", Writer.list (rule.dataSources.map Writer.text)),
    ("default_data_source", Writer.text? rule.defaultSource?),
    ("table_rules", Writer.list (rule.tableRules.map TableRule.json)),
    ("binding_table_groups",
      Writer.list (rule.bindingGroups.map fun group => Writer.list (group.map Writer.text)))]

/-- The written form of a sharding rule, as a text. -/
def toJson (rule : ShardingRule) : String :=
  String.ofList rule.json

end ShardingRule

end SqlSharding
