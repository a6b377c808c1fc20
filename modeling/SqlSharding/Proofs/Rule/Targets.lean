import SqlSharding.Proofs.Rule.Lookup

/-!
# Where the tables of a rule are

The physical tables that a consistent rule gives a table come from one of three places: the data nodes
of its table rule, all data sources, or the default source. Each of them is checked, so no table is sent
to a data source that is not declared, and a table with a table rule is always sent somewhere.
-/

namespace SqlSharding.ShardingRule

/-- The physical tables of a table under a rule. -/
inductive Targets (rule : ShardingRule) (table : String) : List DataNode → Prop
  /-- The data nodes of its table rule. -/
  | configured {tableRule : TableRule} (isRule : tableRule ∈ rule.tableRules)
      (isFor : tableRule.isFor table = true) (hasNodes : tableRule.actualNodes ≠ []) :
      Targets rule table tableRule.actualNodes
  /-- A table in every data source, spelled as in its table rule. -/
  | everywhere {tableRule : TableRule} (isRule : tableRule ∈ rule.tableRules)
      (isFor : tableRule.isFor table = true) (noNodes : tableRule.actualNodes = []) :
      Targets rule table (rule.dataSources.map fun source => ⟨source, tableRule.logicTable⟩)
  /-- The table itself in the default source. -/
  | byDefault {source : String} (notLogic : rule.isLogicTable table = false)
      (isDefault : rule.defaultSource? = some source) : Targets rule table [⟨source, table⟩]
  | nowhere (notLogic : rule.isLogicTable table = false) (noDefault : rule.defaultSource? = none) :
      Targets rule table []

variable {rule : ShardingRule} {table : String} {nodes : List DataNode}

/-- A table is no logic table exactly if no table rule is found for it. -/
theorem isLogicTable_eq_false_iff : rule.isLogicTable table = false ↔ rule.tableRule? table = none := by
  rw [isLogicTable, Option.isSome_eq_false_iff, Option.isNone_iff_eq_none]

/-- The data nodes of a table are its physical tables. -/
theorem targets_dataNodes (rule : ShardingRule) (table : String) :
    rule.Targets table (rule.dataNodes table) := by
  rw [dataNodes]
  cases found : rule.tableRule? table with
  | some tableRule =>
    obtain ⟨isRule, isFor⟩ := isFor_of_tableRule? found
    dsimp only [TableRule.dataNodes]
    split
    · rename_i noNodes
      exact .everywhere isRule isFor (List.isEmpty_iff.mp noNodes)
    · rename_i hasNodes
      exact .configured isRule isFor (fun noNodes => hasNodes (List.isEmpty_iff.mpr noNodes))
  | none =>
    have notLogic := isLogicTable_eq_false_iff.mpr found
    cases isDefault : rule.defaultSource? with
    | some source => exact .byDefault notLogic isDefault
    | none => exact .nowhere notLogic isDefault

namespace Consistent

/-- The data nodes of a table are those of any table rule that is for it, if the rule is consistent. -/
theorem dataNodes_of_isFor {tableRule : TableRule} (consistent : rule.Consistent)
    (isRule : tableRule ∈ rule.tableRules) (isFor : tableRule.isFor table = true) :
    rule.dataNodes table = tableRule.dataNodes rule.dataSources := by
  rw [ShardingRule.dataNodes, consistent.tableRule?_eq_some_iff.mpr ⟨isRule, isFor⟩]

/-- A consistent rule leaves no choice between targets. -/
theorem dataNodes_eq (consistent : rule.Consistent) (targets : rule.Targets table nodes) :
    rule.dataNodes table = nodes := by
  cases targets with
  | configured isRule isFor hasNodes =>
    rw [consistent.dataNodes_of_isFor isRule isFor, TableRule.dataNodes, if_neg]
    rwa [List.isEmpty_iff]
  | everywhere isRule isFor noNodes =>
    rw [consistent.dataNodes_of_isFor isRule isFor, TableRule.dataNodes, noNodes]
    rfl
  | byDefault notLogic isDefault =>
    rw [ShardingRule.dataNodes, isLogicTable_eq_false_iff.mp notLogic, isDefault]
    rfl
  | nowhere notLogic noDefault =>
    rw [ShardingRule.dataNodes, isLogicTable_eq_false_iff.mp notLogic, noDefault]
    rfl

/-- Every place that targets come from is checked. -/
theorem source_declared (consistent : rule.Consistent) (targets : rule.Targets table nodes) :
    ∀ node ∈ nodes, node.source ∈ rule.dataSources := by
  cases targets with
  | configured isRule isFor hasNodes => exact consistent.nodesDeclared _ isRule
  | everywhere isRule isFor noNodes =>
    intro node isNode
    obtain ⟨source, isSource, rfl⟩ := List.mem_map.mp isNode
    exact isSource
  | byDefault notLogic isDefault =>
    intro node isNode
    rw [List.mem_singleton.mp isNode]
    exact consistent.defaultDeclared _ isDefault
  | nowhere notLogic noDefault => simp

/-- A table with a table rule has targets, since a rule with table rules has data sources. -/
theorem targets_ne_nil (consistent : rule.Consistent) (targets : rule.Targets table nodes)
    (isLogic : rule.isLogicTable table = true) : nodes ≠ [] := by
  cases targets with
  | configured isRule isFor hasNodes => exact hasNodes
  | everywhere isRule isFor noNodes =>
    rw [Ne, List.map_eq_nil_iff]
    intro noSources
    rw [consistent.hasSources noSources] at isRule
    cases isRule
  | byDefault notLogic isDefault => exact List.cons_ne_nil _ _
  | nowhere notLogic noDefault =>
    rw [isLogic] at notLogic
    cases notLogic

end Consistent

/-- A rule that passes its check sends every table to its targets and nowhere else. They are in declared
data sources, and there are some for every table with a table rule. -/
theorem targets_of_validate (accepted : rule.validate.value = .ok ()) (table : String) :
    (∀ nodes, rule.dataNodes table = nodes ↔ rule.Targets table nodes) ∧
      (∀ node ∈ rule.dataNodes table, node.source ∈ rule.dataSources) ∧
        (rule.isLogicTable table = true → rule.dataNodes table ≠ []) := by
  have consistent := validate_ok_iff.mp accepted
  have targets := targets_dataNodes rule table
  refine ⟨fun nodes => ⟨?_, consistent.dataNodes_eq⟩, consistent.source_declared targets,
    consistent.targets_ne_nil targets⟩
  rintro rfl
  exact targets

/-- A table with data nodes, one without, and one without a table rule, in other letter cases. -/
theorem targets_of_validate_three :
    let orders : TableRule := { logicTable := "t_order", actualNodes := [⟨"ds_1", "t_order_0"⟩] }
    let items : TableRule := { logicTable := "t_item" }
    let rule : ShardingRule := {
      dataSources := ["ds_0", "ds_1"], defaultSource? := some "ds_0", tableRules := [orders, items] }
    rule.validate.value = .ok () ∧
      rule.dataNodes "T_ORDER" = [⟨"ds_1", "t_order_0"⟩] ∧
        rule.dataNodes "T_Item" = [⟨"ds_0", "t_item"⟩, ⟨"ds_1", "t_item"⟩] ∧
          rule.dataNodes "T_User" = [⟨"ds_0", "T_User"⟩] := by
  intro orders items rule
  have accepted : rule.validate.value = .ok () := by decide +kernel
  have ordersIsRule : orders ∈ rule.tableRules := List.mem_cons_self
  have itemsIsRule : items ∈ rule.tableRules := List.mem_cons_of_mem _ List.mem_cons_self
  refine ⟨accepted, ?_, ?_, ?_⟩
  · exact ((targets_of_validate accepted "T_ORDER").1 _).mpr
      (.configured ordersIsRule (by decide +kernel) (List.cons_ne_nil _ _))
  · exact ((targets_of_validate accepted "T_Item").1 _).mpr
      (.everywhere itemsIsRule (by decide +kernel) rfl)
  · exact ((targets_of_validate accepted "T_User").1 _).mpr (.byDefault (by decide +kernel) rfl)

end SqlSharding.ShardingRule
