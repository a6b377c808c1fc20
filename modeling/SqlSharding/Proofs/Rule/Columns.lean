import SqlSharding.Proofs.Tables
import SqlSharding.Rule

/-!
# The sharding columns of a table

A table rule declares the columns that choose a data source and those that choose a physical table, and a
column may be declared twice, in different letter cases and in both lists. The sharding columns are a union
of the two lists: none is lost, none is repeated, and their order and spelling are those of the
declarations. To ask whether a column is one of them is therefore to ask the declarations themselves.
-/

namespace SqlSharding

namespace Text

/-- The names that are kept stand in the order in which they are given. -/
theorem sublist_distinctNames (names : List String) : (distinctNames names).Sublist names := by
  induction names using List.reverseRecOn with
  | nil => exact List.Sublist.refl _
  | append_singleton names last inductionHypothesis =>
    rw [distinctNames_concat]
    split
    · exact inductionHypothesis.trans (List.sublist_append_left _ _)
    · exact inductionHypothesis.append (List.Sublist.refl _)

/-- Among the names that are kept there is one that is the same as another name exactly if there is one
among all of them. -/
theorem any_distinctNames (names : List String) (other : String) :
    (distinctNames names).any (sameName · other) = names.any (sameName · other) := by
  rw [Bool.eq_iff_iff, List.any_eq_true, List.any_eq_true]
  constructor
  · rintro ⟨kept, isKept, same⟩
    exact ⟨kept, mem_of_mem_distinctNames isKept, same⟩
  · rintro ⟨name, isIn, same⟩
    obtain ⟨kept, isKept, sameKept⟩ := exists_mem_distinctNames isIn
    rw [sameName_comm] at sameKept
    exact ⟨kept, isKept, sameName_trans sameKept same⟩

end Text

namespace TableRule

/-- The columns that are declared, those that choose a data source first. -/
def declaredColumns (rule : TableRule) : List String :=
  rule.databaseColumns ++ rule.tableColumns

/-- The declarations of the rule name the column in some letter case. -/
def Declares (rule : TableRule) (column : String) : Prop :=
  (∃ declared ∈ rule.databaseColumns, Text.sameName declared column = true) ∨
    ∃ declared ∈ rule.tableColumns, Text.sameName declared column = true

/-- A column is declared exactly if one of the sharding columns is the same name. -/
theorem declares_iff (rule : TableRule) (column : String) :
    rule.Declares column ↔ rule.shardingColumns.any (Text.sameName · column) = true := by
  rw [shardingColumns, Text.any_distinctNames, List.any_append, Bool.or_eq_true, List.any_eq_true,
    List.any_eq_true]
  rfl

/-- The columns are the declared ones, each once, in its first spelling and in the order of the
declarations. -/
structure IsUnion (rule : TableRule) (columns : List String) : Prop where
  inOrder : columns.Sublist rule.declaredColumns
  distinct : columns.Pairwise fun left right => Text.sameName left right = false
  firstSpelling : ∀ column ∈ columns, rule.declaredColumns.find? (Text.sameName column) = some column
  lossless : ∀ column, rule.Declares column → ∃ kept ∈ columns, Text.sameName kept column = true

/-- The sharding columns are a union of the declared ones. -/
theorem isUnion_shardingColumns (rule : TableRule) : rule.IsUnion rule.shardingColumns where
  inOrder := Text.sublist_distinctNames _
  distinct := Text.pairwise_distinctNames _
  firstSpelling _ isKept := Text.find?_of_mem_distinctNames isKept
  lossless column declares := List.any_eq_true.mp ((rule.declares_iff column).mp declares)

end TableRule

namespace ShardingRule

/-- A column of a table is a sharding column exactly if the rule of the table declares it. -/
theorem isShardingColumn_iff (rule : ShardingRule) (table column : String) :
    rule.isShardingColumn table column = true ↔
      ∃ tableRule, rule.tableRule? table = some tableRule ∧ tableRule.Declares column := by
  simp only [isShardingColumn, shardingColumns, TableRule.declares_iff]
  cases rule.tableRule? table with
  | none => simp
  | some tableRule => simp

/-- The rule of a table is the first one that is for the table. -/
theorem tableRule?_eq_some_iff_append (rule : ShardingRule) (table : String) (tableRule : TableRule) :
    rule.tableRule? table = some tableRule ↔
      ∃ earlier later, rule.tableRules = earlier ++ tableRule :: later ∧
        (∀ other ∈ earlier, other.isFor table = false) ∧ tableRule.isFor table = true := by
  simp only [tableRule?, List.find?_eq_some_iff_append, Bool.not_eq_eq_eq_not, Bool.not_true]
  constructor
  · rintro ⟨isFor, earlier, later, whole, notBefore⟩
    exact ⟨earlier, later, whole, notBefore, isFor⟩
  · rintro ⟨earlier, later, whole, notBefore, isFor⟩
    exact ⟨isFor, earlier, later, whole, notBefore⟩

/-- The sharding columns of a table rule are the union of its declared columns, so a column is a sharding
column of a table exactly if the first table rule for the table declares it. -/
theorem sharding_columns_declared :
    (∀ tableRule : TableRule, tableRule.IsUnion tableRule.shardingColumns) ∧
      ∀ (rule : ShardingRule) (table column : String),
        rule.isShardingColumn table column = true ↔
          ∃ earlier tableRule later, rule.tableRules = earlier ++ tableRule :: later ∧
            (∀ other ∈ earlier, other.isFor table = false) ∧ tableRule.isFor table = true ∧
            tableRule.Declares column := by
  refine ⟨TableRule.isUnion_shardingColumns, fun rule table column => ?_⟩
  rw [isShardingColumn_iff]
  simp only [tableRule?_eq_some_iff_append]
  constructor
  · rintro ⟨tableRule, ⟨earlier, later, whole, notBefore, isFor⟩, declares⟩
    exact ⟨earlier, tableRule, later, whole, notBefore, isFor, declares⟩
  · rintro ⟨earlier, tableRule, later, whole, notBefore, isFor, declares⟩
    exact ⟨tableRule, ⟨earlier, later, whole, notBefore, isFor⟩, declares⟩

/-- Two rules for one table, the first of which repeats its columns. -/
example :
    let orders : TableRule := {
      logicTable := "t_order"
      databaseColumns := ["User_ID", "user_id"]
      tableColumns := ["order_id", "USER_ID"] }
    let shadowed : TableRule := { logicTable := "T_Order", tableColumns := ["status"] }
    let rule : ShardingRule := { tableRules := [orders, shadowed] }
    rule.shardingColumns "T_ORDER" = ["User_ID", "order_id"] ∧
      rule.isShardingColumn "T_ORDER" "Order_Id" = true ∧
      rule.isShardingColumn "t_order" "status" = false := by
  decide

end ShardingRule

end SqlSharding
