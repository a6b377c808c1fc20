import Mathlib.Data.List.Perm.Basic
import Mathlib.Data.List.Nodup
import SqlSharding.Proofs.LetterCase
import SqlSharding.Proofs.Rule.Consistency

/-!
# Looking up tables in a consistent rule

A rule looks a table up by taking the first table rule for it, up to the case of ASCII letters. That no
two table rules have the same lower-case name is more than enough for at most one of them to be for a
table, so that the first one is the only one, and the order of the table rules does not matter.
-/

namespace SqlSharding.ShardingRule

variable {rule : ShardingRule} {rules reordered : List TableRule} {tableRule : TableRule}
  {table : String}

/-- A table rule for a table has its name in lower case. -/
theorem lowerName_of_isFor (isFor : tableRule.isFor table = true) :
    Text.toLower tableRule.logicTable = Text.toLower table :=
  Text.toLower_eq_of_sameName isFor

/-- Table rules with different lower-case names are not for the same table. -/
theorem countP_isFor_le_one (eachOnce : (lowerNames rules).Nodup) (table : String) :
    rules.countP (·.isFor table) ≤ 1 := by
  have lowered : rules.countP (·.isFor table) ≤ (lowerNames rules).countP (· == Text.toLower table) := by
    rw [lowerNames, List.countP_map]
    refine List.countP_mono_left fun tableRule _ isFor => ?_
    exact beq_iff_eq.mpr (lowerName_of_isFor isFor)
  exact Nat.le_trans lowered (List.nodup_iff_count_le_one.mp eachOnce _)

/-- What is found for a table is a table rule for it. -/
theorem isFor_of_tableRule? (found : rule.tableRule? table = some tableRule) :
    tableRule ∈ rule.tableRules ∧ tableRule.isFor table = true := by
  rw [tableRule?] at found
  have isFor := List.find?_some found
  exact ⟨List.mem_of_find?_eq_some found, isFor⟩

namespace Consistent

/-- A table rule is told by the lower-case name of its table. -/
theorem eq_of_toLower_eq {other : TableRule} (consistent : rule.Consistent)
    (isRule : tableRule ∈ rule.tableRules) (isOther : other ∈ rule.tableRules)
    (sameLower : Text.toLower tableRule.logicTable = Text.toLower other.logicTable) :
    tableRule = other :=
  List.inj_on_of_nodup_map consistent.eachOnce isRule isOther sameLower

/-- What is found for a table is whichever table rule is for it, not only the first. -/
theorem tableRule?_eq_some_iff (consistent : rule.Consistent) :
    rule.tableRule? table = some tableRule ↔
      tableRule ∈ rule.tableRules ∧ tableRule.isFor table = true := by
  refine ⟨isFor_of_tableRule?, ?_⟩
  rintro ⟨isRule, isFor⟩
  cases found : rule.tableRule? table with
  | none => exact absurd isFor (List.find?_eq_none.mp found tableRule isRule)
  | some first =>
    obtain ⟨isFirst, firstIsFor⟩ := isFor_of_tableRule? found
    have sameLower := (lowerName_of_isFor firstIsFor).trans (lowerName_of_isFor isFor).symm
    rw [consistent.eq_of_toLower_eq isFirst isRule sameLower]

/-- A consistent rule stays consistent when its table rules are put in another order. -/
theorem reorder (consistent : rule.Consistent) (perm : reordered.Perm rule.tableRules) :
    Consistent { rule with tableRules := reordered } where
  hasSources noSources := by
    have noRules := consistent.hasSources noSources
    rw [noRules] at perm
    exact perm.eq_nil
  eachOnce := (perm.map _).nodup_iff.mpr consistent.eachOnce
  nodesDeclared tableRule isRule := consistent.nodesDeclared tableRule (perm.mem_iff.mp isRule)
  defaultDeclared := consistent.defaultDeclared
  groupsRuled group isGroup table isTable := by
    have isLogic := consistent.groupsRuled group isGroup table isTable
    rw [isLogicTable, tableRule?, List.find?_isSome] at isLogic ⊢
    obtain ⟨tableRule, isRule, isFor⟩ := isLogic
    exact ⟨tableRule, perm.mem_iff.mpr isRule, isFor⟩

/-- The order of the table rules does not matter to what is found. -/
theorem tableRule?_reorder (consistent : rule.Consistent) (perm : reordered.Perm rule.tableRules)
    (table : String) :
    tableRule? { rule with tableRules := reordered } table = rule.tableRule? table := by
  refine Option.ext fun tableRule => ?_
  rw [(consistent.reorder perm).tableRule?_eq_some_iff, consistent.tableRule?_eq_some_iff]
  exact and_congr_left fun _ => perm.mem_iff

end Consistent

/-- Two rules give the same answers about every table. -/
structure SameLookups (left right : ShardingRule) : Prop where
  tableRule : ∀ table, left.tableRule? table = right.tableRule? table
  isLogicTable : ∀ table, left.isLogicTable table = right.isLogicTable table
  generatedColumn : ∀ table, left.generatedColumn? table = right.generatedColumn? table
  shardingColumns : ∀ table, left.shardingColumns table = right.shardingColumns table
  isShardingColumn : ∀ table column,
    left.isShardingColumn table column = right.isShardingColumn table column
  dataNodes : ∀ table, left.dataNodes table = right.dataNodes table

/-- Every answer about a table comes from the table rule found for it and from what is not about
tables. -/
theorem SameLookups.of_tableRule {left right : ShardingRule}
    (sameSources : left.dataSources = right.dataSources)
    (sameDefault : left.defaultSource? = right.defaultSource?)
    (same : ∀ table, left.tableRule? table = right.tableRule? table) : SameLookups left right where
  tableRule := same
  isLogicTable table := by rw [ShardingRule.isLogicTable, same, ← ShardingRule.isLogicTable]
  generatedColumn table := by rw [generatedColumn?, same, ← generatedColumn?]
  shardingColumns table := by rw [ShardingRule.shardingColumns, same, ← ShardingRule.shardingColumns]
  isShardingColumn table column := by
    rw [ShardingRule.isShardingColumn, ShardingRule.shardingColumns, same,
      ← ShardingRule.shardingColumns, ← ShardingRule.isShardingColumn]
  dataNodes table := by
    rw [ShardingRule.dataNodes, same, sameSources, sameDefault, ← ShardingRule.dataNodes]

/-- In a rule that passes its check at most one table rule is for a table. So its table rules may be put
in any order: the rule still passes, and gives the same answers about every table. -/
theorem lookups_of_validate (accepted : rule.validate.value = .ok ()) :
    (∀ table, rule.tableRules.countP (·.isFor table) ≤ 1) ∧
      ∀ reordered : List TableRule, reordered.Perm rule.tableRules →
        (validate { rule with tableRules := reordered }).value = .ok () ∧
          SameLookups { rule with tableRules := reordered } rule := by
  have consistent := validate_ok_iff.mp accepted
  refine ⟨countP_isFor_le_one consistent.eachOnce, fun reordered perm => ⟨?_, ?_⟩⟩
  · exact validate_ok_iff.mpr (consistent.reorder perm)
  · exact .of_tableRule rfl rfl (consistent.tableRule?_reorder perm)

/-- A rule for two tables whose names have letters beyond ASCII, the capital sigma among them, and the
same tables the other way round. -/
theorem lookups_of_validate_sigma :
    let orders : TableRule := { logicTable := "t_ΟΔΟΣ", tableColumns := ["id"] }
    let users : TableRule := { logicTable := "T_ΟΔΟΣα", generatedColumn? := some "id" }
    let rule : ShardingRule := { dataSources := ["ds"], tableRules := [orders, users] }
    rule.validate.value = .ok () ∧
      (∀ table, rule.tableRules.countP (·.isFor table) ≤ 1) ∧
        (validate { rule with tableRules := [users, orders] }).value = .ok () ∧
          SameLookups { rule with tableRules := [users, orders] } rule := by
  intro orders users rule
  have accepted : rule.validate.value = .ok () := by decide +kernel
  have unambiguous := lookups_of_validate accepted
  exact ⟨accepted, unambiguous.1, unambiguous.2 [users, orders] (List.Perm.swap orders users [])⟩

end SqlSharding.ShardingRule
