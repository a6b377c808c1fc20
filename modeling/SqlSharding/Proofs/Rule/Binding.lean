import Mathlib.Data.List.Perm.Basic
import SqlSharding.Rule.Validation

/-!
# Binding groups

Tables are sharded alike when some group holds all of them. A rule looks into the first group of the
first table only. It never finds tables sharded alike that are not, and it is right about all tables, in
every order of the tables and of the groups, just when groups that share a table hold the same tables.
-/

namespace SqlSharding.ShardingRule

/-- There are tables, and some group holds all of them. -/
def ShareGroup (rule : ShardingRule) (tables : List String) : Prop :=
  tables ≠ [] ∧ ∃ group ∈ rule.bindingGroups, ∀ table ∈ tables, groupHolds group table = true

/-- Groups that share a table hold the same tables. -/
def GroupsAgree (rule : ShardingRule) : Prop :=
  ∀ group ∈ rule.bindingGroups, ∀ other ∈ rule.bindingGroups, ∀ shared,
    groupHolds group shared = true → groupHolds other shared = true →
      ∀ table, groupHolds group table = true → groupHolds other table = true

variable {rule : ShardingRule} {first : String} {others tables : List String}
  {groups : List (List String)}

/-- A group holds a table exactly if one of its members is the same name. -/
theorem groupHolds_iff {group : List String} {table : String} :
    groupHolds group table = true ↔ ∃ member ∈ group, Text.sameName member table = true := by
  rw [groupHolds, List.any_eq_true]

/-- A group holds a table in every letter case or in none. -/
theorem groupHolds_congr {group : List String} {left right : String}
    (same : Text.sameName left right = true) : groupHolds group left = groupHolds group right := by
  rw [Text.sameName_iff] at same
  simp only [groupHolds, Text.sameName, same]

/-- Groups agree when they agree about their own names. -/
theorem groupsAgree_iff : rule.GroupsAgree ↔
    ∀ group ∈ rule.bindingGroups, ∀ other ∈ rule.bindingGroups, ∀ shared ∈ group,
      groupHolds other shared = true → ∀ member ∈ group, groupHolds other member = true := by
  have holdsMember {group : List String} {member : String} (isIn : member ∈ group) :
      groupHolds group member = true :=
    groupHolds_iff.mpr ⟨member, isIn, Text.sameName_refl member⟩
  constructor
  · intro agree group isGroup other isOther shared isShared otherHolds member isMember
    exact agree group isGroup other isOther shared (holdsMember isShared) otherHolds member
      (holdsMember isMember)
  · intro agree group isGroup other isOther shared holdsShared otherHolds table holdsTable
    obtain ⟨name, isName, sameShared⟩ := groupHolds_iff.mp holdsShared
    obtain ⟨member, isMember, sameTable⟩ := groupHolds_iff.mp holdsTable
    rw [← groupHolds_congr sameShared] at otherHolds
    rw [← groupHolds_congr sameTable]
    exact agree group isGroup other isOther name isName otherHolds member isMember

instance (rule : ShardingRule) : Decidable rule.GroupsAgree :=
  decidable_of_iff' _ groupsAgree_iff

instance (rule : ShardingRule) (tables : List String) : Decidable (rule.ShareGroup tables) :=
  inferInstanceAs (Decidable (_ ∧ _))

/-- A rule finds tables sharded alike exactly if the first group of the first table holds them all. -/
theorem areAllBinding_cons_iff :
    rule.areAllBinding (first :: others) = true ↔
      ∃ group, rule.bindingGroup? first = some group ∧
        ∀ table ∈ first :: others, groupHolds group table = true := by
  rw [areAllBinding]
  cases rule.bindingGroup? first with
  | none => simp
  | some group => rw [List.all_eq_true]; simp

/-- Only tables that a group holds are found to be sharded alike. -/
theorem shareGroup_of_areAllBinding (binding : rule.areAllBinding tables = true) :
    rule.ShareGroup tables := by
  cases tables with
  | nil => cases binding
  | cons first others =>
    obtain ⟨group, found, holdsAll⟩ := areAllBinding_cons_iff.mp binding
    exact ⟨List.cons_ne_nil _ _, group, List.mem_of_find?_eq_some found, holdsAll⟩

/-- Where groups agree, the first group of a table is as good as any other. -/
theorem GroupsAgree.areAllBinding (agree : rule.GroupsAgree) (share : rule.ShareGroup tables) :
    rule.areAllBinding tables = true := by
  obtain ⟨notEmpty, group, isGroup, holdsAll⟩ := share
  obtain ⟨first, others, rfl⟩ := List.exists_cons_of_ne_nil notEmpty
  have holdsFirst := holdsAll first List.mem_cons_self
  cases found : rule.bindingGroup? first with
  | none => exact absurd holdsFirst (List.find?_eq_none.mp found group isGroup)
  | some other =>
    have isOther := List.mem_of_find?_eq_some found
    have otherHolds : groupHolds other first = true := by simpa using List.find?_some found
    refine areAllBinding_cons_iff.mpr ⟨other, found, fun table isIn => ?_⟩
    exact agree group isGroup other isOther first holdsFirst otherHolds table (holdsAll table isIn)

/-- Tables that share a group share one in any order of the tables and of the groups. -/
theorem ShareGroup.of_perm {reordered : List String} (share : rule.ShareGroup tables)
    (sameTables : reordered.Perm tables) (sameGroups : groups.Perm rule.bindingGroups) :
    { rule with bindingGroups := groups }.ShareGroup reordered := by
  obtain ⟨notEmpty, group, isGroup, holdsAll⟩ := share
  refine ⟨fun isEmpty => notEmpty ?_, group, sameGroups.mem_iff.mpr isGroup, fun table isIn => ?_⟩
  · subst isEmpty
    exact sameTables.nil_eq.symm
  · exact holdsAll table (sameTables.mem_iff.mp isIn)

/-- Whether tables share a group does not depend on the order of the tables and of the groups. -/
theorem shareGroup_perm {reordered : List String} (sameTables : reordered.Perm tables)
    (sameGroups : groups.Perm rule.bindingGroups) :
    { rule with bindingGroups := groups }.ShareGroup reordered ↔ rule.ShareGroup tables := by
  constructor
  · intro share
    exact share.of_perm sameTables.symm sameGroups.symm
  · intro share
    exact share.of_perm sameTables sameGroups

/-- Groups that agree do so in any order. -/
theorem GroupsAgree.of_perm (agree : rule.GroupsAgree) (sameGroups : groups.Perm rule.bindingGroups) :
    { rule with bindingGroups := groups }.GroupsAgree :=
  fun group isGroup other isOther =>
    agree group (sameGroups.mem_iff.mp isGroup) other (sameGroups.mem_iff.mp isOther)

/-- A group is the first one of its tables when the groups are ordered so. -/
theorem groupHolds_of_areAllBinding {group : List String} {table : String}
    (binding : { rule with bindingGroups := group :: groups }.areAllBinding [first, table] = true)
    (holdsFirst : groupHolds group first = true) : groupHolds group table = true := by
  obtain ⟨found, isFirst, holdsAll⟩ := areAllBinding_cons_iff.mp binding
  have isFound : List.find? (groupHolds · first) (group :: groups) = some group :=
    List.find?_cons_of_pos holdsFirst
  obtain rfl : group = found := Option.some.inj (isFound.symm.trans isFirst)
  exact holdsAll table (by simp)

/-- Tables that are found to be sharded alike share a group. The converse holds of all tables, whatever
the order of the tables and of the groups, just when groups that share a table hold the same tables. -/
theorem areAllBinding_iff_shareGroup (rule : ShardingRule) :
    (∀ tables, rule.areAllBinding tables = true → rule.ShareGroup tables) ∧
      (rule.GroupsAgree ↔ ∀ groups tables reordered, groups.Perm rule.bindingGroups →
        reordered.Perm tables →
          ({ rule with bindingGroups := groups }.areAllBinding reordered = true ↔
            rule.ShareGroup tables)) := by
  refine ⟨fun tables => shareGroup_of_areAllBinding, ?_, ?_⟩
  · intro agree groups tables reordered sameGroups sameTables
    rw [← shareGroup_perm sameTables sameGroups]
    exact ⟨shareGroup_of_areAllBinding, (agree.of_perm sameGroups).areAllBinding⟩
  · intro isRight group isGroup other isOther shared holdsShared otherHolds table holdsTable
    have reordering := List.perm_cons_erase isOther
    have share : rule.ShareGroup [shared, table] :=
      ⟨List.cons_ne_nil _ _, group, isGroup, by simp [holdsShared, holdsTable]⟩
    have binding := (isRight _ _ _ reordering.symm (.refl _)).mpr share
    exact groupHolds_of_areAllBinding binding otherHolds

/-- Two groups without a common table, in the other order, and tables in other letter cases. -/
theorem areAllBinding_iff_shareGroup_two :
    let rule : ShardingRule := { bindingGroups := [["t_order", "t_item"], ["t_user", "t_address"]] }
    rule.GroupsAgree ∧
      ({ rule with bindingGroups := [["t_user", "t_address"], ["t_order", "t_item"]] }.areAllBinding
          ["T_ITEM", "t_Order"] = true ↔ rule.ShareGroup ["t_Order", "T_ITEM"]) := by
  intro rule
  have agree : rule.GroupsAgree := by decide
  have isRight := (areAllBinding_iff_shareGroup rule).2.mp agree
  exact ⟨agree, isRight _ _ _ (.swap ..) (.swap ..)⟩

/-- The first group of a table hides a later one: the tables of the later group are sharded alike, and
are found to be so in one order only. -/
theorem exists_shareGroup_missed :
    let rule : ShardingRule := {
      dataSources := ["ds"]
      tableRules := [{ logicTable := "a" }, { logicTable := "b" }, { logicTable := "c" }]
      bindingGroups := [["a", "b"], ["a", "c"]] }
    rule.validate.value = .ok () ∧ rule.ShareGroup ["a", "c"] ∧
      rule.areAllBinding ["a", "c"] = false ∧ rule.areAllBinding ["c", "a"] = true := by
  decide +kernel

end SqlSharding.ShardingRule
