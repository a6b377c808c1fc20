import SqlSharding.Proofs.Rule.Lookup

/-!
# Repeated tables and the letter case of lookups

A rule takes two tables for one when they have the same lower-case form, and looks a table up by the
case of ASCII letters only. The two ways agree on names that differ in no letter beyond ASCII. Where
such a letter differs, the table is refused beside the other one and yet not found by its name.
-/

namespace SqlSharding.ShardingRule

variable {rule : ShardingRule} {earlier later tableRule : TableRule} {table : String}

/-- Some table is looked up as both just when their own tables are the same. -/
theorem exists_isFor_both_iff :
    (∃ table, earlier.isFor table = true ∧ later.isFor table = true) ↔
      Text.sameName earlier.logicTable later.logicTable = true := by
  constructor
  · rintro ⟨table, isFor, isFor'⟩
    rw [TableRule.isFor, Text.sameName_comm] at isFor'
    exact Text.sameName_trans isFor isFor'
  · intro same
    exact ⟨later.logicTable, same, Text.sameName_refl _⟩

/-- Among the names with the lower-case form of a table, those that are the same are looked up as it, and
the others are not looked up at all. -/
theorem Consistent.tableRule?_of_toLower_eq (consistent : rule.Consistent)
    (isRule : tableRule ∈ rule.tableRules)
    (sameLower : Text.toLower table = Text.toLower tableRule.logicTable) :
    rule.tableRule? table =
      if Text.sameName tableRule.logicTable table then some tableRule else none := by
  split
  · rename_i same
    exact consistent.tableRule?_eq_some_iff.mpr ⟨isRule, same⟩
  · rename_i notSame
    cases found : rule.tableRule? table with
    | none => rfl
    | some other =>
      obtain ⟨isOther, isFor⟩ := isFor_of_tableRule? found
      have sameRule := consistent.eq_of_toLower_eq isOther isRule
        ((lowerName_of_isFor isFor).trans sameLower)
      rw [sameRule] at isFor
      exact absurd isFor notSame

/-- A table that is refused as repeated has the lower-case form of one before it. -/
theorem exists_earlier_of_duplicateTable {repeated : String}
    (refused : rule.validate.value = .error (.duplicateTable repeated)) :
    ∃ earlier later, [earlier, later].Sublist rule.tableRules ∧ later.logicTable = repeated ∧
      Text.toLower earlier.logicTable = Text.toLower later.logicTable := by
  rcases rule.consistent_or_firstFault with consistent | ⟨sound, error, fault⟩
  · rw [consistent.validate_eq] at refused
    cases refused
  rw [fault.validate_eq] at refused
  obtain rfl := Except.error.inj refused
  cases fault with
  | table hasSources tables areSound fault =>
    cases fault with
    | repeated isEarlier =>
      rename_i behind later
      obtain ⟨earlier, isIn, sameLower⟩ := List.mem_map.mp isEarlier
      have inOrder : [earlier, later].Sublist (sound ++ later :: behind) :=
        (List.singleton_sublist.mpr isIn).append (List.singleton_sublist.mpr List.mem_cons_self)
      exact ⟨earlier, later, tables ▸ inOrder, rfl, sameLower⟩

/-- A table is looked up by a name with its lower-case form just when the name differs from it in no
letter beyond ASCII. Two tables are refused as one by their lower-case form, and some name is looked up
as both just when they differ in no letter beyond ASCII. -/
theorem foldings_agree_within_ascii :
    (rule.validate.value = .ok () → ∀ tableRule ∈ rule.tableRules, ∀ table,
      Text.toLower table = Text.toLower tableRule.logicTable →
        rule.tableRule? table =
          if Text.SameBeyondAscii tableRule.logicTable table then some tableRule else none) ∧
    ∀ repeated, rule.validate.value = .error (.duplicateTable repeated) →
      ∃ earlier later, [earlier, later].Sublist rule.tableRules ∧ later.logicTable = repeated ∧
        Text.toLower earlier.logicTable = Text.toLower later.logicTable ∧
          ((∃ table, earlier.isFor table = true ∧ later.isFor table = true) ↔
            Text.SameBeyondAscii earlier.logicTable later.logicTable) := by
  constructor
  · intro accepted tableRule isRule table sameLower
    have consistent := validate_ok_iff.mp accepted
    simp only [consistent.tableRule?_of_toLower_eq isRule sameLower,
      Text.sameName_iff_sameBeyondAscii sameLower.symm]
  · intro repeated refused
    obtain ⟨earlier, later, inOrder, isRepeated, sameLower⟩ := exists_earlier_of_duplicateTable refused
    refine ⟨earlier, later, inOrder, isRepeated, sameLower, ?_⟩
    rw [exists_isFor_both_iff, Text.sameName_iff_sameBeyondAscii sameLower]

/-- A table with an accent is found when a letter of ASCII is written in the other case, and not when the
accented one is. Beside a table that differs in a letter of ASCII it is refused, and some name is both. -/
theorem foldings_agree_within_ascii_accent :
    let small : TableRule := { logicTable := "t_é" }
    let rule : ShardingRule := { dataSources := ["ds"], tableRules := [small] }
    let both : ShardingRule :=
      { dataSources := ["ds"], tableRules := [small, { logicTable := "T_é" }] }
    rule.validate.value = .ok () ∧ rule.tableRule? "T_é" = some small ∧ rule.tableRule? "t_É" = none ∧
      both.validate.value = .error (.duplicateTable "T_é") ∧
        ∃ earlier later, [earlier, later].Sublist both.tableRules ∧ later.logicTable = "T_é" := by
  intro small rule both
  have accepted : rule.validate.value = .ok () := by decide +kernel
  have refused : both.validate.value = .error (.duplicateTable "T_é") := by decide +kernel
  have lookUp := foldings_agree_within_ascii.1 accepted small List.mem_cons_self
  obtain ⟨earlier, later, inOrder, isRepeated, -⟩ := foldings_agree_within_ascii.2 _ refused
  refine ⟨accepted, ?_, ?_, refused, earlier, later, inOrder, isRepeated⟩
  · rw [lookUp "T_é" (by decide +kernel), if_pos (by decide +kernel)]
  · rw [lookUp "t_É" (by decide +kernel), if_neg (by decide +kernel)]

/-- A table with an accent is not found by its name in capitals, which is its name to the check. A table of
that name is refused beside it, and no name is looked up as both. -/
theorem exists_capitals_not_found :
    let small : TableRule := { logicTable := "t_é" }
    let capital : TableRule := { logicTable := "T_É" }
    let rule : ShardingRule := { dataSources := ["ds"], tableRules := [small] }
    rule.validate.value = .ok () ∧ Text.toLower "T_É" = Text.toLower small.logicTable ∧
      rule.tableRule? "T_É" = none ∧
        (rule.addTableRule capital).validate.value = .error (.duplicateTable "T_É") ∧
          ¬ ∃ table, small.isFor table = true ∧ capital.isFor table = true := by
  intro small capital rule
  have notBoth : ¬ ∃ table, small.isFor table = true ∧ capital.isFor table = true := by
    rw [exists_isFor_both_iff]
    decide +kernel
  refine ⟨?_, ?_, ?_, ?_, notBoth⟩
  all_goals decide +kernel

end SqlSharding.ShardingRule
