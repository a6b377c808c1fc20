import Mathlib.Data.List.Forall2
import Mathlib.Data.List.Induction
import SqlSharding.Statement

/-!
# Tables and the names they come from

The table list of a statement has the distinct names of its references, each spelled as it first
appears. Names that are the same up to letter case are sharded alike, and they stay the same, or stay
different, when all of them get the same suffix.
-/

namespace SqlSharding

namespace Text

/-- A name behind others is kept if none of them is the same. -/
theorem distinctNames_concat (names : List String) (name : String) :
    distinctNames (names ++ [name]) =
      if (distinctNames names).any (sameName name) then distinctNames names
      else distinctNames names ++ [name] := by
  rw [distinctNames, List.foldl_append]
  rfl

/-- Every name is kept in some letter case. -/
theorem exists_mem_distinctNames {names : List String} {name : String} (isIn : name ∈ names) :
    ∃ kept ∈ distinctNames names, sameName name kept = true := by
  induction names using List.reverseRecOn with
  | nil => cases isIn
  | append_singleton names last inductionHypothesis =>
    have isKept : ∃ kept ∈ distinctNames (names ++ [last]), sameName last kept = true := by
      rw [distinctNames_concat]
      split
      · rename_i repeated
        simpa using repeated
      · exact ⟨last, by simp, sameName_refl last⟩
    rw [List.mem_append, List.mem_singleton] at isIn
    rcases isIn with earlier | rfl
    · obtain ⟨kept, isKept, same⟩ := inductionHypothesis earlier
      refine ⟨kept, ?_, same⟩
      rw [distinctNames_concat]
      split
      · exact isKept
      · exact List.mem_append_left _ isKept
    · exact isKept

/-- A name that is kept is the first of its letter cases. -/
theorem find?_of_mem_distinctNames {names : List String} {kept : String}
    (isKept : kept ∈ distinctNames names) : names.find? (sameName kept) = some kept := by
  induction names using List.reverseRecOn with
  | nil => cases isKept
  | append_singleton names last inductionHypothesis =>
    rw [distinctNames_concat] at isKept
    rw [List.find?_append]
    split at isKept
    · rw [inductionHypothesis isKept, Option.some_or]
    · rename_i isNew
      rw [List.mem_append, List.mem_singleton] at isKept
      rcases isKept with earlier | rfl
      · rw [inductionHypothesis earlier, Option.some_or]
      · have notBefore : names.find? (sameName kept) = none := by
          rw [List.find?_eq_none]
          intro name isIn same
          obtain ⟨other, isOther, sameOther⟩ := exists_mem_distinctNames isIn
          exact isNew (List.any_eq_true.mpr ⟨other, isOther, sameName_trans same sameOther⟩)
        rw [notBefore]
        simp

/-- No two of the names are the same in any letter case. -/
theorem pairwise_distinctNames (names : List String) :
    (distinctNames names).Pairwise fun left right => sameName left right = false := by
  induction names using List.reverseRecOn with
  | nil => exact .nil
  | append_singleton names last inductionHypothesis =>
    rw [distinctNames_concat]
    split
    · exact inductionHypothesis
    · rename_i isNew
      refine List.pairwise_append.mpr ⟨inductionHypothesis, List.pairwise_singleton _ _, ?_⟩
      intro left isKept right isLast
      obtain rfl := List.mem_singleton.mp isLast
      rw [sameName_comm]
      simpa using fun same => isNew (List.any_eq_true.mpr ⟨left, isKept, same⟩)

/-- What is kept of names is one of them. -/
theorem mem_of_mem_distinctNames {names : List String} {kept : String}
    (isKept : kept ∈ distinctNames names) : kept ∈ names :=
  List.mem_of_find?_eq_some (find?_of_mem_distinctNames isKept)

/-- No names are kept only of no names. -/
theorem isEmpty_distinctNames (names : List String) : (distinctNames names).isEmpty = names.isEmpty := by
  cases names with
  | nil => rfl
  | cons name others =>
    obtain ⟨kept, isKept, -⟩ := exists_mem_distinctNames (List.mem_cons_self (a := name) (l := others))
    rw [List.isEmpty_cons, List.isEmpty_eq_false_iff]
    exact List.ne_nil_of_mem isKept

end Text

/-- Names with the same suffix are the same exactly if they are so without it. -/
theorem Text.sameName_append (left right suffix : String) :
    sameName (left ++ suffix) (right ++ suffix) = sameName left right := by
  rw [Bool.eq_iff_iff, sameName_iff, sameName_iff]
  simp only [foldCase, String.toList_append, List.map_append, String.ofList_append]
  exact ⟨fun same => by simpa using same, fun same => by rw [same]⟩

/-- A table is sharded or not in any letter case of its name. -/
theorem ShardingRule.isLogicTable_congr (rule : ShardingRule) {left right : String}
    (same : Text.sameName left right = true) : rule.isLogicTable left = rule.isLogicTable right := by
  have isFor : ∀ tableRule : TableRule, tableRule.isFor left = tableRule.isFor right := by
    intro tableRule
    rw [Text.sameName_iff] at same
    simp only [TableRule.isFor, Text.sameName, same]
  simp only [isLogicTable, tableRule?, isFor]

namespace Table

/-- A table keeps its name with another alias. -/
@[simp] theorem addAlias_name (table : Table) (name : String) :
    (table.addAlias name).name = table.name := by
  rw [addAlias]
  split <;> rfl

/-- A table keeps its name with other aliases. -/
theorem foldl_addAlias_name (names : List String) (table : Table) :
    (names.foldl addAlias table).name = table.name := by
  induction names generalizing table with
  | nil => rfl
  | cons name names inductionHypothesis =>
    rw [List.foldl_cons, inductionHypothesis, addAlias_name]

/-- The table with a suffix added to its name. -/
def withSuffix (suffix : String) (table : Table) : Table :=
  { table with name := table.name ++ suffix }

/-- A table with a suffix has the names with the suffix that it has without. -/
theorem hasName_withSuffix (suffix name : String) (table : Table) :
    (table.withSuffix suffix).hasName (name ++ suffix) = table.hasName name :=
  Text.sameName_append _ _ _

/-- A suffix to the name of a table makes no difference to its aliases. -/
theorem foldl_addAlias_withSuffix (suffix : String) (names : List String) (table : Table) :
    names.foldl addAlias (table.withSuffix suffix) =
      (names.foldl addAlias table).withSuffix suffix := by
  induction names generalizing table with
  | nil => rfl
  | cons name names inductionHypothesis =>
    have step : (table.withSuffix suffix).addAlias name = (table.addAlias name).withSuffix suffix := by
      have sameAliases : (table.withSuffix suffix).hasAlias name = table.hasAlias name := rfl
      rw [addAlias, addAlias, sameAliases]
      split <;> rfl
    rw [List.foldl_cons, List.foldl_cons, step, inductionHypothesis]

end Table

namespace Tables

/-- A table that is added to entries adds its name behind theirs if it is new. -/
theorem map_name_insert (table : Table) (entries : List Table) :
    (insert table entries).map (·.name) =
      if (entries.map (·.name)).any (Text.sameName table.name) then entries.map (·.name)
      else entries.map (·.name) ++ [table.name] := by
  induction entries with
  | nil => rfl
  | cons entry entries inductionHypothesis =>
    have sameName : entry.hasName table.name = Text.sameName table.name entry.name :=
      Text.sameName_comm _ _
    rw [insert, sameName, List.map_cons, List.any_cons]
    cases Text.sameName table.name entry.name with
    | true => simp [Table.foldl_addAlias_name]
    | false =>
      simp only [Bool.false_eq_true, if_false, List.map_cons, inductionHypothesis, Bool.false_or]
      split <;> rfl

/-- The tables of references are those of the front with the table of the last one added. -/
theorem ofReferences_concat (references : List TableReference) (reference : TableReference) :
    ofReferences (references ++ [reference]) = (ofReferences references).add reference.table := by
  rw [ofReferences, List.foldl_append]
  rfl

/-- The table list has the distinct names of the references. -/
theorem names_ofReferences (references : List TableReference) :
    (ofReferences references).names = Text.distinctNames (references.map (·.mark.name)) := by
  induction references using List.reverseRecOn with
  | nil => rfl
  | append_singleton references reference inductionHypothesis =>
    rw [ofReferences_concat, List.map_append, List.map_singleton, Text.distinctNames_concat,
      ← inductionHypothesis]
    exact map_name_insert _ _

/-- Adding a suffix to all names makes no difference to where a table goes. -/
theorem insert_withSuffix (suffix : String) (table : Table) (entries : List Table) :
    insert (table.withSuffix suffix) (entries.map (·.withSuffix suffix)) =
      (insert table entries).map (·.withSuffix suffix) := by
  induction entries with
  | nil => rfl
  | cons entry entries inductionHypothesis =>
    have sameName : (entry.withSuffix suffix).hasName (table.withSuffix suffix).name =
        entry.hasName table.name :=
      Table.hasName_withSuffix _ _ _
    rw [List.map_cons, insert, insert, sameName]
    split
    · rw [List.map_cons, ← Table.foldl_addAlias_withSuffix]
      rfl
    · rw [List.map_cons, inductionHypothesis]

/-- The references differ only in a suffix that the second one has behind its name. -/
def AddsSuffix (suffix : String) (left right : TableReference) : Prop :=
  right.mark.name = left.mark.name ++ suffix ∧ right.alias? = left.alias?

/-- References with a suffix have the names with the suffix. -/
theorem names_of_addsSuffix {suffix : String} {left right : List TableReference}
    (adds : List.Forall₂ (AddsSuffix suffix) left right) :
    right.map (·.mark.name) = left.map (·.mark.name ++ suffix) := by
  induction adds with
  | nil => rfl
  | cons isAdded _ inductionHypothesis =>
    rw [List.map_cons, List.map_cons, isAdded.1, inductionHypothesis]

/-- A suffix behind every name leads to the same tables with that suffix. -/
theorem entries_ofReferences_of_addsSuffix {suffix : String} {left right : List TableReference}
    (adds : List.Forall₂ (AddsSuffix suffix) left right) :
    (ofReferences right).entries = (ofReferences left).entries.map (·.withSuffix suffix) := by
  have fromTables : ∀ tables tables' : Tables,
      tables'.entries = tables.entries.map (·.withSuffix suffix) →
        (right.foldl (fun tables reference => tables.add reference.table) tables').entries =
          (left.foldl (fun tables reference => tables.add reference.table) tables).entries.map
            (·.withSuffix suffix) := by
    induction adds with
    | nil => exact fun _ _ start => start
    | @cons reference reference' left right isSuffixed later inductionHypothesis =>
      intro tables tables' start
      have table : reference'.table = reference.table.withSuffix suffix := by
        rw [TableReference.table, TableReference.table, isSuffixed.1, isSuffixed.2]
        rfl
      have added : (tables'.add reference'.table).entries =
          (tables.add reference.table).entries.map (·.withSuffix suffix) := by
        rw [table, add, add, start, insert_withSuffix]
      exact inductionHypothesis _ _ added
  exact fromTables .empty .empty rfl

end Tables

end SqlSharding
