import Mathlib.Data.List.Induction
import Mathlib.Data.List.Nodup
import SqlSharding.Proofs.Tables
import SqlSharding.Rule.Validation

/-!
# Consistent rules and first faults

What a rule that passes its check is known to be, and which fault is reported of a rule that does not.
The check goes through the table rules in order and keeps the lower-case names it has seen. A front of
sound table rules is passed with nothing but its warnings, and what comes behind it is either nothing or
the first fault.
-/

namespace SqlSharding.ShardingRule

/-- The lower-case names of the tables that have a rule, in order. -/
def lowerNames (rules : List TableRule) : List String :=
  rules.map fun tableRule => Text.toLower tableRule.logicTable

/-- A rule without an inconsistency. -/
structure Consistent (rule : ShardingRule) : Prop where
  hasSources : rule.dataSources = [] → rule.tableRules = []
  eachOnce : (lowerNames rule.tableRules).Nodup
  nodesDeclared : ∀ tableRule ∈ rule.tableRules, ∀ node ∈ tableRule.actualNodes,
    node.source ∈ rule.dataSources
  defaultDeclared : ∀ source, rule.defaultSource? = some source → source ∈ rule.dataSources
  groupsRuled : ∀ group ∈ rule.bindingGroups, ∀ table ∈ group, rule.isLogicTable table = true

/-- Table rules for different tables, with data nodes in declared sources only. -/
structure SoundTables (sources : List String) (rules : List TableRule) : Prop where
  eachOnce : (lowerNames rules).Nodup
  nodesDeclared : ∀ tableRule ∈ rules, ∀ node ∈ tableRule.actualNodes, node.source ∈ sources

/-- What is wrong with a table rule behind others: it is for a table that one of them is for, or else
it has a data node in no declared source, the first of which counts. -/
inductive TableFault (sources : List String) (earlier : List TableRule) (tableRule : TableRule) :
    RuleError → Prop
  | repeated (isEarlier : Text.toLower tableRule.logicTable ∈ lowerNames earlier) :
      TableFault sources earlier tableRule (.duplicateTable tableRule.logicTable)
  | undeclared {before behind : List DataNode} {node : DataNode}
      (isNew : Text.toLower tableRule.logicTable ∉ lowerNames earlier)
      (nodes : tableRule.actualNodes = before ++ node :: behind)
      (declared : ∀ other ∈ before, other.source ∈ sources) (notDeclared : node.source ∉ sources) :
      TableFault sources earlier tableRule (.unknownDataSource node.render node.source)

/-- The first fault of a rule, behind the table rules that were found sound in full. Faults come in this
order: no data sources; a table rule, in order; the default source; a table of a binding group, in
order. -/
inductive FirstFault (rule : ShardingRule) : (sound : List TableRule) → RuleError → Prop
  | noSources (noSources : rule.dataSources = []) (hasTables : rule.tableRules ≠ []) :
      FirstFault rule [] .noDataSources
  | table {earlier behind : List TableRule} {tableRule : TableRule} {error : RuleError}
      (hasSources : rule.dataSources ≠ []) (tables : rule.tableRules = earlier ++ tableRule :: behind)
      (sound : SoundTables rule.dataSources earlier)
      (fault : TableFault rule.dataSources earlier tableRule error) : FirstFault rule earlier error
  | defaultSource {source : String} (hasSources : rule.dataSources = [] → rule.tableRules = [])
      (sound : SoundTables rule.dataSources rule.tableRules)
      (isDefault : rule.defaultSource? = some source) (notDeclared : source ∉ rule.dataSources) :
      FirstFault rule rule.tableRules (.unknownDataSource source source)
  | bindingTable {before behind : List String} {table : String}
      (hasSources : rule.dataSources = [] → rule.tableRules = [])
      (sound : SoundTables rule.dataSources rule.tableRules)
      (defaultDeclared : ∀ source, rule.defaultSource? = some source → source ∈ rule.dataSources)
      (tables : rule.bindingGroups.flatten = before ++ table :: behind)
      (ruled : ∀ other ∈ before, rule.isLogicTable other = true)
      (notRuled : rule.isLogicTable table = false) :
      FirstFault rule rule.tableRules (.unknownBindingTable table)

/-- The warnings about table rules: one for each that has no sharding column of either kind. -/
def warnings (rules : List TableRule) : List Notice :=
  (rules.filter fun tableRule =>
    tableRule.databaseColumns.isEmpty && tableRule.tableColumns.isEmpty).map
      fun tableRule => .noShardingColumns tableRule.logicTable

variable {sources seen : List String} {earlier behind rules : List TableRule} {rule : ShardingRule}
  {tableRule : TableRule} {error : RuleError}

/-! ### The check of the table rules -/

/-- There are no sharding columns exactly if none are declared. -/
theorem isEmpty_shardingColumns (tableRule : TableRule) : tableRule.shardingColumns.isEmpty =
    (tableRule.databaseColumns.isEmpty && tableRule.tableColumns.isEmpty) := by
  rw [TableRule.shardingColumns, Text.isEmpty_distinctNames]
  cases tableRule.databaseColumns with
  | nil => rfl
  | cons => rfl

/-- The first table rule is warned about before the others. -/
theorem warnings_cons (tableRule : TableRule) (others : List TableRule) :
    warnings (tableRule :: others) = warnings [tableRule] ++ warnings others := by
  rw [warnings, ← List.singleton_append, List.filter_append, List.map_append]
  rfl

/-- Table rules are sound exactly if the first one is sound by itself and differs from the others, which
are sound. -/
theorem soundTables_cons_iff : SoundTables sources (tableRule :: rules) ↔
    Text.toLower tableRule.logicTable ∉ lowerNames rules ∧
      (∀ node ∈ tableRule.actualNodes, node.source ∈ sources) ∧ SoundTables sources rules := by
  constructor
  · rintro ⟨eachOnce, declared⟩
    obtain ⟨isNew, eachOnce⟩ := List.nodup_cons.mp eachOnce
    obtain ⟨declared, othersDeclared⟩ := List.forall_mem_cons.mp declared
    exact ⟨isNew, declared, eachOnce, othersDeclared⟩
  · rintro ⟨isNew, declared, eachOnce, othersDeclared⟩
    exact ⟨List.nodup_cons.mpr ⟨isNew, eachOnce⟩, List.forall_mem_cons.mpr ⟨declared, othersDeclared⟩⟩

/-- A table rule for a new table with declared nodes goes behind sound ones. -/
theorem SoundTables.concat (sound : SoundTables sources rules)
    (isNew : Text.toLower tableRule.logicTable ∉ lowerNames rules)
    (declared : ∀ node ∈ tableRule.actualNodes, node.source ∈ sources) :
    SoundTables sources (rules ++ [tableRule]) where
  eachOnce := by
    rw [lowerNames, List.map_append, ← lowerNames]
    refine List.nodup_append.mpr ⟨sound.eachOnce, List.nodup_singleton _, ?_⟩
    rintro name isIn other isLast rfl
    obtain rfl := List.mem_singleton.mp isLast
    exact isNew isIn
  nodesDeclared := by
    intro other isIn
    rcases List.mem_append.mp isIn with isEarlier | isLast
    · exact sound.nodesDeclared other isEarlier
    · exact List.mem_singleton.mp isLast ▸ declared

/-- A sound table rule is passed with its warning. -/
theorem checkTables_cons (isNew : Text.toLower tableRule.logicTable ∉ seen)
    (declared : ∀ node ∈ tableRule.actualNodes, node.source ∈ sources) :
    checkTables sources seen (tableRule :: behind) =
      let rest := checkTables sources (Text.toLower tableRule.logicTable :: seen) behind
      ⟨warnings [tableRule] ++ rest.notices, rest.value⟩ := by
  have isUnseen : seen.contains (Text.toLower tableRule.logicTable) = false := by simpa using isNew
  have noneUndeclared : tableRule.actualNodes.find? (fun node => !sources.contains node.source) = none :=
    List.find?_eq_none.mpr fun node isNode => by simpa using declared node isNode
  simp only [checkTables, isUnseen, noneUndeclared, warnings, isEmpty_shardingColumns, List.filter_cons,
    List.filter_nil, Bool.false_eq_true, ite_false]
  split
  · rfl
  · rfl

/-- Sound table rules are passed with their warnings, and are seen from there on. -/
theorem checkTables_append (areNew : ∀ name ∈ lowerNames earlier, name ∉ seen)
    (sound : SoundTables sources earlier) :
    checkTables sources seen (earlier ++ behind) =
      let rest := checkTables sources ((lowerNames earlier).reverse ++ seen) behind
      ⟨warnings earlier ++ rest.notices, rest.value⟩ := by
  induction earlier generalizing seen with
  | nil => rfl
  | cons tableRule others inductionHypothesis =>
    obtain ⟨notAgain, declared, othersSound⟩ := soundTables_cons_iff.mp sound
    obtain ⟨isNew, othersNew⟩ := List.forall_mem_cons.mp areNew
    have othersUnseen : ∀ name ∈ lowerNames others,
        name ∉ Text.toLower tableRule.logicTable :: seen := by
      intro name isName
      rw [List.mem_cons, not_or]
      exact ⟨fun same => notAgain (same ▸ isName), othersNew name isName⟩
    rw [List.cons_append, checkTables_cons isNew declared,
      inductionHypothesis othersUnseen othersSound]
    rw [warnings_cons tableRule others]
    simp [lowerNames]

/-- A table rule with a fault ends the check with it. -/
theorem checkTables_of_fault (areSeen : ∀ name, name ∈ seen ↔ name ∈ lowerNames earlier)
    (fault : TableFault sources earlier tableRule error) :
    checkTables sources seen (tableRule :: behind) = ⟨[], .error error⟩ := by
  rw [checkTables]
  cases fault with
  | repeated isEarlier =>
    have isSeen := (areSeen _).mpr isEarlier
    simp only [List.contains_eq_mem, isSeen, decide_true, ite_true]
    rfl
  | undeclared isNew nodes declared notDeclared =>
    rename_i before behind node
    have isUnseen := mt (areSeen _).mp isNew
    have isFirst : tableRule.actualNodes.find? (fun node => !sources.contains node.source) = some node := by
      rw [List.find?_eq_some_iff_append]
      exact ⟨by simpa using notDeclared, before, behind, nodes, by simpa using declared⟩
    simp only [List.contains_eq_mem, isUnseen, decide_false, Bool.false_eq_true, ite_false] at isFirst ⊢
    rw [isFirst]
    rfl

/-- Sound table rules are accepted, with their warnings. -/
theorem checkTables_of_sound (sound : SoundTables sources rules) :
    checkTables sources [] rules = ⟨warnings rules, .ok ()⟩ := by
  have passed := @checkTables_append sources [] rules [] (by simp) sound
  rw [List.append_nil] at passed
  rw [passed]
  simp [checkTables]

/-- Behind sound table rules the first fault is reported, with the warnings about those before it. -/
theorem checkTables_of_first (sound : SoundTables sources earlier)
    (fault : TableFault sources earlier tableRule error) :
    checkTables sources [] (earlier ++ tableRule :: behind) = ⟨warnings earlier, .error error⟩ := by
  rw [checkTables_append (by simp) sound, checkTables_of_fault (by simp) fault]
  simp

/-- Table rules that are not sound have a first fault. -/
theorem exists_tableFault (notSound : ¬ SoundTables sources rules) :
    ∃ earlier tableRule behind error, rules = earlier ++ tableRule :: behind ∧
      SoundTables sources earlier ∧ TableFault sources earlier tableRule error := by
  -- From the end, so that the table rules before the last one are a front: the fault is theirs unless
  -- they are sound, and the last one's otherwise.
  induction rules using List.reverseRecOn with
  | nil => exact absurd ⟨List.nodup_nil, by simp⟩ notSound
  | append_singleton rules last inductionHypothesis =>
    by_cases sound : SoundTables sources rules
    · by_cases repeated : Text.toLower last.logicTable ∈ lowerNames rules
      · exact ⟨rules, last, [], _, rfl, sound, .repeated repeated⟩
      cases undeclared : last.actualNodes.find? fun node => !decide (node.source ∈ sources) with
      | none =>
        have declared : ∀ node ∈ last.actualNodes, node.source ∈ sources := by
          simpa using List.find?_eq_none.mp undeclared
        exact absurd (sound.concat repeated declared) notSound
      | some node =>
        obtain ⟨notDeclared, before, behind, nodes, declared⟩ :=
          List.find?_eq_some_iff_append.mp undeclared
        exact ⟨rules, last, [], _, rfl, sound,
          .undeclared repeated nodes (by simpa using declared) (by simpa using notDeclared)⟩
    · obtain ⟨earlier, tableRule, behind, error, rfl, earlierSound, fault⟩ := inductionHypothesis sound
      exact ⟨earlier, tableRule, behind ++ [last], error, by simp, earlierSound, fault⟩

/-! ### The check of a rule -/

/-- A rule with sources for its tables is checked in three parts, and only the first one warns. -/
theorem validate_of_hasSources (hasSources : rule.dataSources = [] → rule.tableRules = []) :
    rule.validate =
      let tables := checkTables rule.dataSources [] rule.tableRules
      ⟨tables.notices, do
        tables.value
        rule.checkDefault
        rule.checkGroups⟩ := by
  have notLacking : ¬ (rule.dataSources.isEmpty && !rule.tableRules.isEmpty) = true := by
    simpa using hasSources
  rw [validate, if_neg notLacking]
  simp only [bind, pure, List.append_nil]

/-- A default source that is declared is accepted, and so is none. -/
theorem checkDefault_ok
    (declared : ∀ source, rule.defaultSource? = some source → source ∈ rule.dataSources) :
    rule.checkDefault = .ok () := by
  rw [checkDefault]
  cases isDefault : rule.defaultSource? with
  | none => rfl
  | some source => simp [declared source isDefault]

/-- The table rules of a consistent rule are sound. -/
theorem Consistent.soundTables (consistent : rule.Consistent) :
    SoundTables rule.dataSources rule.tableRules :=
  ⟨consistent.eachOnce, consistent.nodesDeclared⟩

/-- A consistent rule passes with the warnings of all its table rules. -/
theorem Consistent.validate_eq (consistent : rule.Consistent) :
    rule.validate = ⟨warnings rule.tableRules, .ok ()⟩ := by
  have noneUnruled : rule.bindingGroups.flatten.find? (fun table => !rule.isLogicTable table) = none := by
    rw [List.find?_eq_none]
    intro table isTable
    obtain ⟨group, isGroup, isIn⟩ := List.mem_flatten.mp isTable
    simp [consistent.groupsRuled group isGroup table isIn]
  rw [validate_of_hasSources consistent.hasSources, checkTables_of_sound consistent.soundTables,
    checkDefault_ok consistent.defaultDeclared, checkGroups, noneUnruled]
  rfl

/-- A rule with a fault is refused for its first one, with the warnings of the table rules before. -/
theorem FirstFault.validate_eq {sound : List TableRule} (fault : rule.FirstFault sound error) :
    rule.validate = ⟨warnings sound, .error error⟩ := by
  cases fault with
  | noSources noSources hasTables => simp [validate, noSources, hasTables, warnings, pure]
  | table hasSources tables sound fault =>
    rw [validate_of_hasSources (fun noSources => absurd noSources hasSources), tables,
      checkTables_of_first sound fault]
    rfl
  | defaultSource hasSources sound isDefault notDeclared =>
    rw [validate_of_hasSources hasSources, checkTables_of_sound sound]
    simp [checkDefault, isDefault, notDeclared, bind, Except.bind]
  | bindingTable hasSources sound defaultDeclared tables ruled notRuled =>
    rename_i before behind table
    have isFirst : rule.bindingGroups.flatten.find? (fun table => !rule.isLogicTable table) = some table :=
      List.find?_eq_some_iff_append.mpr
        ⟨by simp [notRuled], before, behind, tables, by simpa using ruled⟩
    rw [validate_of_hasSources hasSources, checkTables_of_sound sound, checkDefault_ok defaultDeclared,
      checkGroups, isFirst]
    rfl

/-- A rule is consistent or has a first fault. -/
theorem consistent_or_firstFault (rule : ShardingRule) :
    rule.Consistent ∨ ∃ sound error, rule.FirstFault sound error := by
  by_cases hasSources : rule.dataSources = [] → rule.tableRules = []
  case neg =>
    obtain ⟨noSources, hasTables⟩ := Classical.not_imp.mp hasSources
    exact .inr ⟨_, _, .noSources noSources hasTables⟩
  by_cases sound : SoundTables rule.dataSources rule.tableRules
  case neg =>
    obtain ⟨earlier, tableRule, behind, error, tables, earlierSound, fault⟩ := exists_tableFault sound
    have someSource : rule.dataSources ≠ [] := fun noSources => by simp [hasSources noSources] at tables
    exact .inr ⟨_, _, .table someSource tables earlierSound fault⟩
  by_cases declared : ∀ source, rule.defaultSource? = some source → source ∈ rule.dataSources
  case neg =>
    push Not at declared
    obtain ⟨source, isDefault, notDeclared⟩ := declared
    exact .inr ⟨_, _, .defaultSource hasSources sound isDefault notDeclared⟩
  cases unruled : rule.bindingGroups.flatten.find? fun table => !rule.isLogicTable table with
  | none =>
    refine .inl ⟨hasSources, sound.eachOnce, sound.nodesDeclared, declared, ?_⟩
    intro group isGroup table isTable
    simpa using List.find?_eq_none.mp unruled table (List.mem_flatten.mpr ⟨group, isGroup, isTable⟩)
  | some table =>
    obtain ⟨notRuled, before, behind, tables, ruled⟩ := List.find?_eq_some_iff_append.mp unruled
    exact .inr ⟨_, _, .bindingTable hasSources sound declared tables (by simpa using ruled)
      (by simpa using notRuled)⟩

/-- A rule passes its check when it is consistent. -/
theorem validate_ok_iff : rule.validate.value = .ok () ↔ rule.Consistent := by
  constructor
  · intro accepted
    rcases rule.consistent_or_firstFault with consistent | ⟨sound, error, fault⟩
    · exact consistent
    · rw [fault.validate_eq] at accepted
      cases accepted
  · intro consistent
    rw [consistent.validate_eq]

/-- A rule passes just when it is consistent, and is refused for its first fault otherwise. The warnings
are about the table rules that were found sound in full before that. -/
theorem validate_reports_first_fault (rule : ShardingRule) :
    (∀ notices, rule.validate = ⟨notices, .ok ()⟩ ↔
      rule.Consistent ∧ notices = warnings rule.tableRules) ∧
    ∀ notices error, rule.validate = ⟨notices, .error error⟩ ↔
      ∃ sound, rule.FirstFault sound error ∧ notices = warnings sound := by
  constructor
  · intro notices
    constructor
    · intro accepted
      have consistent : rule.Consistent := validate_ok_iff.mp (by rw [accepted])
      rw [consistent.validate_eq, Logged.mk.injEq] at accepted
      exact ⟨consistent, accepted.1.symm⟩
    · rintro ⟨consistent, rfl⟩
      exact consistent.validate_eq
  · intro notices error
    constructor
    · intro refused
      rcases rule.consistent_or_firstFault with consistent | ⟨sound, first, fault⟩
      · rw [consistent.validate_eq, Logged.mk.injEq] at refused
        cases refused.2
      · rw [fault.validate_eq, Logged.mk.injEq] at refused
        obtain rfl : first = error := Except.error.inj refused.2
        exact ⟨sound, fault, refused.1.symm⟩
    · rintro ⟨sound, fault, rfl⟩
      exact fault.validate_eq

-- Of many faults the first counts, and what stands behind it is not even warned of.
example : validate {
    dataSources := ["ds"]
    defaultSource? := some "nowhere"
    tableRules := [{ logicTable := "t_order" },
      { logicTable := "T_ORDER", actualNodes := [⟨"nowhere", "t_order"⟩] }]
    bindingGroups := [["t_order", "t_item"]] } =
      ⟨[.noShardingColumns "t_order"], .error (.duplicateTable "T_ORDER")⟩ := by
  decide +kernel

end SqlSharding.ShardingRule
