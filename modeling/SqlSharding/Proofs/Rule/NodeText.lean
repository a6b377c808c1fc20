import SqlSharding.Proofs.Rule.Loading

/-!
# Data nodes that survive their text

A data node of a rule that was put together in code may hold any two texts. Its own text is read back as
the node just when neither part is empty or has a dot and no blank stands at an end. A rule passes its
check with other nodes as well, but only a rule with such nodes is loaded again from what is written of
it.
-/

namespace SqlSharding

namespace DataNode

/-- The parts of the node are not empty and have no dot, and its text has no blank at either end. -/
structure IsPlain (node : DataNode) : Prop where
  hasSource : node.source.toList ≠ []
  hasTable : node.table.toList ≠ []
  sourceDotless : '.' ∉ node.source.toList
  tableDotless : '.' ∉ node.table.toList
  beginsPlain : ∀ c ∈ node.source.toList.head?, Text.isBlank c = false
  endsPlain : ∀ c ∈ node.table.toList.getLast?, Text.isBlank c = false

/-- A node is read back from its text exactly if the text splits into its source and its table. -/
theorem isRestored_iff_split? {node : DataNode} : node.IsRestored ↔
    split? (Text.trimChars node.render.toList) = some (node.source.toList, node.table.toList) := by
  rw [IsRestored, ofText?, Option.map_eq_some_iff]
  constructor
  · rintro ⟨⟨source, table⟩, isSplit, isNode⟩
    rw [isSplit, ← isNode, String.toList_ofList, String.toList_ofList]
  · intro isSplit
    exact ⟨_, isSplit, by simp⟩

/-- The nodes that survive their text are the plain ones. -/
theorem isRestored_iff_isPlain {node : DataNode} : node.IsRestored ↔ node.IsPlain := by
  have rendered : node.render.toList = node.source.toList ++ '.' :: node.table.toList := by
    simp [render]
  have front (hasSource : node.source.toList ≠ []) :
      node.render.toList.head? = node.source.toList.head? := by
    rw [rendered, List.head?_append_of_ne_nil _ hasSource]
  have behind (hasTable : node.table.toList ≠ []) :
      node.render.toList.getLast? = node.table.toList.getLast? := by
    rw [rendered, List.getLast?_append_of_ne_nil _ (List.cons_ne_nil _ _),
      List.getLast?_cons_of_ne_nil hasTable]
  rw [isRestored_iff_split?, split?_eq_some_iff, ← rendered, Text.trimChars_eq_self_iff]
  constructor
  · rintro ⟨⟨beginsPlain, endsPlain⟩, hasSource, hasTable, sourceDotless, tableDotless⟩
    rw [front hasSource] at beginsPlain
    rw [behind hasTable] at endsPlain
    exact ⟨hasSource, hasTable, sourceDotless, tableDotless, beginsPlain, endsPlain⟩
  · rintro ⟨hasSource, hasTable, sourceDotless, tableDotless, beginsPlain, endsPlain⟩
    rw [← front hasSource] at beginsPlain
    rw [← behind hasTable] at endsPlain
    exact ⟨⟨beginsPlain, endsPlain⟩, hasSource, hasTable, sourceDotless, tableDotless⟩

end DataNode

namespace ShardingRule

/-- A rule is built as it is exactly if its check accepts it. -/
theorem build_ok_iff {rule : ShardingRule} :
    rule.build.value = .ok rule ↔ rule.validate.value = .ok () := by
  rw [build, Logged.value_bind, Logged.value_pure]
  cases rule.validate.value with
  | ok => simp [Except.map]
  | error cause => simp [Except.map]

/-- A data node is read back from its text just when it is plain. A rule is loaded again from what is
written of it just when it can be built and all its data nodes are plain. -/
theorem load_toJson_iff_isPlain (rule : ShardingRule) :
    (∀ node : DataNode, DataNode.ofText? node.render = some node ↔ node.IsPlain) ∧
      ((load rule.toJson).value = .ok rule ↔ rule.build.value = .ok rule ∧
        ∀ tableRule ∈ rule.tableRules, ∀ node ∈ tableRule.actualNodes, node.IsPlain) := by
  have restored : rule.IsRestored ↔
      ∀ tableRule ∈ rule.tableRules, ∀ node ∈ tableRule.actualNodes, node.IsPlain := by
    simp only [IsRestored, TableRule.IsRestored, DataNode.isRestored_iff_isPlain]
  refine ⟨fun node => DataNode.isRestored_iff_isPlain, ?_⟩
  rw [← restored, build_ok_iff]
  constructor
  · intro loaded
    have isRead := ofJson_of_load loaded
    rw [load_of_ofJson isRead] at loaded
    refine ⟨?_, isRestored_of_ofJson isRead⟩
    cases checked : rule.validate.value with
    | ok => rfl
    | error cause =>
      simp only [checked] at loaded
      cases loaded
  · rintro ⟨accepted, isRestored⟩
    rw [load_of_ofJson (ofJson_toJson isRestored), accepted]
    rfl

/-- A rule is built with a table that has a dot, which is not read back, and with a table that ends in a
blank, which is read back as another one. Neither rule is loaded again. -/
theorem exists_node_not_restored :
    let withNode (node : DataNode) : ShardingRule :=
      { dataSources := ["ds"], tableRules := [{ logicTable := "t", actualNodes := [node] }] }
    let dotted : DataNode := ⟨"ds", "a.b"⟩
    let blank : DataNode := ⟨"ds", "t "⟩
    ((withNode dotted).build.value = .ok (withNode dotted) ∧ DataNode.ofText? dotted.render = none ∧
      (load (withNode dotted).toJson).value ≠ .ok (withNode dotted)) ∧
    (withNode blank).build.value = .ok (withNode blank) ∧
      DataNode.ofText? blank.render = some ⟨"ds", "t"⟩ ∧
        (load (withNode blank).toJson).value ≠ .ok (withNode blank) := by
  intro withNode dotted blank
  have notLoaded {node : DataNode} (notRestored : DataNode.ofText? node.render ≠ some node) :
      (load (withNode node).toJson).value ≠ .ok (withNode node) := by
    intro loaded
    have isRestored := isRestored_of_ofJson (ofJson_of_load loaded) _ List.mem_cons_self
    exact notRestored (isRestored node List.mem_cons_self)
  refine ⟨⟨?_, ?_, notLoaded ?_⟩, ?_, ?_, notLoaded ?_⟩
  all_goals decide +kernel

end ShardingRule

end SqlSharding
