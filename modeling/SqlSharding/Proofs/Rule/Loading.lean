import SqlSharding.Proofs.Json.Reader
import SqlSharding.Proofs.Json.Result
import SqlSharding.Proofs.Trimming
import SqlSharding.Rule.Validation

/-!
# Sharding rules, written and loaded

A rule whose data nodes are read back from their text is read back from JSON. The data nodes of a rule
that was loaded come from texts themselves, so a loaded rule is loaded again from what is written of
it, with the same warnings.
-/

namespace SqlSharding

open Json

namespace DataNode

/-- A text is split at its only dot, with something on either side. -/
theorem split?_eq_some_iff {characters source table : List Char} :
    split? characters = some (source, table) ↔ characters = source ++ '.' :: table ∧
      source ≠ [] ∧ table ≠ [] ∧ '.' ∉ source ∧ '.' ∉ table := by
  constructor
  · intro isSplit
    have whole := @List.takeWhile_append_dropWhile _ (· != '.') characters
    have dotless : '.' ∉ characters.takeWhile (· != '.') := fun isIn => by
      simpa using List.mem_takeWhile_imp isIn
    unfold split? at isSplit
    split at isSplit
    · cases isSplit
    · rename_i c rest dropped
      have notAccepted := List.head?_dropWhile_not (· != '.') characters
      rw [dropped] at notAccepted whole
      have isDot : c = '.' := by simpa using notAccepted
      dsimp only at isSplit
      split at isSplit
      · cases isSplit
      · rename_i apart
        obtain ⟨rfl, rfl⟩ := Prod.mk.inj (Option.some.inj isSplit)
        rw [isDot] at whole
        exact ⟨whole.symm, by simpa [not_or, dotless, and_assoc] using apart⟩
  · rintro ⟨rfl, hasSource, hasTable, sourceDotless, tableDotless⟩
    have beforeDot : ∀ c ∈ source, (c != '.') = true := by
      intro c isIn
      rw [bne_iff_ne]
      rintro rfl
      exact sourceDotless isIn
    have taken : (source ++ '.' :: table).takeWhile (· != '.') = source := by
      rw [List.takeWhile_append_of_pos beforeDot]
      simp
    have dropped : (source ++ '.' :: table).dropWhile (· != '.') = '.' :: table := by
      rw [List.dropWhile_append_of_pos beforeDot]
      simp
    simp [split?, taken, dropped, hasSource, hasTable, tableDotless]

/-- The node is read back from its text. -/
def IsRestored (node : DataNode) : Prop :=
  ofText? node.render = some node

/-- A node that comes from a text is read back from its own text, which is the trimmed one. -/
theorem isRestored_of_ofText? {text : String} {node : DataNode} (isRead : ofText? text = some node) :
    node.IsRestored := by
  obtain ⟨⟨source, table⟩, isSplit, rfl⟩ := Option.map_eq_some_iff.mp isRead
  have rendered : (render ⟨String.ofList source, String.ofList table⟩).toList =
      Text.trimChars text.toList := by
    rw [(split?_eq_some_iff.mp isSplit).1]
    simp [render]
  rw [IsRestored, ofText?, rendered, Text.trimChars_trimChars]
  exact isRead

/-- A data node that is read is read back from its own text. -/
theorem reader_gives : Reader.Gives DataNode.reader IsRestored := by
  refine Reader.Gives.checked fun text node passes => ?_
  split at passes
  · rename_i node' isRead
    obtain rfl := Except.ok.inj passes
    exact isRestored_of_ofText? isRead
  · cases passes

/-- A data node is read where its text is written, if it is read back from that text. -/
theorem reader_takes {node : DataNode} (isRestored : node.IsRestored) :
    Reader.Takes DataNode.reader (Writer.text node.render) node := by
  refine (Reader.Takes.text _).checked ?_
  rw [isRestored]

end DataNode

open Reader

/-- A list of texts is read back. -/
theorem texts_takes (values : List String) :
    Takes Reader.texts (Writer.list (values.map Writer.text)) values :=
  Takes.list fun value _ => Takes.text value

namespace TableRule

/-- All data nodes of the rule are read back from their texts. -/
def IsRestored (rule : TableRule) : Prop :=
  ∀ node ∈ rule.actualNodes, node.IsRestored

/-- A table rule is read back from what is written of it, if its data nodes are read back. -/
theorem reader_takes {rule : TableRule} (isRestored : rule.IsRestored) :
    Takes TableRule.reader rule.json rule := by
  have nodes : Takes (Reader.list DataNode.reader)
      (Writer.list (rule.actualNodes.map fun node => Writer.text node.render)) rule.actualNodes :=
    Takes.list fun node isIn => DataNode.reader_takes (isRestored node isIn)
  have fills : Fills fields {} [
      ("logic_table", Writer.text rule.logicTable),
      ("actual_data_nodes", Writer.list (rule.actualNodes.map fun node => Writer.text node.render)),
      ("database_sharding_columns", Writer.list (rule.databaseColumns.map Writer.text)),
      ("table_sharding_columns", Writer.list (rule.tableColumns.map Writer.text)),
      ("generate_key_column", Writer.text? rule.generatedColumn?)]
      ⟨some rule.logicTable, some rule.actualNodes, some rule.databaseColumns,
        some rule.tableColumns, some rule.generatedColumn?⟩ :=
    .cons _ rfl rfl ((Takes.text _).bind fun _ => rfl) <|
    .cons _ rfl rfl (nodes.bind fun _ => rfl) <|
    .cons _ rfl rfl ((texts_takes _).bind fun _ => rfl) <|
    .cons _ rfl rfl ((texts_takes _).bind fun _ => rfl) <|
    .cons _ rfl rfl ((Takes.text? _).bind fun _ => rfl) .nil
  exact Takes.record fills rfl

/-- The data nodes that have been read so far come from texts. -/
def Draft.IsRestored (draft : Draft) : Prop :=
  ∀ nodes ∈ draft.actualNodes?, ∀ node ∈ nodes, node.IsRestored

/-- A table rule that is read has data nodes that are read back from their texts. -/
theorem reader_gives : Gives TableRule.reader IsRestored := by
  have blank : Draft.IsRestored {} := by simp [Draft.IsRestored]
  refine Gives.record blank ?_ ?_
  · -- Only the second field reads data nodes; the others leave those that have been read.
    simp only [fields, List.forall_mem_cons, List.not_mem_nil, false_implies, implies_true, and_true]
    refine ⟨fun draft before => .bind fun _ => .pure before, fun draft before => ?_,
      fun draft before => .bind fun _ => .pure before,
      fun draft before => .bind fun _ => .pure before,
      fun draft before => .bind fun _ => .pure before⟩
    exact (Gives.list DataNode.reader_gives).bind_of fun nodes areRestored =>
      .pure fun _ isRead => Option.some.inj isRead ▸ areRestored
  · intro layout draft rule isRestored completed node isIn
    unfold ofDraft at completed
    split at completed
    · obtain rfl := Except.ok.inj completed
      cases isRead : draft.actualNodes? with
      | none => simp [isRead] at isIn
      | some nodes => exact isRestored nodes isRead node (by simpa [isRead] using isIn)
    · cases layout <;> cases completed

end TableRule

namespace ShardingRule

/-- All data nodes of the rule are read back from their texts. -/
def IsRestored (rule : ShardingRule) : Prop :=
  ∀ tableRule ∈ rule.tableRules, tableRule.IsRestored

/-- A sharding rule is read back from what is written of it, if its data nodes are read back. -/
theorem reader_takes {rule : ShardingRule} (isRestored : rule.IsRestored) :
    Takes ShardingRule.reader rule.json rule := by
  have tableRules : Takes (Reader.list TableRule.reader)
      (Writer.list (rule.tableRules.map TableRule.json)) rule.tableRules :=
    Takes.list fun tableRule isIn => TableRule.reader_takes (isRestored tableRule isIn)
  have groups : Takes (Reader.list Reader.texts)
      (Writer.list (rule.bindingGroups.map fun group => Writer.list (group.map Writer.text)))
      rule.bindingGroups :=
    Takes.list fun group _ => texts_takes group
  have fills : Fills fields {} [
      ("data_sources", Writer.list (rule.dataSources.map Writer.text)),
      ("default_data_source", Writer.text? rule.defaultSource?),
      ("table_rules", Writer.list (rule.tableRules.map TableRule.json)),
      ("binding_table_groups",
        Writer.list (rule.bindingGroups.map fun group => Writer.list (group.map Writer.text)))]
      ⟨some rule.dataSources, some rule.defaultSource?, some rule.tableRules,
        some rule.bindingGroups⟩ :=
    .cons _ rfl rfl ((texts_takes _).bind fun _ => rfl) <|
    .cons _ rfl rfl ((Takes.text? _).bind fun _ => rfl) <|
    .cons _ rfl rfl (tableRules.bind fun _ => rfl) <|
    .cons _ rfl rfl (groups.bind fun _ => rfl) .nil
  exact Takes.record fills rfl

/-- A rule whose data nodes are read back from their texts is read back from JSON. -/
theorem ofJson_toJson {rule : ShardingRule} (isRestored : rule.IsRestored) :
    ofJson rule.toJson = .ok rule :=
  (reader_takes isRestored).run_ofList

/-- The table rules that have been read so far have data nodes that come from texts. -/
def Draft.IsRestored (draft : Draft) : Prop :=
  ∀ rules ∈ draft.tableRules?, ∀ rule ∈ rules, rule.IsRestored

/-- A sharding rule that is read has data nodes that are read back from their texts. -/
theorem reader_gives : Gives ShardingRule.reader IsRestored := by
  have blank : Draft.IsRestored {} := by simp [Draft.IsRestored]
  refine Gives.record blank ?_ ?_
  · -- Only the third field reads table rules; the others leave those that have been read.
    simp only [fields, List.forall_mem_cons, List.not_mem_nil, false_implies, implies_true, and_true]
    refine ⟨fun draft before => .bind fun _ => .pure before,
      fun draft before => .bind fun _ => .pure before, fun draft before => ?_,
      fun draft before => .bind fun _ => .pure before⟩
    exact (Gives.list TableRule.reader_gives).bind_of fun rules areRestored =>
      .pure fun _ isRead => Option.some.inj isRead ▸ areRestored
  · intro layout draft rule isRestored completed tableRule isIn
    obtain rfl := Except.ok.inj completed
    cases isRead : draft.tableRules? with
    | none => simp [ofDraft, isRead] at isIn
    | some rules => exact isRestored rules isRead tableRule (by simpa [ofDraft, isRead] using isIn)

/-- The data nodes of a rule that is read from JSON are read back from their texts. -/
theorem isRestored_of_ofJson {text : String} {rule : ShardingRule} (isRead : ofJson text = .ok rule) :
    rule.IsRestored :=
  reader_gives.run isRead

/-- Loading a text that is read as a rule is checking the rule. -/
theorem load_of_ofJson {text : String} {rule : ShardingRule} (isRead : ofJson text = .ok rule) :
    load text =
      ⟨rule.validate.notices, (rule.validate.value.map fun _ => rule).mapError .inconsistent⟩ := by
  simp [load, isRead, build, bind, pure]

/-- A rule that is loaded is one that is read from JSON. -/
theorem ofJson_of_load {text : String} {rule : ShardingRule}
    (loaded : (load text).value = .ok rule) : ofJson text = .ok rule := by
  cases isRead : ofJson text with
  | error fault =>
    simp only [load, isRead] at loaded
    cases loaded
  | ok read =>
    rw [load_of_ofJson isRead] at loaded
    cases checked : read.validate.value with
    | error cause =>
      simp only [checked] at loaded
      cases loaded
    | ok =>
      simp only [checked] at loaded
      exact congrArg Except.ok (Except.ok.inj loaded)

/-- A loaded rule is loaded again from its written form, with the same warnings. -/
theorem load_toJson_of_load {text : String} {rule : ShardingRule}
    (loaded : (load text).value = .ok rule) :
    load rule.toJson = ⟨(load text).notices, .ok rule⟩ := by
  have isRead := ofJson_of_load loaded
  have readAgain := ofJson_toJson (isRestored_of_ofJson isRead)
  have same : load rule.toJson = load text := by
    rw [load_of_ofJson readAgain, load_of_ofJson isRead]
  rw [same, ← loaded]

/-- Strings with escapes, and a data node with blanks around it and within. The table has no sharding
columns, which is warned of both times. -/
theorem load_toJson_of_load_escapes :
    let text := "\x7b\"data_sources\": [\"d\\u0001\\n\\\"é\\\\\"], \"table_rules\": [\x7b" ++
      "\"actual_data_nodes\": [\" \\td\\u0001\\n\\\"é\\\\. x\\ty \"], \"logic_table\": \"T\"\x7d]\x7d"
    let rule : ShardingRule := {
      dataSources := ["d\x01\n\"é\\"]
      tableRules := [{ logicTable := "T", actualNodes := [⟨"d\x01\n\"é\\", " x\ty"⟩] }] }
    (load text).value = .ok rule ∧ load rule.toJson = ⟨[.noShardingColumns "T"], .ok rule⟩ := by
  intro text rule
  have loaded : (load text).value = .ok rule := by decide +kernel
  have warned : (load text).notices = [.noShardingColumns "T"] := by decide +kernel
  have again := load_toJson_of_load loaded
  rw [warned] at again
  exact ⟨loaded, again⟩

end ShardingRule

end SqlSharding
