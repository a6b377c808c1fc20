import SqlSharding.Proofs.Passage.Items
import SqlSharding.Proofs.Passage.Words
import SqlSharding.Proofs.Unread

/-!
# Columns by assignments

An insertion names its columns in a list between parentheses or, in some grammars, by assignments. The
value that is assigned is skipped up to the comma before the next assignment or to the end of all
assignments, so both ways of writing the same columns are read to the same statement.
-/

namespace SqlSharding

/-- The tokens outside of groups that end a value. -/
def valueEnds : List Kind := [.symbol .comma, .symbol .semicolon, .reserved .ON]

/-- The assignment of a value to a column. The value is made of groups and of tokens none of which ends
it. -/
inductive Assignment : List Token → (column : String) → Prop
  | mk {name value : List Token} {last equals : Token} {endsInDot : Bool}
      (isName : DottedName name last) (isEquals : equals.kind = .symbol .equals)
      (isValue : Run (fun _ kind => valueEnds.contains kind) false value endsInDot) :
      Assignment (name ++ equals :: value) (unquote last.text)

namespace Reading

open Cursor

variable {before after : Cursor} {columns : List String}

/-- Every assignment in a list is read. -/
theorem readsEvery_assignment :
    ReadsEvery assignment Assignment (fun kind => kind = .endOfText ∨ kind ∈ valueEnds) id := by
  intro before after tokens column settled passed isAssignment follows
  obtain @⟨name, value, last, equals, endsInDot, isName, isEquals, isValue⟩ := isAssignment
  obtain ⟨atEquals, toEquals, onward⟩ := passed.split
  obtain ⟨atValue, pastEquals, onward⟩ := onward.uncons
  have notDot : atEquals.current.kind ≠ .symbol .dot := by
    rw [pastEquals.current_eq, isEquals]
    nofun
  have named := (columnName_ok_iff settled).mpr ⟨name, last, toEquals, isName, notDot, rfl⟩
  replace settled := toEquals.settled settled
  have accepted := accept_of_passes settled (by simp) isEquals pastEquals
  have skipped : skipAssignedValue atValue = .ok () after := by
    refine skipItems_of_run (pastEquals.settled settled) isValue onward ?_
    simpa [valueEnds] using follows
  exact bind_ok_iff.mpr ⟨_, _, named, bind_ok_iff.mpr ⟨_, _, discard_ok_iff.mpr ⟨_, accepted⟩,
    bind_ok_iff.mpr ⟨_, _, skipped, rfl⟩⟩⟩

/-- The columns are read from assignments up to the token that ends the last one. -/
theorem assignedColumns_of_passes (settled : before.Settled) {list : List Token}
    (isList : Separated Assignment list columns) (passed : before.Passes list after)
    (ends : after.current.kind ∈ [.endOfText, .symbol .semicolon, .reserved .ON]) :
    assignedColumns before = .ok columns after := by
  have follows : after.current.kind = .endOfText ∨ after.current.kind ∈ valueEnds := by
    simp only [valueEnds, List.mem_cons, List.not_mem_nil, or_false] at ends ⊢
    exact ends.imp_right .inr
  have notComma : after.current.kind ≠ .symbol .comma := by
    intro onComma
    simp [onComma] at ends
  have beforeComma : Kind.symbol .comma = .endOfText ∨ Kind.symbol .comma ∈ valueEnds := by
    simp [valueEnds]
  rw [assignedColumns_eq, items_of_passes proceeds_assignment readsEvery_assignment beforeComma settled
    isList passed follows notComma, List.map_id]

/-- Columns between parentheses are the columns of the insertion. -/
theorem insertColumns_of_group {grammar : Grammar} (settled : before.Settled) {group : List Token}
    (isGroup : ColumnGroup group columns) (passed : before.Passes group after) :
    insertColumns grammar before = .ok columns after := by
  have isOpen : before.isOn [.symbol .leftParen] = true := by
    obtain ⟨opens, -, -, -⟩ := isGroup
    simp [isOn_iff, passed.current_eq, opens]
  rw [insertColumns, isOn_bind, if_pos isOpen]
  exact (columnList_ok_iff settled).mpr ⟨group, passed, isGroup⟩

/-- Columns that are assigned to behind `SET` are the columns of the insertion, in the grammars that
allow it. -/
theorem insertColumns_of_assignments {grammar : Grammar} (hasAssignments : grammar.insertSetClause = true)
    (settled : before.Settled) {set : Token} {list : List Token} (isSet : set.kind = .reserved .SET)
    (isList : Separated Assignment list columns) (passed : before.Passes (set :: list) after)
    (ends : after.current.kind ∈ [.endOfText, .symbol .semicolon, .reserved .ON]) :
    insertColumns grammar before = .ok columns after := by
  obtain ⟨atList, pastSet, onward⟩ := passed.uncons
  have notOpen : ¬before.isOn [.symbol .leftParen] = true := by
    simp [isOn_iff, pastSet.current_eq, isSet]
  have skipped := (skipIfWord_ok_iff settled).mpr (.inl ⟨rfl, set, pastSet, isSet⟩)
  rw [insertColumns, isOn_bind, if_neg notOpen, if_pos hasAssignments, bind_of_ok skipped, if_pos rfl]
  exact assignedColumns_of_passes (pastSet.settled settled) isList onward ends

/-- The two words before the table of an insertion are passed. -/
theorem insertOpening_of_passes (settled : before.Settled) {opening : List Token}
    (areWords : opening.map (·.kind) = [.reserved .INSERT, .reserved .INTO])
    (passed : before.Passes opening after) : Family.insert.opening .mySQL before = .ok () after := by
  obtain ⟨onInsert, others, rfl, isInsert, areWords⟩ := List.map_eq_cons_iff.mp areWords
  obtain ⟨onInto, rfl, isInto⟩ := List.map_eq_singleton_iff.mp areWords
  obtain ⟨atInto, toInto, pastInto⟩ := passed.uncons
  have accepted := (acceptWord_ok_iff settled).mpr ⟨onInsert, toInto, isInsert⟩
  replace settled := toInto.settled settled
  have modifiers : Grammar.skipInsertModifiers .mySQL atInto = .ok () atInto := by
    refine skipAll_of_passes settled (by simp) (.refl _) nofun ?_
    simp [pastInto.current_eq, isInto]
  have skipped := (skipIfWord_ok_iff settled).mpr (.inl ⟨rfl, onInto, pastInto, isInto⟩)
  exact bind_ok_iff.mpr ⟨_, _, accepted, bind_ok_iff.mpr ⟨_, _, modifiers,
    discard_ok_iff.mpr ⟨_, skipped⟩⟩⟩

variable {dialect : Dialect} {rule : ShardingRule} {text : String}

/-- An insertion is parsed to its table and to the columns that are read behind the name. -/
theorem parse_of_insertColumns (grammar_eq : dialect.grammar = .mySQL)
    {opening name written rest : List Token} {last next : Token}
    (areWords : opening.map (·.kind) = [.reserved .INSERT, .reserved .INTO])
    (isName : DottedName name last) (notDot : kindAhead written next.kind ≠ .symbol .dot)
    (whole : (Tape.ofText dialect text).tokens = opening ++ (name ++ (written ++ next :: rest)))
    (clean : (Tape.ofText dialect text).isClean = true)
    (read : ∀ before after : Cursor, before.Settled → before.Passes written after →
      after.current = next → insertColumns .mySQL before = .ok columns after) :
    parse dialect rule text = .ok ⟨.insert, ⟨[⟨last.mark.name, []⟩]⟩, [last.mark], columns,
      generatedKey? rule last.mark.name columns⟩ := by
  have moves : Moves (· ∉ leadingKinds) (insertTarget dialect.grammar) :=
    .bind (moves_of_steps steps_plainTable) fun _ => .bind (moves_insertColumns _) fun _ => .pure _
  have reaches : ReachesEnd (next :: rest) := by
    rw [← List.append_assoc, ← List.append_assoc] at whole
    exact reachesEnd_of_clean clean whole
  obtain ⟨start, begins⟩ := @exists_begins dialect text (by simp [whole])
  have tokens : start.tokens = (opening ++ (name ++ written)) ++ next :: rest := by
    rw [begins.tokens, whole]
    simp only [List.append_assoc]
  obtain ⟨behind, passed, rfl, rfl⟩ := exists_passes tokens
  obtain ⟨atTarget, toTarget, onward⟩ := passed.split
  obtain ⟨atColumns, toColumns, toBehind⟩ := onward.split
  have opened : Family.insert.opening dialect.grammar start = .ok () atTarget := by
    rw [grammar_eq]
    exact insertOpening_of_passes begins.settled areWords toTarget
  have settled := toTarget.settled begins.settled
  have listed : insertColumns dialect.grammar atColumns = .ok columns behind := by
    rw [grammar_eq]
    exact read _ _ (toColumns.settled settled) toBehind rfl
  rw [← toBehind.kindAhead] at notDot
  have target := (insertTarget_ok_iff settled).mpr
    ⟨name, last, atColumns, columns, toColumns, isName, notDot, listed, rfl⟩
  exact ((parse_iff_of_skipped .insert moves (insertOutline_eq_target dialect.grammar)).mpr
    ⟨start, atTarget, behind, _, begins, opened, target, reaches, rfl⟩).1

/-- An insertion whose columns are named in a list between parentheses, and one whose columns are named
by assignments, are parsed to the same statement: the values between the columns, and what follows the
last one, make no difference. The generated key is supplied just if its column is among the columns. -/
theorem parse_list_eq_assignments (isOne : dialect = .mySQL ∨ dialect = .h2)
    {listText assignedText : String} {opening name group list rows rest : List Token}
    {last values set next : Token}
    (areWords : opening.map (·.kind) = [.reserved .INSERT, .reserved .INTO])
    (isName : DottedName name last) (isGroup : ColumnGroup group columns)
    (isSet : set.kind = .reserved .SET) (isList : Separated Assignment list columns)
    (ends : next.kind ∈ [.endOfText, .symbol .semicolon, .reserved .ON])
    (listTokens : (Tape.ofText dialect listText).tokens =
      opening ++ (name ++ (group ++ values :: rows)))
    (assignedTokens : (Tape.ofText dialect assignedText).tokens =
      opening ++ (name ++ (set :: list ++ next :: rest)))
    (listClean : (Tape.ofText dialect listText).isClean = true)
    (assignedClean : (Tape.ofText dialect assignedText).isClean = true) :
    ∃ statement : Statement,
      parse dialect rule listText = .ok statement ∧ parse dialect rule assignedText = .ok statement ∧
        statement.family = .insert ∧ statement.tables = ⟨[⟨last.mark.name, []⟩]⟩ ∧
        statement.marks = [last.mark] ∧ statement.insertColumns = columns ∧
        statement.generatedKey?.map (·.column) = rule.generatedColumn? last.mark.name ∧
        ∀ key, statement.generatedKey? = some key →
          (key.isSupplied = true ↔ ∃ column ∈ columns, Text.sameName column key.column = true) := by
  have grammar_eq : dialect.grammar = .mySQL := by
    rcases isOne with rfl | rfl <;> rfl
  have listed : parse dialect rule listText = .ok ⟨.insert, ⟨[⟨last.mark.name, []⟩]⟩, [last.mark],
      columns, generatedKey? rule last.mark.name columns⟩ := by
    refine parse_of_insertColumns grammar_eq areWords isName ?_ listTokens listClean
      fun before after settled passed _ => insertColumns_of_group settled isGroup passed
    obtain ⟨opens, -, -, -⟩ := isGroup
    simp [kindAhead, opens]
  have assigned : parse dialect rule assignedText = .ok ⟨.insert, ⟨[⟨last.mark.name, []⟩]⟩, [last.mark],
      columns, generatedKey? rule last.mark.name columns⟩ := by
    refine parse_of_insertColumns grammar_eq areWords isName ?_ assignedTokens assignedClean
      fun before after settled passed onNext => ?_
    · simp [kindAhead, isSet]
    · exact insertColumns_of_assignments rfl settled isSet isList passed (onNext ▸ ends)
  have notEmpty : columns ≠ [] := by
    obtain ⟨-, -⟩ := isList
    exact List.cons_ne_nil _ _
  refine ⟨_, listed, assigned, rfl, rfl, rfl, rfl, ?_, fun key isKey => ?_⟩
  · simp [generatedKey?, Function.comp_def]
  · rw [isSupplied_of_generatedKey? isKey, or_iff_right notEmpty]

/-- A value with a comma between its parentheses, and a rest with a comma behind the assignments. -/
theorem parse_list_eq_assignments_update :
    let listText := "INSERT INTO t_order (a, o.`Order_ID`) VALUES (f(1, 2), 3)"
    let assignedText :=
      "INSERT INTO t_order SET a = f(1, 2), o.`Order_ID` = 3 ON DUPLICATE KEY UPDATE b = 4, c = 5"
    let rule : ShardingRule :=
      { tableRules := [{ logicTable := "T_ORDER", generatedColumn? := some "order_id" }] }
    let statement : Statement :=
      ⟨.insert, ⟨[⟨"t_order", []⟩]⟩, [⟨12, "t_order"⟩], ["a", "Order_ID"], some ⟨"order_id", true⟩⟩
    parse .mySQL rule listText = .ok statement ∧ parse .mySQL rule assignedText = .ok statement := by
  intro listText assignedText rule statement
  let last : Token := ⟨.literal .identifier, "t_order", 12, 19⟩
  let qualifier (place : Nat) : Token := ⟨.literal .identifier, "o", place, place + 1⟩
  let dot (place : Nat) : Token := ⟨.symbol .dot, ".", place, place + 1⟩
  let first (place : Nat) : Token := ⟨.literal .identifier, "a", place, place + 1⟩
  let second (place : Nat) : Token := ⟨.literal .identifier, "`Order_ID`", place, place + 10⟩
  have isSecond (place qualified : Nat) :
      DottedName [qualifier place, dot (place + 1), second qualified] (second qualified) :=
    .mk rfl (.part rfl rfl .nil)
  have isGroup : ColumnGroup
      (⟨.symbol .leftParen, "(", 20, 21⟩ :: ([first 21] ++ (⟨.symbol .comma, ",", 22, 23⟩ ::
        ([qualifier 24, dot 25, second 26] ++ []) ++ [⟨.symbol .rightParen, ")", 36, 37⟩])))
      [unquote "a", unquote "`Order_ID`"] :=
    .mk rfl (.mk rfl .nil) (.column rfl (isSecond 24 26) .nil) rfl
  have isCall : Group [⟨.symbol .leftParen, "(", 29, 30⟩, ⟨.literal .int, "1", 30, 31⟩,
      ⟨.symbol .comma, ",", 31, 32⟩, ⟨.literal .int, "2", 33, 34⟩, ⟨.symbol .rightParen, ")", 34, 35⟩] :=
    @Group.mk _ _ [⟨.literal .int, "1", 30, 31⟩, ⟨.symbol .comma, ",", 31, 32⟩,
      ⟨.literal .int, "2", 33, 34⟩] rfl (balanced_of_forall (by simp)) rfl
  have isList : Separated Assignment
      (([first 24] ++ ⟨.symbol .equals, "=", 26, 27⟩ :: ⟨.literal .identifier, "f", 28, 29⟩ ::
          ([⟨.symbol .leftParen, "(", 29, 30⟩, ⟨.literal .int, "1", 30, 31⟩,
            ⟨.symbol .comma, ",", 31, 32⟩, ⟨.literal .int, "2", 33, 34⟩,
            ⟨.symbol .rightParen, ")", 34, 35⟩] ++ [])) ++
        ⟨.symbol .comma, ",", 35, 36⟩ :: (([qualifier 37, dot 38, second 39] ++
          ⟨.symbol .equals, "=", 50, 51⟩ :: [⟨.literal .int, "3", 52, 53⟩]) ++ []))
      [unquote "a", unquote "`Order_ID`"] :=
    .mk (.mk (.mk rfl .nil) rfl (.token nofun nofun rfl (.group isCall rfl .nil)))
      (.item rfl (.mk (isSecond 37 39) rfl (.token nofun nofun rfl .nil)) .nil)
  obtain ⟨found, listed, assigned, -⟩ := @parse_list_eq_assignments _ .mySQL rule (.inl rfl) listText
    assignedText [⟨.reserved .INSERT, "INSERT", 0, 6⟩, ⟨.reserved .INTO, "INTO", 7, 11⟩] [last] _ _
    ((Tape.ofText .mySQL listText).tokens.drop 11) ((Tape.ofText .mySQL assignedText).tokens.drop 19)
    last ⟨.reserved .VALUES, "VALUES", 38, 44⟩ ⟨.reserved .SET, "SET", 20, 23⟩
    ⟨.reserved .ON, "ON", 54, 56⟩ rfl (.mk rfl .nil) isGroup rfl isList (by simp) (by decide +kernel)
    (by decide +kernel) (by decide +kernel) (by decide +kernel)
  have parsed : parse .mySQL rule listText = .ok statement := parse_of_toOption (by decide +kernel)
  obtain rfl : found = statement := Except.ok.inj (listed.symm.trans parsed)
  exact ⟨listed, assigned⟩

end Reading

end SqlSharding
