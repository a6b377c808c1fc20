import SqlSharding.Proofs.Composition
import SqlSharding.Proofs.Marks

/-!
# Names in groups are not marked

A statement marks no name that stands in a group, whatever the group is: a sub-query, a table or a join
of tables. The readings up to the last table of a statement pass groups whole, so the cursor stands
outside of groups whenever a name is marked.
-/

namespace SqlSharding

open Reading (depthAfter)

/-- The number of groups that are open behind the tokens, of which so many are open before them. -/
def openBehind (depth : Nat) (tokens : List Token) : Nat :=
  tokens.foldl (fun depth token => depthAfter depth token.kind) depth

/-- The tokens before which no group is open, where so many groups are open before all of them. -/
def ungrouped : (depth : Nat) → List Token → List Token
  | _, [] => []
  | depth, token :: rest =>
    let later := ungrouped (depthAfter depth token.kind) rest
    if depth = 0 then token :: later else later

variable {tokens taken rest : List Token} {token : Token} {mark : TableMark} {depth : Nat} {kind : Kind}

/-- The groups that are open behind tokens in two parts are counted on from the first part. -/
theorem openBehind_append :
    openBehind depth (taken ++ rest) = openBehind (openBehind depth taken) rest :=
  List.foldl_append

/-- The tokens outside of groups are those of both parts, with the groups that the first part leaves
open. -/
theorem ungrouped_append :
    ungrouped depth (taken ++ rest) =
      ungrouped depth taken ++ ungrouped (openBehind depth taken) rest := by
  induction taken generalizing depth with
  | nil => rfl
  | cons token taken inductionHypothesis =>
    simp only [List.cons_append, ungrouped, inductionHypothesis, openBehind, List.foldl_cons]
    split <;> rfl

/-- Outside of groups only an opening parenthesis changes the depth. -/
theorem depthAfter_of_ne (notOpen : kind ≠ .symbol .leftParen) : depthAfter 0 kind = 0 := by
  unfold depthAfter
  split
  · exact absurd rfl notOpen
  · rfl
  · rfl

/-- A group is closed behind its last token. -/
theorem ClosesFrom.openBehind_eq (closes : ClosesFrom depth tokens) : openBehind depth tokens = 0 := by
  induction tokens generalizing depth with
  | nil => exact closes.elim
  | cons token tokens inductionHypothesis =>
    obtain ⟨-, closes⟩ := closes
    split at closes
    · rename_i closed
      rw [closes]
      exact closed
    · exact inductionHypothesis closes

/-- The mark is set at a name that stands in no group. -/
def TableMark.IsUngrouped (tokens : List Token) (mark : TableMark) : Prop :=
  ∃ token ∈ ungrouped 0 tokens, token.kind.isName = true ∧ mark = token.mark

namespace Cursor

/-- The cursor stands before the last of the tokens, with no group open before it. -/
structure StandsOutside (tokens : List Token) (cursor : Cursor) : Prop where
  settled : cursor.Settled
  passed : ∃ taken, tokens = taken ++ cursor.tokens ∧ openBehind 0 taken = 0

variable {before after : Cursor}

/-- The token under a cursor outside of groups is one of the tokens outside of groups. -/
theorem StandsOutside.current_mem (outside : before.StandsOutside tokens) :
    before.current ∈ ungrouped 0 tokens := by
  obtain ⟨taken, rfl, closed⟩ := outside.passed
  rw [ungrouped_append, closed]
  exact List.mem_append_right _ List.mem_cons_self

/-- A cursor that passes whole groups stays outside of groups. -/
theorem StandsOutside.passes (outside : before.StandsOutside tokens)
    (passed : before.Passes taken after) (closed : openBehind 0 taken = 0) :
    after.StandsOutside tokens where
  settled := passed.settled outside.settled
  passed := by
    obtain ⟨first, rfl, closedFirst⟩ := outside.passed
    refine ⟨first ++ taken, by rw [passed.tokens, List.append_assoc], ?_⟩
    rw [openBehind_append, closedFirst, closed]

/-- A cursor that passes a token other than an opening parenthesis stays outside of groups. -/
theorem StandsOutside.passes_token (outside : before.StandsOutside tokens)
    (passed : before.Passes [token] after) (notOpen : token.kind ≠ .symbol .leftParen) :
    after.StandsOutside tokens :=
  outside.passes passed (depthAfter_of_ne notOpen)

end Cursor

namespace Reading

open Marked

variable {α β : Type} {post : α → Cursor → Prop} {given : α → Prop} {reading : Reading α}
  {kinds : List Kind}

/-- Whenever the reading succeeds from a cursor outside of the groups of the tokens, what it gives and
the cursor behind it are as asked for. -/
def FromOutside (tokens : List Token) (reading : Reading α) (post : α → Cursor → Prop) : Prop :=
  ∀ value before after, before.StandsOutside tokens → reading before = .ok value after →
    post value after

/-- The reading does not stop inside of a group, and what it gives is as asked for. -/
def StaysOutside (tokens : List Token) (reading : Reading α) (given : α → Prop) : Prop :=
  FromOutside tokens reading fun value after => after.StandsOutside tokens ∧ given value

namespace FromOutside

/-- A value leaves the cursor outside of groups. -/
theorem pure {value : α} (holds : given value) : StaysOutside tokens (pure value) given := by
  rintro value before after outside ⟨⟩
  exact ⟨outside, holds⟩

/-- What always fails asks for nothing. -/
theorem unexpected : FromOutside tokens unexpected post := by
  rintro value before after outside ⟨⟩

/-- A sequence starts outside of groups, and goes on from there. -/
theorem bind {first : Reading β} {next : β → Reading α} {given : β → Prop}
    (starts : StaysOutside tokens first given)
    (goesOn : ∀ value, given value → FromOutside tokens (next value) post) :
    FromOutside tokens (first >>= next) post := by
  intro value before after outside passed
  obtain ⟨found, middle, start, rest⟩ := bind_ok_iff.mp passed
  obtain ⟨outside, isGiven⟩ := starts _ _ _ outside start
  exact goesOn found isGiven _ _ _ outside rest

/-- A choice gives what both of its ways give. -/
theorem ite {condition : Prop} [Decidable condition] {left right : Reading α}
    (whenTrue : FromOutside tokens left post) (whenFalse : FromOutside tokens right post) :
    FromOutside tokens (if condition then left else right) post := by
  split
  · exact whenTrue
  · exact whenFalse

/-- A reading stays outside of groups without its value, too. -/
theorem discard (stays : StaysOutside tokens reading given) :
    StaysOutside tokens (discard reading) fun _ => True := by
  intro _ before after outside passed
  obtain ⟨value, passed⟩ := discard_ok_iff.mp passed
  exact ⟨(stays value before after outside passed).1, trivial⟩

/-- A loop stays outside of groups and keeps what its turns keep. -/
theorem repeatTurns {turn : α → Reading (Turn α)} {value : α}
    (turns : ∀ value, given value → StaysOutside tokens (turn value) fun
      | .again next => given next
      | .done result => given result)
    (holds : given value) : StaysOutside tokens (repeatTurns turn value) given := by
  have within : ∀ bound value, given value →
      StaysOutside tokens (repeatWithin turn bound value) given := by
    intro bound
    induction bound with
    | zero => exact fun value holds => .pure holds
    | succ bound inductionHypothesis =>
      intro value holds
      refine .bind (turns value holds) fun decision kept => ?_
      cases decision with
      | done result => exact .pure kept
      | again next => exact inductionHypothesis next kept
  exact fun result before => within _ value holds result before

/-- What every success ensures, a success from outside of groups ensures. -/
theorem ofEnsures (ensures : Ensures reading post) : FromOutside tokens reading post :=
  fun value before after _ passed => ensures value before after passed

end FromOutside

/-- Skipping a token stays outside of groups, if the token opens none. -/
theorem staysOutside_skipIf (ordinary : Ordinary kinds) :
    StaysOutside tokens (skipIf kinds) fun _ => True := by
  intro skipped before after outside passed
  rcases (skipIf_ok_iff outside.settled ordinary.1).mp passed with ⟨-, onKind, passed⟩ | ⟨-, -, rfl⟩
  · exact ⟨outside.passes_token passed fun isOpen => ordinary.2 (isOpen ▸ onKind), trivial⟩
  · exact ⟨outside, trivial⟩

/-- Demanding a token stays outside of groups, if the token opens none. -/
theorem staysOutside_accept {expected : Kind} (ordinary : Ordinary [expected]) :
    StaysOutside tokens (accept expected) fun _ => True := by
  intro token before after outside passed
  have notEnd : expected ≠ .endOfText := fun isEnd => ordinary.1 (by simp [isEnd])
  obtain ⟨-, isExpected, passed⟩ := (accept_ok_iff outside.settled notEnd).mp passed
  refine ⟨outside.passes_token passed fun isOpen => ordinary.2 ?_, trivial⟩
  rw [← isExpected, isOpen]
  exact List.mem_singleton_self _

/-- A part of a name stands outside of groups. -/
theorem staysOutside_namePart :
    StaysOutside tokens namePart fun token =>
      token ∈ ungrouped 0 tokens ∧ token.kind.isName = true := by
  intro token before after outside passed
  obtain ⟨rfl, isName, passed⟩ := (namePart_ok_iff outside.settled).mp passed
  refine ⟨outside.passes_token passed fun isOpen => ?_, outside.current_mem, isName⟩
  simp [isOpen, Kind.isName, Kind.isDialectKeyword] at isName

/-- A group is passed whole. -/
theorem staysOutside_skipGroup : StaysOutside tokens skipGroup fun _ => True := by
  intro text before after outside passed
  have skipped : (discard skipGroup) before = .ok PUnit.unit after := discard_ok_iff.mpr ⟨text, passed⟩
  rw [skipGroup_ok_iff outside.settled] at skipped
  split at skipped
  · obtain ⟨taken, passed, closes⟩ := skipped
    exact ⟨outside.passes passed closes.openBehind_eq, trivial⟩
  · exact ⟨skipped ▸ outside, trivial⟩

/-- An item is a token or a whole group, so that skipping it stays outside of groups. -/
theorem staysOutside_skipItem : StaysOutside tokens skipItem fun _ => True := by
  intro _ before after outside passed
  rw [skipItem, isOn_bind] at passed
  split at passed
  · exact FromOutside.discard staysOutside_skipGroup _ _ _ outside passed
  · rename_i notOn
    have notOpen : before.current.kind ≠ .symbol .leftParen := by
      simpa [Cursor.isOn_iff] using notOn
    rcases (advance_ok_iff outside.settled).mp passed with passed | ⟨-, rfl⟩
    · exact ⟨outside.passes_token passed notOpen, trivial⟩
    · exact ⟨outside, trivial⟩

/-- A turn of the skipping of items stays outside of groups. -/
theorem staysOutside_itemTurn (stops : (afterDot : Bool) → Kind → Bool) (afterDot : Bool) :
    StaysOutside tokens (itemTurn stops afterDot) fun _ => True := by
  have done {decision : Turn Bool} : StaysOutside tokens (pure decision) fun _ => True := .pure trivial
  intro decision before after outside passed
  rw [itemTurn, current_bind] at passed
  split at passed
  · exact done _ _ _ outside passed
  · exact FromOutside.bind staysOutside_skipItem (fun _ _ => done) _ _ _ outside passed

/-- What is put together from steps stays outside of groups. -/
theorem staysOutside_of_steps (steps : Steps True reading) :
    StaysOutside tokens reading fun _ => True := by
  induction steps with
  | pure value => exact .pure trivial
  | bind _ _ starts goesOn => exact .bind starts fun value _ => goesOn value
  | repeatTurns _ value turns =>
    refine .repeatTurns (fun value _ decision before after outside passed => ?_) trivial
    obtain ⟨outside, -⟩ := turns value decision before after outside passed
    exact ⟨outside, by cases decision <;> trivial⟩
  | basic isStep =>
    cases isStep with
    | asks answer =>
      rintro value before after outside ⟨⟩
      exact ⟨outside, trivial⟩
    | refuse kinds =>
      intro value before after outside passed
      obtain ⟨-, rfl⟩ := refuse_ok_iff.mp passed
      exact ⟨outside, trivial⟩
    | unexpected => exact .unexpected
    | unsupported family => rintro value before after outside ⟨⟩
    | skipIf inner => exact staysOutside_skipIf inner.1
    | accept inner => exact staysOutside_accept inner.1
    | namePart =>
      intro token before after outside passed
      exact ⟨(staysOutside_namePart _ _ _ outside passed).1, trivial⟩
    | skipGroup => exact staysOutside_skipGroup
    | itemTurn afterDot => exact staysOutside_itemTurn _ afterDot
    | skipItem => exact staysOutside_skipItem

/-- A reading that is put together from steps, before another one. -/
theorem FromOutside.after {first : Reading β} {next : β → Reading α} (steps : Steps True first)
    (goesOn : ∀ value, FromOutside tokens (next value) post) :
    FromOutside tokens (first >>= next) post :=
  .bind (staysOutside_of_steps steps) fun value _ => goesOn value

/-- Every mark of the value is set at a name outside of groups. -/
def MarksUngrouped [Marked α] (tokens : List Token) (value : α) : Prop :=
  ∀ mark ∈ marks value, mark.IsUngrouped tokens

/-- A table is marked at a name outside of groups. -/
theorem staysOutside_tableMark :
    StaysOutside tokens tableMark fun mark => mark.IsUngrouped tokens := by
  have name : StaysOutside tokens qualifiedName fun token =>
      token ∈ ungrouped 0 tokens ∧ token.kind.isName = true := by
    rw [qualifiedName_eq]
    refine .bind staysOutside_namePart fun first isFirst => .repeatTurns (fun part isPart => ?_) isFirst
    exact .after (steps_skipIf (by decide)) fun _ =>
      .ite (.bind staysOutside_namePart fun _ isNext => .pure isNext) (.pure isPart)
  exact .bind name fun token isName => .pure ⟨token, isName.1, isName.2, rfl⟩

/-- A table without an alias is marked outside of groups. -/
theorem staysOutside_plainTable : StaysOutside tokens plainTable (MarksUngrouped tokens) :=
  .bind staysOutside_tableMark fun _ isUngrouped => .pure (by simpa [MarksUngrouped, marks])

/-- A table with an alias is marked outside of groups. -/
theorem staysOutside_aliasedTable : StaysOutside tokens aliasedTable (MarksUngrouped tokens) :=
  .bind staysOutside_tableMark fun _ isUngrouped => .after steps_alias? fun _ =>
    .pure (by simpa [MarksUngrouped, marks])

/-- A group among the tables of a query marks nothing. -/
theorem staysOutside_tableFactor (grammar : Grammar) :
    StaysOutside tokens (tableFactor grammar) (MarksUngrouped tokens) := by
  have noTable : StaysOutside tokens (pure none : Reading (Option TableReference))
      (MarksUngrouped tokens) :=
    .pure (by simp [MarksUngrouped, marks])
  refine .after (steps_isOn _) fun _ => .ite ?_ ?_
  · exact .after steps_skipGroup fun _ => .after (.discard steps_alias?) fun _ => noTable
  · refine .after (steps_skipIf (by decide)) fun _ => .ite noTable ?_
    exact .bind staysOutside_aliasedTable fun _ areUngrouped =>
      .after (steps_skipTableHints grammar) fun _ => .pure areUngrouped

/-- References are marked outside of groups where they are so in two parts. -/
theorem MarksUngrouped.append {references others : List TableReference}
    (left : MarksUngrouped tokens references) (right : MarksUngrouped tokens others) :
    MarksUngrouped tokens (references ++ others) := by
  intro mark isIn
  simp only [marks, List.map_append, List.mem_append] at isIn
  exact isIn.elim (left mark) (right mark)

/-- The tables of a query are marked outside of groups. -/
theorem staysOutside_tableReferences (grammar : Grammar) :
    StaysOutside tokens (tableReferences grammar) (MarksUngrouped tokens) := by
  rw [tableReferences_eq]
  refine .bind (staysOutside_tableFactor grammar) fun first isUngrouped => ?_
  refine .repeatTurns (fun references areUngrouped => ?_) isUngrouped
  refine .after (steps_skipIf (by decide)) fun _ => .ite ?_ ?_
  · exact .bind (staysOutside_tableFactor grammar) fun _ found => .pure (areUngrouped.append found)
  · refine .after steps_skipJoinType fun _ => .ite ?_ (.pure areUngrouped)
    exact .bind (staysOutside_tableFactor grammar) fun _ found =>
      .after steps_skipJoinCondition fun _ => .pure (areUngrouped.append found)

/-- The tables of a list are marked outside of groups, if a table is. -/
theorem staysOutside_tableList (allowed : Bool) {table : Reading TableReference}
    (stays : StaysOutside tokens table (MarksUngrouped tokens)) :
    StaysOutside tokens (tableList allowed table) (MarksUngrouped tokens) := by
  rw [tableList_eq]
  refine .bind stays fun first isUngrouped => ?_
  refine .repeatTurns (fun references areUngrouped => ?_) isUngrouped
  rw [tableListTurn_eq]
  cases allowed with
  | false => exact .after (steps_isOn _) fun _ => .ite .unexpected (.pure areUngrouped)
  | true =>
    exact .after (steps_skipIf (by decide)) fun _ => .ite
      (.bind (.bind stays fun _ found => .pure (areUngrouped.append found)) fun _ found => .pure found)
      (.pure areUngrouped)

/-- The one table of an update or a deletion is marked outside of groups. -/
theorem staysOutside_oneTarget : StaysOutside tokens oneTarget (MarksUngrouped tokens) :=
  .bind staysOutside_aliasedTable fun _ isUngrouped =>
    .after (.basic (.refuse otherTableKinds)) fun _ => .pure isUngrouped

/-- The clauses of a query add no marks, and they may stop in a group. -/
theorem fromOutside_queryClauses {references : List TableReference}
    (areUngrouped : MarksUngrouped tokens references) :
    FromOutside tokens (queryClauses references) fun outline _ => MarksUngrouped tokens outline :=
  .ofEnsures (.bind fun _ => .bind fun _ => .pure fun _ => areUngrouped)

/-- What is left of a statement adds no marks, and it may stop in a group. -/
theorem fromOutside_toEnd {outline : Outline} (areUngrouped : MarksUngrouped tokens outline) :
    FromOutside tokens (do
      skipUntil [.symbol .semicolon]
      return outline) fun outline _ => MarksUngrouped tokens outline :=
  .ofEnsures (.bind fun _ => .pure fun _ => areUngrouped)

/-- Behind its opening a statement sets marks outside of groups only. -/
theorem fromOutside_body (grammar : Grammar) (family : Family) :
    FromOutside tokens (family.body grammar) fun outline _ => MarksUngrouped tokens outline := by
  cases family with
  | select =>
    have noTables : MarksUngrouped tokens ([] : List TableReference) := by simp [MarksUngrouped, marks]
    rw [Family.body, queryBody_eq]
    exact .after (steps_skipItems (by decide)) fun _ => .after (steps_skipIf (by decide)) fun _ => .ite
      (.bind (staysOutside_tableReferences grammar) fun _ found => fromOutside_queryClauses found)
      (fromOutside_queryClauses noTables)
  | insert =>
    exact .bind staysOutside_plainTable fun _ isUngrouped =>
      .ofEnsures (.bind fun _ => .bind fun _ => .pure fun _ => isUngrouped)
  | update =>
    exact .bind staysOutside_oneTarget fun _ isUngrouped =>
      .ofEnsures (.bind fun _ => .pure fun _ => isUngrouped)
  | delete => exact .bind staysOutside_oneTarget fun _ isUngrouped => fromOutside_toEnd isUngrouped
  | create => exact .bind staysOutside_plainTable fun _ isUngrouped => fromOutside_toEnd isUngrouped
  | alter => exact .bind staysOutside_plainTable fun _ isUngrouped => fromOutside_toEnd isUngrouped
  | drop =>
    exact .bind (staysOutside_tableList _ staysOutside_plainTable) fun _ found =>
      fromOutside_toEnd found
  | truncate =>
    have table : StaysOutside tokens (do
        grammar.skipOnly
        plainTable) (MarksUngrouped tokens) :=
      .after (steps_skipOnly grammar) fun _ => staysOutside_plainTable
    exact .bind (staysOutside_tableList _ table) fun _ found => fromOutside_toEnd found

/-- The marks of an outline are set outside of groups, wherever the rest of the statement stops. -/
theorem fromOutside_outline (grammar : Grammar) (family : Family) :
    FromOutside tokens (family.outline grammar) fun outline _ => MarksUngrouped tokens outline := by
  have begins : StaysOutside tokens (discard <| accept (.reserved family.keyword)) fun _ => True :=
    .discard (staysOutside_accept (by cases family <;> decide))
  rw [Family.outline_eq_keyword]
  exact .bind begins fun _ _ =>
    .after (family.steps_skipWords grammar fun _ _ => trivial) fun _ => fromOutside_body grammar family

variable {dialect : Dialect} {rule : ShardingRule} {text : String} {statement : Statement}

/-- No name in a group is marked, so no table that is named in groups only makes a statement sharded. -/
theorem isUngrouped_of_parse (parsed : parse dialect rule text = .ok statement) :
    (∀ mark ∈ statement.marks, mark.IsUngrouped (Tape.ofText dialect text).tokens) ∧
      ∀ other : ShardingRule, statement.isSharded other = true →
        ∃ token ∈ ungrouped 0 (Tape.ofText dialect text).tokens,
          token.kind.isName = true ∧ other.isLogicTable token.mark.name = true := by
  obtain ⟨cursor, middle, -, family, outline, begins, -, read, -, rfl⟩ :=
    parse_ok_iff_outline.mp parsed
  have outside : cursor.StandsOutside (Tape.ofText dialect text).tokens :=
    ⟨begins.settled, [], begins.tokens.symm, rfl⟩
  have areUngrouped : MarksUngrouped (Tape.ofText dialect text).tokens outline :=
    fromOutside_outline dialect.grammar family _ _ _ outside read
  refine ⟨areUngrouped, fun other isSharded => ?_⟩
  obtain ⟨mark, isMark, isLogic⟩ :=
    (Statement.isSharded_iff_exists_mark outline.names_statement).mp isSharded
  obtain ⟨token, isIn, isName, rfl⟩ := areUngrouped mark isMark
  exact ⟨token, isIn, isName, isLogic⟩

/-- A join in a group, and a table behind the group. -/
theorem isUngrouped_of_parse_join :
    ∃ statement, parse .mySQL .empty "SELECT (a) FROM (t_item JOIN x) z, t_order" = .ok statement ∧
      statement.marks = [⟨35, "t_order"⟩] ∧
      (∀ mark ∈ statement.marks, mark.IsUngrouped
        (Tape.ofText .mySQL "SELECT (a) FROM (t_item JOIN x) z, t_order").tokens) ∧
      statement.isSharded { tableRules := [{ logicTable := "t_item" }] } = false := by
  have parsed : parse .mySQL .empty "SELECT (a) FROM (t_item JOIN x) z, t_order" =
      .ok ⟨.select, ⟨[⟨"t_order", []⟩]⟩, [⟨35, "t_order"⟩], [], none⟩ :=
    parse_of_toOption (by decide +kernel)
  obtain ⟨areUngrouped, sharded⟩ := isUngrouped_of_parse parsed
  refine ⟨_, parsed, rfl, areUngrouped, Bool.eq_false_iff.mpr fun isSharded => ?_⟩
  obtain ⟨token, isIn, isName, isLogic⟩ := sharded _ isSharded
  have noneOutside : ∀ token ∈ ungrouped 0
      (Tape.ofText .mySQL "SELECT (a) FROM (t_item JOIN x) z, t_order").tokens,
        ¬ShardingRule.isLogicTable { tableRules := [{ logicTable := "t_item" }] } token.mark.name := by
    decide +kernel
  exact noneOutside token isIn isLogic

/-- A join of tables between parentheses is no sub-query, and yet its tables are lost: a statement that
joins a sharded table there is not sharded. -/
theorem exists_grouped_table_lost :
    ∃ (rule : ShardingRule) (statement : Statement),
      (Tape.ofText .mySQL "SELECT * FROM (t_order JOIN t_item)").tokens =
        [⟨.reserved .SELECT, "SELECT", 0, 6⟩, ⟨.symbol .multiply, "*", 7, 8⟩,
          ⟨.reserved .FROM, "FROM", 9, 13⟩, ⟨.symbol .leftParen, "(", 14, 15⟩,
          ⟨.literal .identifier, "t_order", 15, 22⟩, ⟨.reserved .JOIN, "JOIN", 23, 27⟩,
          ⟨.literal .identifier, "t_item", 28, 34⟩, ⟨.symbol .rightParen, ")", 34, 35⟩,
          .endAt 35] ∧
      parse .mySQL rule "SELECT * FROM (t_order JOIN t_item)" = .ok statement ∧
      rule.isLogicTable "t_order" = true ∧ "t_order" ∉ statement.tables.names ∧
      "t_item" ∉ statement.tables.names ∧ statement.isSharded rule = false := by
  refine ⟨{ tableRules := [{ logicTable := "t_order" }] }, .ofReferences .select [],
    by decide +kernel, parse_of_toOption (by decide +kernel), by decide, ?_, ?_, rfl⟩ <;>
  simp [Statement.ofReferences, Tables.names, Tables.ofReferences, Tables.empty]

end Reading

end SqlSharding
