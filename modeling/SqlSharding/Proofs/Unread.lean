import SqlSharding.Proofs.Faults
import SqlSharding.Proofs.Insertion
import SqlSharding.Proofs.Sources

/-!
# Rests that are not read

Behind the table of a deletion, and behind the columns of an insertion, the rest of the statement is
skipped token by token. What is read before the rest decides the statement alone: a table that the rest
names, in a join or in a query whose rows are inserted, is never among its tables.
-/

namespace SqlSharding

/-- The tokens reach the end of a statement: the end of the text, or a semicolon that a token follows. -/
inductive ReachesEnd : List Token → Prop
  | atEnd {stop : Token} {later : List Token} (isEnd : stop.kind = .endOfText) :
      ReachesEnd (stop :: later)
  | semicolon {stop next : Token} {later : List Token} (isSemicolon : stop.kind = .symbol .semicolon) :
      ReachesEnd (stop :: next :: later)
  | token {token : Token} {later : List Token} (reaches : ReachesEnd later) :
      ReachesEnd (token :: later)

/-- Tokens before a rest that reaches the end reach it, too. -/
theorem ReachesEnd.prepend (taken : List Token) {rest : List Token} (reaches : ReachesEnd rest) :
    ReachesEnd (taken ++ rest) := by
  induction taken with
  | nil => exact reaches
  | cons token taken inductionHypothesis => exact .token inductionHypothesis

/-- Where the end of a statement is reached there is a token. -/
theorem ReachesEnd.exists_cons {tokens : List Token} (reaches : ReachesEnd tokens) :
    ∃ token later, tokens = token :: later := by
  cases reaches <;> exact ⟨_, _, rfl⟩

namespace Reading

open Cursor

variable {before after : Cursor}

/-- At the end of the text nothing is skipped. -/
theorem skipToStatementEnd_at_end (settled : before.Settled)
    (atEnd : before.current.kind = .endOfText) :
    skipToStatementEnd before = .ok PUnit.unit before := by
  have skipped : skipIf [.symbol .semicolon] before = .ok false before :=
    skipIf_of_not_mem settled (by decide) (by simp [atEnd])
  exact bind_ok_iff.mpr ⟨(), before, skipUntil_of_stop (.inl atEnd),
    discard_ok_iff.mpr ⟨false, skipped⟩⟩

/-- A semicolon is passed, and nothing behind it. -/
theorem skipToStatementEnd_at_semicolon (settled : before.Settled)
    (onSemicolon : before.current.kind = .symbol .semicolon)
    (passed : before.Passes [before.current] after) :
    skipToStatementEnd before = .ok PUnit.unit after := by
  have isStop : before.current.kind ∈ [Kind.symbol .semicolon] := by simp [onSemicolon]
  have skipped := skipIf_of_passes settled (by decide) isStop passed
  exact bind_ok_iff.mpr ⟨(), before, skipUntil_of_stop (.inr isStop),
    discard_ok_iff.mpr ⟨true, skipped⟩⟩

/-- The first of the tokens from a cursor on is the one under it. -/
theorem tokens_eq_current {token next : Token} {later : List Token}
    (whole : before.tokens = token :: next :: later) :
    before.tokens = [before.current] ++ next :: later := by
  rw [Cursor.tokens, List.cons.injEq] at whole
  rw [Cursor.tokens, whole.2]
  rfl

/-- The rest of a statement is skipped just when it reaches an end. -/
theorem skipToStatementEnd_iff (settled : before.Settled) :
    (∃ after, skipToStatementEnd before = .ok PUnit.unit after) ↔ ReachesEnd before.tokens := by
  constructor
  · rintro ⟨after, skipped⟩
    obtain ⟨_, middle, skipped, rest⟩ := bind_ok_iff.mp skipped
    obtain ⟨taken, passed⟩ := exists_passes_of_skipUntil settled skipped
    have ended : middle.AtStatementEnd := ensures_skipUntil_semicolon _ _ _ skipped
    rw [passed.tokens]
    refine .prepend taken ?_
    rcases ended with atEnd | onSemicolon
    · exact .atEnd atEnd
    · obtain ⟨found, rest⟩ := discard_ok_iff.mp rest
      rcases (skipIf_ok_iff (passed.settled settled) (by decide)).mp rest with
        ⟨-, -, passes⟩ | ⟨-, notOn, -⟩
      · rw [passes.tokens]
        exact .semicolon onSemicolon
      · exact absurd (by simpa using onSemicolon) notOn
  · intro reaches
    generalize whole : before.tokens = tokens at reaches
    induction reaches generalizing before with
    | @atEnd stop later isEnd =>
      obtain rfl : before.current = stop := (List.cons.inj whole).1
      exact ⟨before, skipToStatementEnd_at_end settled isEnd⟩
    | @semicolon stop next later isSemicolon =>
      obtain rfl : before.current = stop := (List.cons.inj whole).1
      obtain ⟨after, passed, -⟩ := exists_passes (tokens_eq_current whole)
      exact ⟨after, skipToStatementEnd_at_semicolon settled isSemicolon passed⟩
    | @token token later reaches inductionHypothesis =>
      obtain rfl : before.current = token := (List.cons.inj whole).1
      obtain ⟨next, others, rfl⟩ := reaches.exists_cons
      obtain ⟨after, passed, rfl, rfl⟩ := exists_passes (tokens_eq_current whole)
      by_cases stops : before.current.kind = .endOfText ∨
          before.current.kind ∈ [Kind.symbol .semicolon]
      · rcases stops with atEnd | onSemicolon
        · exact ⟨before, skipToStatementEnd_at_end settled atEnd⟩
        · exact ⟨after, skipToStatementEnd_at_semicolon settled (by simpa using onSemicolon) passed⟩
      · obtain ⟨final, skipped⟩ := inductionHypothesis (passed.settled settled) rfl
        refine ⟨final, ?_⟩
        rw [skipToStatementEnd, bind_ok_iff] at skipped ⊢
        rwa [skipUntil_of_passes stops passed]

variable {dialect : Dialect} {rule : ShardingRule} {text : String} {statement : Statement}

/-- A text without a fault ends, so that whatever stands in it reaches an end. -/
theorem reachesEnd_of_clean {front rest : List Token} {next : Token}
    (clean : (Tape.ofText dialect text).isClean = true)
    (whole : (Tape.ofText dialect text).tokens = front ++ next :: rest) :
    ReachesEnd (next :: rest) := by
  obtain ⟨tokens, place, ended⟩ := Tape.ofText_finished (by simpa [Tape.isClean] using clean)
  have isLast : (next :: rest).getLast? = some (.endAt place) := by
    have last := congrArg List.getLast? (whole.symm.trans ended)
    rwa [List.getLast?_concat, List.getLast?_append_of_ne_nil _ (List.cons_ne_nil _ _)] at last
  obtain ⟨taken, tokens⟩ := List.getLast?_eq_some_iff.mp isLast
  rw [tokens]
  exact .prepend taken (.atEnd rfl)

/-- Where a family reads something behind its opening and skips the rest, its statements are decided by
what is read: the rest must reach an end, and nothing else matters. -/
theorem parse_iff_of_skipped {expects : Kind → Prop} (family : Family) {target : Reading Outline}
    (moves : Moves expects target)
    (outline_eq : family.outline dialect.grammar = (do
      family.opening dialect.grammar
      let outline ← target
      skipUntil [.symbol .semicolon]
      return outline)) :
    parse dialect rule text = .ok statement ∧ statement.family = family ↔
      ∃ cursor atTarget behind outline, cursor.Begins dialect text ∧
        family.opening dialect.grammar cursor = .ok () atTarget ∧
        target atTarget = .ok outline behind ∧ ReachesEnd behind.tokens ∧
        statement = outline.statement rule family := by
  constructor
  · rintro ⟨parsed, isFamily⟩
    obtain ⟨cursor, middle, after, other, outline, begins, -, read, ended, rfl⟩ :=
      parse_ok_iff_outline.mp parsed
    obtain rfl : other = family := isFamily
    rw [outline_eq] at read
    obtain ⟨_, atTarget, opened, read⟩ := bind_ok_iff.mp read
    obtain ⟨found, behind, targetRead, rest⟩ := bind_ok_iff.mp read
    obtain ⟨_, _, skipped, made⟩ := bind_ok_iff.mp rest
    obtain ⟨rfl, rfl⟩ := pure_ok_iff.mp made
    have settled := settled_of_moves moves (settled_of_opening begins.settled opened) targetRead
    have reaches := (skipToStatementEnd_iff settled).mp ⟨after, bind_ok_iff.mpr ⟨_, _, skipped, ended⟩⟩
    exact ⟨cursor, atTarget, behind, _, begins, opened, targetRead, reaches, rfl⟩
  · rintro ⟨cursor, atTarget, behind, outline, begins, opened, targetRead, reaches, rfl⟩
    have settled := settled_of_moves moves (settled_of_opening begins.settled opened) targetRead
    obtain ⟨after, skipped⟩ := (skipToStatementEnd_iff settled).mpr reaches
    obtain ⟨_, middle, skipped, ended⟩ := bind_ok_iff.mp skipped
    refine ⟨parse_ok_iff_outline.mpr ⟨cursor, middle, after, family, outline, begins,
      onKeyword_of_opening opened, ?_, ended, rfl⟩, rfl⟩
    rw [outline_eq]
    exact bind_ok_iff.mpr ⟨_, _, opened, bind_ok_iff.mpr ⟨_, _, targetRead,
      bind_ok_iff.mpr ⟨_, _, skipped, rfl⟩⟩⟩

/-- A deletion is its opening, its one table, and a rest that is skipped. -/
theorem deleteOutline_eq_oneTarget (grammar : Grammar) :
    deleteOutline grammar = (do
      Family.delete.opening grammar
      let outline ← oneTarget
      skipUntil [.symbol .semicolon]
      return outline) :=
  Family.outline_eq_body grammar .delete

/-- Deletions are the statements that have one table behind their opening and reach an end. Only the
token directly behind the table and its alias is asked whether other tables follow; no token further
back is looked at, so that a join may stand there. -/
theorem deletion_iff_oneTable :
    parse dialect rule text = .ok statement ∧ statement.family = .delete ↔
      ∃ cursor atTarget rest reference, cursor.Begins dialect text ∧
        Family.delete.opening dialect.grammar cursor = .ok () atTarget ∧
        OneTable rest atTarget.tokens reference ∧ ReachesEnd rest ∧
        statement = .ofReferences .delete [reference] := by
  have moves : Moves (· ∉ leadingKinds) oneTarget :=
    .bind (moves_of_steps steps_aliasedTable) fun _ => .bind (.basic (.refuse _)) fun _ => .pure _
  rw [parse_iff_of_skipped .delete moves (deleteOutline_eq_oneTarget dialect.grammar)]
  constructor
  · rintro ⟨cursor, atTarget, behind, outline, begins, opened, read, reaches, rfl⟩
    obtain ⟨taken, reference, passed, one, rfl⟩ :=
      (oneTarget_ok_iff (settled_of_opening begins.settled opened)).mp read
    exact ⟨cursor, atTarget, _, reference, begins, opened, one, reaches, rfl⟩
  · rintro ⟨cursor, atTarget, rest, reference, begins, opened, one, reaches, rfl⟩
    obtain ⟨token, later, rfl⟩ := reaches.exists_cons
    obtain ⟨taken, tokens⟩ := one.exists_taken
    obtain ⟨behind, passed, rfl, rfl⟩ := exists_passes tokens
    have read := (oneTarget_ok_iff (settled_of_opening begins.settled opened)).mpr
      ⟨taken, reference, passed, one, rfl⟩
    exact ⟨cursor, atTarget, behind, ⟨[reference], []⟩, begins, opened, read, reaches, rfl⟩

/-- A join behind an alias that stands as the table itself: the first of the names is reported as the
one table of the deletion, and neither of the tables behind it is. -/
theorem exists_joined_deletion :
    let text := "DELETE o FROM t_order o JOIN t_user u ON o.user_id = u.id"
    let rule : ShardingRule := { tableRules := [{ logicTable := "t_order" }] }
    ∃ (statement : Statement) (cursor atTarget : Cursor) (rest : List Token),
      parse .sqlServer rule text = .ok statement ∧ statement.family = .delete ∧
        statement.isSharded rule = false ∧ cursor.Begins .sqlServer text ∧
        Family.delete.opening .sqlServer cursor = .ok () atTarget ∧
        OneTable rest atTarget.tokens ⟨⟨7, "o"⟩, none⟩ ∧ statement.marks = [⟨7, "o"⟩] ∧
        .reserved .JOIN ∈ statementKinds rest := by
  intro text rule
  let target : Token := ⟨.literal .identifier, "o", 7, 8⟩
  let rest : List Token :=
    [⟨.reserved .FROM, "FROM", 9, 13⟩, ⟨.literal .identifier, "t_order", 14, 21⟩,
      ⟨.literal .identifier, "o", 22, 23⟩, ⟨.reserved .JOIN, "JOIN", 24, 28⟩,
      ⟨.literal .identifier, "t_user", 29, 35⟩, ⟨.literal .identifier, "u", 36, 37⟩,
      ⟨.reserved .ON, "ON", 38, 40⟩, ⟨.literal .identifier, "o", 41, 42⟩,
      ⟨.symbol .dot, ".", 42, 43⟩, ⟨.literal .identifier, "user_id", 43, 50⟩,
      ⟨.symbol .equals, "=", 51, 52⟩, ⟨.literal .identifier, "u", 53, 54⟩,
      ⟨.symbol .dot, ".", 54, 55⟩, ⟨.literal .identifier, "id", 55, 57⟩, .endAt 57]
  let atTarget : Cursor := ⟨.sqlServer, text, target, ⟨rest, .finished⟩⟩
  let cursor : Cursor := { atTarget with
    current := ⟨.reserved .DELETE, "DELETE", 0, 6⟩
    ahead := ⟨atTarget.tokens, .finished⟩ }
  have parsed : parse .sqlServer rule text = .ok (.ofReferences .delete [⟨⟨7, "o"⟩, none⟩]) :=
    parse_of_toOption (by decide +kernel)
  have begins : cursor.Begins .sqlServer text := ⟨rfl, rfl, by decide +kernel, by decide +kernel⟩
  have one : OneTable rest ([target] ++ ([] ++ rest)) ⟨target.mark, none⟩ :=
    .mk (.mk rfl .nil) (by decide) (.none (by decide) (by decide)) (by decide)
  exact ⟨_, cursor, atTarget, rest, parsed, rfl, by decide +kernel, begins, rfl, one, rfl,
    by decide +kernel⟩

/-- Insertions are the statements that have a name behind their opening, may have columns behind it, and
reach an end. The table with that name is their only table, whatever the rest reads from, and a rule
shards them just if it shards that table. -/
theorem insertion_iff_target :
    parse dialect rule text = .ok statement ∧ statement.family = .insert ↔
      ∃ cursor atTarget name last atColumns columns behind, cursor.Begins dialect text ∧
        Family.insert.opening dialect.grammar cursor = .ok () atTarget ∧
        atTarget.Passes name atColumns ∧ DottedName name last ∧
        atColumns.current.kind ≠ .symbol .dot ∧
        insertColumns dialect.grammar atColumns = .ok columns behind ∧ ReachesEnd behind.tokens ∧
        statement = ⟨.insert, ⟨[⟨last.mark.name, []⟩]⟩, [last.mark], columns,
          generatedKey? rule last.mark.name columns⟩ ∧
        ∀ other : ShardingRule, statement.isSharded other = other.isLogicTable last.mark.name := by
  have moves : Moves (· ∉ leadingKinds) (insertTarget dialect.grammar) :=
    .bind (moves_of_steps steps_plainTable) fun _ => .bind (moves_insertColumns _) fun _ => .pure _
  have sharded (mark : TableMark) (columns : List String) (key? : Option GeneratedKey)
      (other : ShardingRule) :
      Statement.isSharded ⟨.insert, ⟨[⟨mark.name, []⟩]⟩, [mark], columns, key?⟩ other =
        other.isLogicTable mark.name := by
    simp [Statement.isSharded, Tables.names]
  rw [parse_iff_of_skipped .insert moves (insertOutline_eq_target dialect.grammar)]
  constructor
  · rintro ⟨cursor, atTarget, behind, outline, begins, opened, read, reaches, rfl⟩
    obtain ⟨name, last, atColumns, columns, passed, isName, nameEnds, listed, rfl⟩ :=
      (insertTarget_ok_iff (settled_of_opening begins.settled opened)).mp read
    exact ⟨cursor, atTarget, name, last, atColumns, columns, behind, begins, opened, passed, isName,
      nameEnds, listed, reaches, rfl, sharded last.mark columns _⟩
  · rintro ⟨cursor, atTarget, name, last, atColumns, columns, behind, begins, opened, passed, isName,
      nameEnds, listed, reaches, rfl, -⟩
    have read := (insertTarget_ok_iff (settled_of_opening begins.settled opened)).mpr
      ⟨name, last, atColumns, columns, passed, isName, nameEnds, listed, rfl⟩
    exact ⟨cursor, atTarget, behind, ⟨[⟨last.mark, none⟩], columns⟩, begins, opened, read, reaches, rfl⟩

/-- The rows of an insertion may come from a table that a rule shards: it is not reported. -/
theorem exists_source_lost :
    let text := "INSERT INTO t_log SELECT * FROM t_order"
    let rule : ShardingRule := { tableRules := [{ logicTable := "t_order" }] }
    ∃ (statement : Statement) (front later : List Token) (source : Token),
      parse .mySQL rule text = .ok statement ∧ statement.family = .insert ∧
        (Tape.ofText .mySQL text).tokens = front ++ source :: later ∧
        front.map (·.kind) = [.reserved .INSERT, .reserved .INTO, .literal .identifier,
          .reserved .SELECT, .symbol .multiply, .reserved .FROM] ∧
        rule.isLogicTable source.mark.name = true ∧
        source.mark.name ∉ statement.tables.names ∧ statement.isSharded rule = false := by
  intro text rule
  have parsed : parse .mySQL rule text =
      .ok ⟨.insert, ⟨[⟨"t_log", []⟩]⟩, [⟨12, "t_log"⟩], [], none⟩ :=
    parse_of_toOption (by decide +kernel)
  have tokens : (Tape.ofText .mySQL text).tokens =
      [⟨.reserved .INSERT, "INSERT", 0, 6⟩, ⟨.reserved .INTO, "INTO", 7, 11⟩,
        ⟨.literal .identifier, "t_log", 12, 17⟩, ⟨.reserved .SELECT, "SELECT", 18, 24⟩,
        ⟨.symbol .multiply, "*", 25, 26⟩, ⟨.reserved .FROM, "FROM", 27, 31⟩] ++
      ⟨.literal .identifier, "t_order", 32, 39⟩ :: [.endAt 39] := by
    decide +kernel
  exact ⟨_, _, _, _, parsed, rfl, tokens, rfl, by decide +kernel, by decide +kernel,
    by decide +kernel⟩

end Reading

end SqlSharding
