import SqlSharding.Proofs.Outline.Body
import SqlSharding.Proofs.Passage.Items
import SqlSharding.Proofs.TableList.Openings
import SqlSharding.Proofs.Tables.Collection
import SqlSharding.Proofs.Unread

/-!
# Lists of tables

A removal or an emptying names one table or, where its grammar takes a list, several with commas
between them. What is read are the tables up to the first token that does not go on with the list; the
rest is skipped up to the end of the statement. Where the grammar takes no list, the first comma is
refused.
-/

namespace SqlSharding

/-- A table of a list: its name, and before it a word where that is allowed. -/
inductive ListedTable (takesOnly : Bool) : List Token → (last : Token) → Prop
  | mk {words name : List Token} {last : Token}
      (isOnly : Optionally takesOnly [.reserved .ONLY] words) (isName : DottedName name last) :
      ListedTable takesOnly (words ++ name) last

/-- A table that is listed under the last part of its name. -/
def Token.listed (last : Token) : TableReference :=
  ⟨last.mark, none⟩

variable {takesOnly : Bool} {table : List Token} {last : Token}

/-- A table is written with a word, names and dots. -/
theorem ListedTable.forall_kind (isTable : ListedTable takesOnly table last) :
    ∀ token ∈ table, token.kind = .reserved .ONLY ∨ token.kind = .symbol .dot ∨
      token.kind.isName = true := by
  obtain ⟨isOnly, isName⟩ := isTable
  rw [List.forall_mem_append]
  refine ⟨?_, fun token isIn => .inr (isName.forall_kind token isIn)⟩
  cases isOnly with
  | missing => exact nofun
  | written _ areWords =>
    obtain ⟨token, rfl, isWord⟩ := List.map_eq_singleton_iff.mp areWords
    exact List.forall_mem_singleton.mpr (.inl isWord)

/-- A table of a list holds no comma. -/
theorem ListedTable.ne_comma (isTable : ListedTable takesOnly table last) :
    ∀ token ∈ table, token.kind ≠ .symbol .comma := by
  intro token isIn isComma
  have isOther := isTable.forall_kind token isIn
  rw [isComma] at isOther
  rcases isOther with isWord | isDot | isName
  · cases isWord
  · cases isDot
  · cases isName

/-- A table begins with a word or with a name. -/
theorem ListedTable.exists_cons (isTable : ListedTable takesOnly table last) :
    ∃ first others, table = first :: others ∧
      (first.kind = .reserved .ONLY ∨ first.kind.isName = true) := by
  obtain ⟨isOnly, isName, more⟩ := isTable
  cases isOnly with
  | missing => exact ⟨_, _, rfl, .inr isName⟩
  | written _ areWords =>
    obtain ⟨token, rfl, isWord⟩ := List.map_eq_singleton_iff.mp areWords
    exact ⟨token, _, rfl, .inl isWord⟩

/-- The tables of a list without aliases are its distinct names. -/
theorem Tables.ofReferences_listed (lasts : List Token) :
    Tables.ofReferences (lasts.map Token.listed) =
      ⟨(Text.distinctNames (lasts.map (·.mark.name))).map fun name => ⟨name, []⟩⟩ := by
  have noAliases (name : String) :
      ((lasts.map Token.listed).filter fun reference =>
        Text.sameName name reference.mark.name).filterMap (·.alias?) = [] := by
    refine List.filterMap_eq_nil_iff.mpr fun reference isIn => ?_
    obtain ⟨last, -, rfl⟩ := List.mem_map.mp (List.mem_of_mem_filter isIn)
    rfl
  simp only [ofReferences_eq_distinct, noAliases, List.map_map]
  rfl

namespace Reading

open Cursor

variable {before after : Cursor} {grammar : Grammar} {family : Family} {allowed : Bool}

/-- Reads a table of a list. -/
def listedTable (takesOnly : Bool) : Reading TableReference := do
  skipWord takesOnly .ONLY
  plainTable

/-- A table of a list gives nothing back. -/
theorem proceeds_listedTable (takesOnly : Bool) : Proceeds (listedTable takesOnly) := by
  refine .bind ?_ fun _ => proceeds_plainTable
  rw [skipWord]
  exact .ite (.discard (proceeds_skipIf _)) (.pure _)

/-- Every table of a list is read under the last part of its name, if no dot follows. -/
theorem readsEvery_listedTable (takesOnly : Bool) :
    ReadsEvery (listedTable takesOnly) (ListedTable takesOnly) (· ≠ .symbol .dot) Token.listed := by
  intro before after tokens last settled passed isTable notDot
  obtain @⟨words, name, last, isOnly, isName⟩ := isTable
  obtain ⟨atName, toName, onward⟩ := passed.split
  have skipped : skipWord takesOnly .ONLY before = .ok () atName := by
    refine (skipWord_ok_iff settled).mpr ⟨words, toName, isOnly, fun _ _ onOnly => ?_⟩
    obtain ⟨startsName, -⟩ := isName
    rw [onward.current_eq] at onOnly
    rw [onOnly] at startsName
    cases startsName
  have named := (plainTable_ok_iff (toName.settled settled)).mpr
    ⟨name, last, onward, isName, notDot, rfl⟩
  exact bind_ok_iff.mpr ⟨_, _, skipped, named⟩

/-- What is read as a table of a list is one, and no dot follows. -/
theorem readsOnly_listedTable (takesOnly : Bool) :
    ReadsOnly (listedTable takesOnly) (ListedTable takesOnly) (· ≠ .symbol .dot) Token.listed := by
  intro before after reference settled read
  obtain ⟨_, atName, skipped, named⟩ := bind_ok_iff.mp read
  obtain ⟨words, toName, isOnly, -⟩ := (skipWord_ok_iff settled).mp skipped
  obtain ⟨name, last, onward, isName, notDot, rfl⟩ :=
    (plainTable_ok_iff (toName.settled settled)).mp named
  exact ⟨_, last, toName.trans onward, .mk isOnly isName, notDot, rfl⟩

/-- A list that is not allowed ends behind its first table, where a comma must not stand. -/
theorem tableListTurn_refusing (references : List TableReference) :
    tableListTurn false (listedTable takesOnly) references before =
      if before.current.kind = .symbol .comma then .error (.unexpectedToken before.current) before
      else .ok (.done references) before := by
  rw [tableListTurn, isOn_bind]
  simp only [isOn_iff, List.mem_singleton, Bool.false_eq_true, if_false]
  split <;> rfl

/-- Where a list is not allowed one table is read, and no comma may follow. -/
theorem tableList_refusing_ok_iff {references : List TableReference} :
    tableList false (listedTable takesOnly) before = .ok references after ↔
      ∃ reference, listedTable takesOnly before = .ok reference after ∧
        after.current.kind ≠ .symbol .comma ∧ references = [reference] := by
  have consumes : Consumes (tableListTurn false (listedTable takesOnly)) :=
    consumes_tableListTurn (proceeds_listedTable takesOnly)
  rw [tableList_eq, bind_ok_iff]
  constructor
  · rintro ⟨reference, middle, read, loop⟩
    rw [repeatTurns_ok_iff consumes, tableListTurn_refusing] at loop
    -- No turn of a refused list asks for another one.
    rcases loop with done | ⟨_, _, again, -⟩
    · split at done
      · cases done
      · rename_i notComma
        cases done
        exact ⟨reference, read, notComma, rfl⟩
    · split at again <;> cases again
  · rintro ⟨reference, read, notComma, rfl⟩
    refine ⟨reference, after, read, (repeatTurns_ok_iff consumes).mpr (.inl ?_)⟩
    rw [tableListTurn_refusing, if_neg notComma]

/-- A list that is not allowed fails on the comma behind its first table. -/
theorem tableList_refusing_error {reference : TableReference}
    (read : listedTable takesOnly before = .ok reference after)
    (onComma : after.current.kind = .symbol .comma) :
    tableList false (listedTable takesOnly) before =
      .error (.unexpectedToken after.current) after := by
  have consumes : Consumes (tableListTurn false (listedTable takesOnly)) :=
    consumes_tableListTurn (proceeds_listedTable takesOnly)
  rw [tableList_eq, bind_of_ok read, repeatTurns_eq consumes, bind_error_iff,
    tableListTurn_refusing, if_pos onComma]
  exact .inl rfl

/-- Tables with commas between them are read as a list where that is allowed or where there is one. -/
theorem tableList_ok_iff (settled : before.Settled) {references : List TableReference} :
    tableList allowed (listedTable takesOnly) before = .ok references after ↔
      ∃ list lasts, before.Passes list after ∧ Separated (ListedTable takesOnly) list lasts ∧
        after.current.kind ≠ .symbol .dot ∧ after.current.kind ≠ .symbol .comma ∧
        (lasts.length = 1 ∨ allowed = true) ∧ references = lasts.map Token.listed := by
  have every := readsEvery_listedTable takesOnly
  have only := readsOnly_listedTable takesOnly
  cases allowed with
  | true =>
    rw [tableList_eq, tableListTurn_eq, if_pos rfl,
      items_ok_iff (proceeds_listedTable takesOnly) every only nofun settled]
    simp
  | false =>
    rw [tableList_refusing_ok_iff]
    constructor
    · rintro ⟨reference, read, notComma, rfl⟩
      obtain ⟨tokens, last, passed, isTable, notDot, rfl⟩ := only _ _ _ settled read
      exact ⟨tokens, [last], passed, .single isTable, notDot, notComma, .inl rfl, rfl⟩
    · rintro ⟨list, lasts, passed, separated, notDot, notComma, isOne | allowed, rfl⟩
      · rcases separated.cases_length with ⟨last, isTable, rfl⟩ | ⟨several, -⟩
        · exact ⟨_, every _ _ _ _ settled passed isTable notDot, notComma, rfl⟩
        · exact absurd isOne (Nat.ne_of_gt several)
      · cases allowed

/-- Reads the tables of a removal or an emptying. -/
def listTarget (grammar : Grammar) (family : Family) : Reading Outline := do
  let tables ← tableList (family.takesList grammar) (listedTable (family.takesOnly grammar))
  return ⟨tables, []⟩

/-- The tables of a removal or an emptying are read by moves that demand no first word. -/
theorem moves_listTarget (grammar : Grammar) (family : Family) :
    Moves (· ∉ leadingKinds) (listTarget grammar family) := by
  have only : Moves (· ∉ leadingKinds) (skipWord (family.takesOnly grammar) .ONLY) :=
    .ite (.discard (moves_skipIf _)) (.pure _)
  have table : Moves (· ∉ leadingKinds) (listedTable (family.takesOnly grammar)) :=
    .bind only fun _ => moves_of_steps steps_plainTable
  refine .bind (.bind table fun _ => .repeatTurns (fun references => ?_) _) fun _ => .pure _
  exact .bind (moves_isOn _) fun _ => .ite
    (.ite (.bind (.basic .advance) fun _ => .bind table fun _ => .pure _) (.basic .unexpected))
    (.pure _)

/-- A removal or an emptying is its opening, its tables, and a rest that is skipped. -/
theorem outline_eq_listTarget (grammar : Grammar) (isListing : family = .drop ∨ family = .truncate) :
    family.outline grammar = (do
      family.opening grammar
      let outline ← listTarget grammar family
      skipUntil [.symbol .semicolon]
      return outline) := by
  rcases isListing with rfl | rfl
  · have table : listedTable (Family.drop.takesOnly grammar) = plainTable := by
      cases grammar <;> exact pure_bind _ _
    simp only [Family.opening, Family.skipWords, listTarget, table, bind_assoc, pure_bind]
    rfl
  · have table : listedTable (Family.truncate.takesOnly grammar) = (do
        grammar.skipOnly
        plainTable) := by
      rw [skipOnly_eq]
      rfl
    simp only [Family.opening, Family.skipWords, listTarget, table, bind_assoc, pure_bind]
    rfl

/-- The tables of a removal or an emptying are read exactly where a list stands that goes on with no
further table, of one table if the grammar takes no list. -/
theorem listTarget_ok_iff (settled : before.Settled) {outline : Outline} :
    listTarget grammar family before = .ok outline after ↔
      ∃ list lasts, before.Passes list after ∧
        Separated (ListedTable (family.takesOnly grammar)) list lasts ∧
        after.current.kind ≠ .symbol .dot ∧ after.current.kind ≠ .symbol .comma ∧
        (lasts.length = 1 ∨ family.takesList grammar = true) ∧
        outline = ⟨lasts.map Token.listed, []⟩ := by
  rw [listTarget, bind_ok_iff]
  simp only [tableList_ok_iff settled, pure_ok_iff]
  constructor
  · rintro ⟨_, _, ⟨list, lasts, passed, separated, notDot, notComma, isAllowed, rfl⟩, rfl, rfl⟩
    exact ⟨list, lasts, passed, separated, notDot, notComma, isAllowed, rfl⟩
  · rintro ⟨list, lasts, passed, separated, notDot, notComma, isAllowed, rfl⟩
    exact ⟨_, after, ⟨list, lasts, passed, separated, notDot, notComma, isAllowed, rfl⟩, rfl, rfl⟩

variable {dialect : Dialect} {rule : ShardingRule} {text : String} {statement : Statement}
  {opening list rest lasts : List Token} {next : Token}

/-- Where an opening stands before a list of tables, the statement is opened. -/
theorem opensAt_of_list (isOpening : ListOpening dialect.grammar family opening)
    (isList : Separated (ListedTable takesOnly) list lasts)
    (whole : (Tape.ofText dialect text).tokens = opening ++ (list ++ next :: rest)) :
    ∃ atList, family.OpensAt dialect text atList ∧ atList.tokens = list ++ next :: rest := by
  obtain ⟨start, begins⟩ := @exists_begins dialect text (by simp [whole])
  obtain @⟨table, more, last, others, isTable, -⟩ := isList
  obtain ⟨first, words, rfl, startsTable⟩ := isTable.exists_cons
  obtain ⟨atList, passed, rfl, ahead⟩ := exists_passes (begins.tokens.trans whole)
  refine ⟨atList, ⟨start, begins, ?_⟩, congrArg (atList.current :: ·) ahead⟩
  refine opening_of_passes begins.settled isOpening passed ?_ ?_ <;>
    rintro onWord <;> simp [onWord, Kind.isName, Kind.isDialectKeyword] at startsTable

/-- The removals and the emptyings are the openings before a list of tables, with a rest that reaches an
end. A list of several tables must be allowed, and the token behind it must not go on with it. -/
theorem parse_iff_list (isListing : family = .drop ∨ family = .truncate) :
    parse dialect rule text = .ok statement ∧ statement.family = family ↔
      ∃ opening list next rest lasts,
        (Tape.ofText dialect text).tokens = opening ++ (list ++ next :: rest) ∧
        ListOpening dialect.grammar family opening ∧
        Separated (ListedTable (family.takesOnly dialect.grammar)) list lasts ∧
        next.kind ≠ .symbol .dot ∧ next.kind ≠ .symbol .comma ∧
        (lasts.length = 1 ∨ family.takesList dialect.grammar = true) ∧
        ReachesEnd (next :: rest) ∧ statement = .ofReferences family (lasts.map Token.listed) := by
  have made (references : List TableReference) :
      (Outline.mk references []).statement rule family = .ofReferences family references := by
    rcases isListing with rfl | rfl <;> rfl
  rw [parse_iff_of_skipped family (moves_listTarget dialect.grammar family)
    (outline_eq_listTarget dialect.grammar isListing)]
  constructor
  · rintro ⟨start, atList, behind, outline, begins, opened, read, reaches, rfl⟩
    obtain ⟨opening, toList, isOpening⟩ := exists_listOpening isListing begins.settled opened
    obtain ⟨list, lasts, toBehind, isList, notDot, notComma, isAllowed, rfl⟩ :=
      (listTarget_ok_iff (toList.settled begins.settled)).mp read
    refine ⟨opening, list, behind.current, behind.ahead.tokens, lasts, ?_, isOpening, isList, notDot,
      notComma, isAllowed, reaches, made _⟩
    rw [← begins.tokens, toList.tokens, toBehind.tokens]
    rfl
  · rintro ⟨opening, list, next, rest, lasts, whole, isOpening, isList, notDot, notComma, isAllowed,
      reaches, rfl⟩
    obtain ⟨atList, ⟨start, begins, opened⟩, tokens⟩ := opensAt_of_list isOpening isList whole
    obtain ⟨behind, toBehind, rfl, rfl⟩ := exists_passes tokens
    have settled := settled_of_opening begins.settled opened
    have read := (listTarget_ok_iff settled).mpr
      ⟨list, lasts, toBehind, isList, notDot, notComma, isAllowed, rfl⟩
    exact ⟨start, atList, behind, _, begins, opened, read, reaches, (made _).symm⟩

/-- Where a list is not allowed, several tables are refused at the first comma. -/
theorem parse_of_refused_list (isListing : family = .drop ∨ family = .truncate)
    (isOpening : ListOpening dialect.grammar family opening)
    (isList : Separated (ListedTable (family.takesOnly dialect.grammar)) list lasts)
    (whole : (Tape.ofText dialect text).tokens = opening ++ (list ++ next :: rest))
    (notAllowed : family.takesList dialect.grammar = false) (several : 1 < lasts.length) :
    ∃ comma, list.find? (·.kind = .symbol .comma) = some comma ∧
      parse dialect rule text = .error (.unexpectedToken comma) := by
  obtain ⟨atList, opens, tokens⟩ := opensAt_of_list isOpening isList whole
  -- The comma behind the first table is the first comma, since no table has one.
  rcases isList.cases_length with ⟨last, -, rfl⟩ | ⟨-, table, last, comma, later, isTable, isComma, rfl⟩
  · exact absurd several (Nat.lt_irrefl 1)
  · rw [List.append_assoc, List.cons_append] at tokens
    obtain ⟨atComma, toComma, rfl, -⟩ := exists_passes tokens
    have notDot : atComma.current.kind ≠ .symbol .dot := by
      rw [isComma]
      nofun
    have read := readsEvery_listedTable _ _ _ _ _ (settled_of_opensAt opens) toComma isTable notDot
    have refused : listTarget dialect.grammar family atList =
        .error (.unexpectedToken atComma.current) atComma := by
      rw [listTarget, notAllowed]
      exact bind_error_iff.mpr (.inl (tableList_refusing_error read isComma))
    refine ⟨atComma.current, List.find?_eq_some_iff_append.mpr ⟨by simpa using isComma, table, later,
      rfl, fun token isIn => by simpa using isTable.ne_comma token isIn⟩, ?_⟩
    exact parse_of_body_error (outline_eq_listTarget dialect.grammar isListing) opens
      (bind_error_iff.mpr (.inl refused))

/-- Behind the opening of a removal or an emptying every table of a list is read, whatever stands
behind it. Each table is marked where the last part of its name stands, and the tables are the distinct
names. Several tables are refused at the first comma if the grammar takes no list of them. -/
theorem parse_of_list (isOpening : ListOpening dialect.grammar family opening)
    (isList : Separated (ListedTable (family.takesOnly dialect.grammar)) list lasts)
    (whole : (Tape.ofText dialect text).tokens = opening ++ (list ++ next :: rest))
    (clean : (Tape.ofText dialect text).isClean = true)
    (notDot : next.kind ≠ .symbol .dot) (notComma : next.kind ≠ .symbol .comma) :
    (lasts.length = 1 ∨ family.takesList dialect.grammar = true →
      parse dialect rule text = .ok
        { family
          tables := ⟨(Text.distinctNames (lasts.map (·.mark.name))).map fun name => ⟨name, []⟩⟩
          marks := lasts.map (·.mark) }) ∧
    (1 < lasts.length → family.takesList dialect.grammar = false →
      ∃ comma, list.find? (·.kind = .symbol .comma) = some comma ∧
        parse dialect rule text = .error (.unexpectedToken comma)) := by
  have isListing := isOpening.isListing
  constructor
  · intro isAllowed
    have reaches : ReachesEnd (next :: rest) := by
      rw [← List.append_assoc] at whole
      exact reachesEnd_of_clean clean whole
    obtain ⟨parsed, -⟩ := (@parse_iff_list family dialect rule text _ isListing).mpr
      ⟨opening, list, next, rest, lasts, whole, isOpening, isList, notDot, notComma, isAllowed, reaches,
        rfl⟩
    rw [parsed, Statement.ofReferences, Tables.ofReferences_listed, List.map_map]
    rfl
  · intro several notAllowed
    exact parse_of_refused_list isListing isOpening isList whole notAllowed several

/-- Three tables, of which two have the same name, and two tables where only one may be removed. -/
theorem parse_of_list_and_refused :
    let text := "TRUNCATE TABLE ONLY s.T_Order, \"t_order\", ONLY t_user CASCADE"
    let refused := "DROP TABLE t_order, t_user PURGE"
    parse .postgreSQL .empty text = .ok
        { family := .truncate
          tables := ⟨[⟨"T_Order", []⟩, ⟨"t_user", []⟩]⟩
          marks := [⟨22, "T_Order"⟩, ⟨31, "\"t_order\""⟩, ⟨47, "t_user"⟩] } ∧
      parse .oracle .empty refused = .error (.unexpectedToken ⟨.symbol .comma, ",", 18, 19⟩) := by
  intro text refused
  let only (place : Nat) : Token := ⟨.reserved .ONLY, "ONLY", place, place + 4⟩
  let first : Token := ⟨.literal .identifier, "T_Order", 22, 29⟩
  let second : Token := ⟨.literal .identifier, "\"t_order\"", 31, 40⟩
  let third : Token := ⟨.literal .identifier, "t_user", 47, 53⟩
  have isOnly (place : Nat) : Optionally true [.reserved .ONLY] [only place] := .written rfl rfl
  have isList : Separated (ListedTable (Family.truncate.takesOnly .postgreSQL))
      ([only 15, ⟨.literal .identifier, "s", 20, 21⟩, ⟨.symbol .dot, ".", 21, 22⟩, first] ++
        ⟨.symbol .comma, ",", 29, 30⟩ :: ([second] ++
          ⟨.symbol .comma, ",", 40, 41⟩ :: ([only 42, third] ++ []))) [first, second, third] :=
    .mk (.mk (isOnly 15) (.mk rfl (.part rfl rfl .nil)))
      (.item rfl (.mk .missing (.mk rfl .nil)) (.item rfl (.mk (isOnly 42) (.mk rfl .nil)) .nil))
  have read := (@parse_of_list .truncate .postgreSQL .empty text
    [⟨.reserved .TRUNCATE, "TRUNCATE", 0, 8⟩, ⟨.reserved .TABLE, "TABLE", 9, 14⟩] _ [.endAt 61] _
    ⟨.postgreSQL .CASCADE, "CASCADE", 54, 61⟩ (.truncate rfl (.written rfl rfl) nofun) isList
    (by decide +kernel) (by decide +kernel) nofun nofun).1 (.inr rfl)
  have isRefused : Separated (ListedTable (Family.drop.takesOnly .oracle))
      ([⟨.literal .identifier, "t_order", 11, 18⟩] ++ ⟨.symbol .comma, ",", 18, 19⟩ ::
        ([⟨.literal .identifier, "t_user", 20, 26⟩] ++ []))
      [⟨.literal .identifier, "t_order", 11, 18⟩, ⟨.literal .identifier, "t_user", 20, 26⟩] :=
    .mk (.mk .missing (.mk rfl .nil)) (.item rfl (.mk .missing (.mk rfl .nil)) .nil)
  obtain ⟨comma, isFirst, failed⟩ := (@parse_of_list .drop .oracle .empty refused
    [⟨.reserved .DROP, "DROP", 0, 4⟩, ⟨.reserved .TABLE, "TABLE", 5, 10⟩] _ [.endAt 32] _
    ⟨.oracle .PURGE, "PURGE", 27, 32⟩ (.drop rfl .missing rfl .missing) isRefused
    (by decide +kernel) (by decide +kernel) nofun nofun).2 (by simp) rfl
  obtain rfl : ⟨.symbol .comma, ",", 18, 19⟩ = comma := Option.some.inj isFirst
  have tables : Text.distinctNames ([first, second, third].map (·.mark.name)) =
      ["T_Order", "t_user"] := by
    decide +kernel
  rw [tables] at read
  exact ⟨read, failed⟩

end Reading

end SqlSharding
