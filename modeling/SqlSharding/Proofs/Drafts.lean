import SqlSharding.Proofs.Outline
import SqlSharding.Statement.Draft

/-!
# What drafts collect

A parser answers the references that it has read and makes a statement of them in the end, while a draft
marks and enters every table when it is read. Both come to the same. As long as no call on a draft fails,
its statement is that of the references that have been read, and a call that fails leaves at most one
mark more. The statements of one table are parsed to what a draft collects by a few calls.
-/

namespace SqlSharding

/-- The statement with tables that are referred to behind those it has. -/
def Statement.addReferences (statement : Statement) (references : List TableReference) : Statement :=
  { statement with
    tables := references.foldl (fun tables reference => tables.add reference.table) statement.tables
    marks := statement.marks ++ references.map (·.mark) }

/-- Nothing is added by no references. -/
@[simp]
theorem Statement.addReferences_nil (statement : Statement) : statement.addReferences [] = statement := by
  rw [addReferences, List.map_nil, List.append_nil, List.foldl_nil]

/-- References are added one list behind the other. -/
theorem Statement.addReferences_append (statement : Statement) (references later : List TableReference) :
    statement.addReferences (references ++ later) =
      (statement.addReferences references).addReferences later := by
  simp only [addReferences, List.foldl_append, List.map_append, List.append_assoc]

/-- The statement of references is an empty one with the references added. -/
theorem Statement.ofReferences_eq_addReferences (family : Family) (references : List TableReference) :
    ofReferences family references = addReferences { family } references :=
  rfl

/-- What a call that fails makes of a statement: at most one mark is added, and no table. -/
inductive Statement.LeftBehind (statement : Statement) : Statement → Prop
  | unchanged : LeftBehind statement statement
  | marked (mark : TableMark) :
      LeftBehind statement { statement with marks := statement.marks ++ [mark] }

namespace Draft

/-- The calls on a draft by which a parser reads: the two that read a table, and any reading that names
no table. -/
inductive Call
  | skip (reading : Reading Unit)
  | plainTable
  | aliasedTable

/-- Makes a call. -/
def make (draft : Draft) : Call → Except ParseError Unit × Draft
  | .skip reading => draft.run reading
  | .plainTable => draft.readPlainTable
  | .aliasedTable => draft.readAliasedTable

/-- Makes calls until one of them fails. -/
def makeAll (draft : Draft) : List Call → Except ParseError Unit × Draft
  | [] => (.ok (), draft)
  | call :: calls =>
    match draft.make call with
    | (.ok (), after) => after.makeAll calls
    | (.error cause, after) => (.error cause, after)

open Reading

/-- Reads what the call reads, and answers the references in place of collecting them. -/
def Call.references : Call → Reading (List TableReference)
  | .skip reading => do
    reading
    return []
  | .plainTable => do
    let reference ← Reading.plainTable
    return [reference]
  | .aliasedTable => do
    let reference ← Reading.aliasedTable
    return [reference]

/-- Reads what calls read, and answers all references. -/
def allReferences : List Call → Reading (List TableReference)
  | [] => return []
  | call :: calls => do
    let found ← call.references
    let others ← allReferences calls
    return found ++ others

/-- What calls read is read piece by piece. -/
theorem allReferences_append (calls later : List Call) :
    allReferences (calls ++ later) = (do
      let found ← allReferences calls
      let others ← allReferences later
      return found ++ others) := by
  induction calls with
  | nil => simp only [allReferences, List.nil_append, pure_bind, bind_pure]
  | cons call calls inductionHypothesis =>
    simp only [List.cons_append, allReferences, inductionHypothesis, bind_assoc, pure_bind,
      List.append_assoc]

variable {draft : Draft} {call : Call} {calls : List Call} {found : List TableReference}
  {cursor : Cursor} {cause : ParseError}

/-- Where a table is read, the draft moves behind it and marks and enters it. -/
theorem readPlainTable_of_ok {reference : TableReference}
    (read : plainTable draft.cursor = .ok reference cursor) :
    draft.readPlainTable = (.ok (), ⟨cursor, draft.statement.addReferences [reference]⟩) := by
  obtain ⟨mark, middle, named, answered⟩ := bind_ok_iff.mp read
  obtain ⟨rfl, rfl⟩ := pure_ok_iff.mp answered
  rw [readPlainTable, readTableMark, run, named]
  rfl

/-- Where no table is read, the draft has collected nothing. -/
theorem readPlainTable_of_error (failed : plainTable draft.cursor = .error cause cursor) :
    draft.readPlainTable = (.error cause, { draft with cursor }) := by
  obtain named | ⟨_, _, -, answered⟩ := bind_error_iff.mp failed
  · rw [readPlainTable, readTableMark, run, named]
  · cases answered

/-- Where a table is read with its alias, the draft moves behind both and marks and enters the table. -/
theorem readAliasedTable_of_ok {reference : TableReference}
    (read : aliasedTable draft.cursor = .ok reference cursor) :
    draft.readAliasedTable = (.ok (), ⟨cursor, draft.statement.addReferences [reference]⟩) := by
  obtain ⟨mark, middle, named, read⟩ := bind_ok_iff.mp read
  obtain ⟨alias?, _, given, answered⟩ := bind_ok_iff.mp read
  obtain ⟨rfl, rfl⟩ := pure_ok_iff.mp answered
  simp only [readAliasedTable, readTableMark, run, named, addMark, given]
  rfl

/-- Where no table is read with its alias, the draft has no further table, but it has the mark of one
whose alias is malformed. -/
theorem exists_readAliasedTable_of_error (failed : aliasedTable draft.cursor = .error cause cursor) :
    ∃ statement, draft.statement.LeftBehind statement ∧
      draft.readAliasedTable = (.error cause, ⟨cursor, statement⟩) := by
  obtain named | ⟨mark, middle, named, failed⟩ := bind_error_iff.mp failed
  · refine ⟨_, .unchanged, ?_⟩
    rw [readAliasedTable, readTableMark, run, named]
  · obtain notGiven | ⟨_, _, -, answered⟩ := bind_error_iff.mp failed
    · refine ⟨_, .marked mark, ?_⟩
      simp only [readAliasedTable, readTableMark, run, named, addMark, notGiven]
    · cases answered

example : (Draft.ofText .update .mySQL "t_order AS 1").makeAll [.skip advance, .aliasedTable] =
    (.error (.unexpectedToken ⟨.literal .int, "1", 11, 12⟩),
      ⟨⟨.mySQL, "t_order AS 1", ⟨.literal .int, "1", 11, 12⟩, ⟨[.endAt 12], .finished⟩⟩,
        { family := .update, marks := [⟨0, "t_order"⟩] }⟩) := by
  decide +kernel

/-- A call collects the references that it reads. -/
theorem make_of_ok (read : call.references draft.cursor = .ok found cursor) :
    draft.make call = (.ok (), ⟨cursor, draft.statement.addReferences found⟩) := by
  cases call with
  | skip reading =>
    obtain ⟨_, _, passed, answered⟩ := bind_ok_iff.mp read
    obtain ⟨rfl, rfl⟩ := pure_ok_iff.mp answered
    rw [make, run, passed, Statement.addReferences_nil]
  | plainTable =>
    obtain ⟨reference, _, read, answered⟩ := bind_ok_iff.mp read
    obtain ⟨rfl, rfl⟩ := pure_ok_iff.mp answered
    exact readPlainTable_of_ok read
  | aliasedTable =>
    obtain ⟨reference, _, read, answered⟩ := bind_ok_iff.mp read
    obtain ⟨rfl, rfl⟩ := pure_ok_iff.mp answered
    exact readAliasedTable_of_ok read

/-- A call fails where nothing is read, and it leaves at most a mark behind. -/
theorem exists_make_of_error (failed : call.references draft.cursor = .error cause cursor) :
    ∃ statement, draft.statement.LeftBehind statement ∧
      draft.make call = (.error cause, ⟨cursor, statement⟩) := by
  -- What is read is answered as it is, so that only the reading itself can fail.
  cases call with
  | skip reading =>
    obtain failed | ⟨_, _, -, answered⟩ := bind_error_iff.mp failed
    · exact ⟨_, .unchanged, by rw [make, run, failed]⟩
    · cases answered
  | plainTable =>
    obtain failed | ⟨_, _, -, answered⟩ := bind_error_iff.mp failed
    · exact ⟨_, .unchanged, readPlainTable_of_error failed⟩
    · cases answered
  | aliasedTable =>
    obtain failed | ⟨_, _, -, answered⟩ := bind_error_iff.mp failed
    · exact exists_readAliasedTable_of_error failed
    · cases answered

/-- Calls collect the references that they read, one behind the other. -/
theorem makeAll_of_ok (read : allReferences calls draft.cursor = .ok found cursor) :
    draft.makeAll calls = (.ok (), ⟨cursor, draft.statement.addReferences found⟩) := by
  induction calls generalizing draft found with
  | nil =>
    obtain ⟨rfl, rfl⟩ := pure_ok_iff.mp read
    rw [makeAll, Statement.addReferences_nil]
  | cons call calls inductionHypothesis =>
    obtain ⟨first, middle, readFirst, behind⟩ := bind_ok_iff.mp read
    obtain ⟨others, _, readOthers, answered⟩ := bind_ok_iff.mp behind
    obtain ⟨rfl, rfl⟩ := pure_ok_iff.mp answered
    rw [makeAll, make_of_ok readFirst, Statement.addReferences_append]
    exact inductionHypothesis readOthers

/-- Calls fail at the first one that reads nothing. What the calls before it have read is collected, and
the one that fails leaves at most a mark behind. -/
theorem exists_makeAll_of_error (failed : allReferences calls draft.cursor = .error cause cursor) :
    ∃ before call behind found middle statement, calls = before ++ call :: behind ∧
      allReferences before draft.cursor = .ok found middle ∧
        call.references middle = .error cause cursor ∧
          (draft.statement.addReferences found).LeftBehind statement ∧
            draft.makeAll calls = (.error cause, ⟨cursor, statement⟩) := by
  induction calls generalizing draft with
  | nil => cases failed
  | cons call calls inductionHypothesis =>
    obtain failed | ⟨first, middle, read, failed⟩ := bind_error_iff.mp failed
    · obtain ⟨statement, left, made⟩ := exists_make_of_error failed
      refine ⟨[], call, calls, [], draft.cursor, statement, rfl, rfl, failed, ?_, ?_⟩
      · rwa [Statement.addReferences_nil]
      · rw [makeAll, made]
    · obtain failed | ⟨_, _, -, answered⟩ := bind_error_iff.mp failed
      · obtain ⟨before, last, behind, found, final, statement, rfl, earlier, failedLast, left, made⟩ :=
          @inductionHypothesis ⟨middle, draft.statement.addReferences first⟩ failed
        rw [← Statement.addReferences_append] at left
        refine ⟨call :: before, last, behind, first ++ found, final, statement, rfl, ?_, failedLast,
          left, ?_⟩
        · rw [allReferences, bind_of_ok read, bind_of_ok earlier]
          rfl
        · rw [makeAll, make_of_ok read]
          exact made
      · cases answered

/-- The statement of a draft is that of the references that its calls have read. -/
theorem makeAll_ofText {family : Family} {dialect : Dialect} {text : String}
    (read : allReferences calls (.ofText dialect text) = .ok found cursor) :
    (ofText family dialect text).makeAll calls = (.ok (), ⟨cursor, .ofReferences family found⟩) := by
  rw [Statement.ofReferences_eq_addReferences]
  exact @makeAll_of_ok (ofText family dialect text) calls found cursor read

end Draft

/-- The calls that read a statement of one table from its first word on. -/
inductive Family.ReadBy (grammar : Grammar) : Family → List Draft.Call → Prop
  | update : ReadBy grammar .update [.skip (Family.update.opening grammar), .aliasedTable,
      .skip (Reading.refuse otherTableKinds), .skip (Reading.updateBody grammar)]
  | delete : ReadBy grammar .delete [.skip (Family.delete.opening grammar), .aliasedTable,
      .skip (Reading.refuse otherTableKinds), .skip (Reading.skipUntil [.symbol .semicolon])]
  | create : ReadBy grammar .create [.skip (Family.create.opening grammar), .plainTable,
      .skip (Reading.skipUntil [.symbol .semicolon])]
  | alter : ReadBy grammar .alter [.skip (Family.alter.opening grammar), .plainTable,
      .skip (Reading.skipUntil [.symbol .semicolon])]

namespace Reading

open Draft

variable {dialect : Dialect} {rule : ShardingRule} {text : String} {grammar : Grammar}
  {family : Family} {calls : List Call} {start : Cursor}

/-- The outline of such a statement has the references that its calls read. -/
theorem outline_eq_allReferences (isRead : family.ReadBy grammar calls) :
    family.outline grammar = (do
      let found ← allReferences calls
      return ⟨found, []⟩) := by
  rw [Family.outline_eq_body]
  cases isRead <;>
    simp only [Family.body, updateRest, oneTarget, allReferences, Call.references, bind_assoc, pure_bind,
      List.append_nil, List.nil_append]

/-- The statement that the parser makes is that of the references that the calls read. -/
theorem parser_eq_allReferences (isRead : family.ReadBy grammar calls) (rule : ShardingRule) :
    family.parser grammar rule = (do
      let found ← allReferences (calls ++ [.skip (discard <| skipIf [.symbol .semicolon])])
      return .ofReferences family found) := by
  have made (found : List TableReference) :
      Outline.statement rule family ⟨found, []⟩ = .ofReferences family found := by
    cases isRead <;> rfl
  simp only [Family.parser_eq, outline_eq_allReferences isRead, allReferences_append, allReferences,
    Call.references, bind_assoc, pure_bind, List.append_nil, made]

/-- A text that begins with the first word of a statement of one table is parsed to the statement that a
draft collects by its calls, between the first move and the semicolon that may end the statement. The
text is refused for what the first of these calls that fails is refused for. -/
theorem parse_eq_makeAll (isRead : family.ReadBy dialect.grammar calls)
    (begins : start.Begins dialect text)
    (onKeyword : start.current.kind = .reserved family.keyword) :
    parse dialect rule text =
      match (Draft.ofText family dialect text).makeAll
        (.skip advance :: (calls ++ [.skip (discard <| skipIf [.symbol .semicolon])])) with
      | (.ok (), draft) => .ok draft.statement
      | (.error cause, _) => .error cause := by
  generalize same : calls ++ [.skip (discard <| skipIf [.symbol .semicolon])] = behind
  have moved : allReferences (.skip advance :: behind) (.ofText dialect text) =
      allReferences behind start := by
    simp only [allReferences, Call.references, bind_assoc, pure_bind, List.nil_append, bind_pure]
    exact bind_of_ok (advance_of_begins begins)
  rw [parse_of_advance (advance_of_begins begins), statementOf_of_keyword onKeyword,
    parser_eq_allReferences isRead, same]
  cases read : allReferences behind start with
  | ok found after =>
    rw [bind_of_ok read, makeAll_ofText (moved.trans read)]
    rfl
  | error cause after =>
    have failed : allReferences (.skip advance :: behind) (Draft.ofText family dialect text).cursor =
        .error cause after := moved.trans read
    obtain ⟨_, _, _, _, _, statement, -, -, -, -, made⟩ := exists_makeAll_of_error failed
    rw [bind_error_iff.mpr (.inl read), made]
    rfl

end Reading

end SqlSharding
