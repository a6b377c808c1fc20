import SqlSharding.Proofs.Progress.Rounds

/-!
# The loops of the readings

Every loop of the readings, each as turns that make progress wherever the loop is entered: over the select
list, the tables of a `FROM`, join conditions, the rest of a query or an update, values and columns, hints,
lists of tables, and what is skipped. Two of them are loops here in which every item has a turn of its own,
the first one, too, and in which the end of a statement is found in a turn and not behind the loop.
-/

namespace SqlSharding.Reading

open Cursor

variable {α β : Type} {turn : α → Reading (Turn α)} {kinds : List Kind} {before after : Cursor}

/-- A turn that reads an item, adds what it gives to a list, and asks for another one behind a
separator. -/
def listTurn (separator : Kind) (item : Reading α) (items : List α) : Reading (Turn (List α)) := do
  let items := items ++ [← item]
  if ← skipIf [separator] then
    return .again items
  else
    return .done items

/-- A turn over the rest of a statement. Some kinds of tokens are refused, and behind a semicolon the
statement is over. -/
def restTurn (refused : List Kind) (_ : Unit) : Reading (Turn Unit) := do
  refuse refused
  if ← isAtEnd then
    return .done ()
  else if ← skipIf [.symbol .semicolon] then
    return .done ()
  else
    skipItem
    return .again ()

/-- An item of a list stands on a token. -/
def NeverAtEnd (item : Reading α) : Prop :=
  ∀ value before after, item before = .ok value after → before.current.kind ≠ .endOfText

/-- A name stands on a token. -/
theorem neverAtEnd_qualifiedName : NeverAtEnd qualifiedName := by
  intro value before after passed
  rw [qualifiedName_eq] at passed
  obtain ⟨first, middle, isName, -⟩ := bind_ok_iff.mp passed
  rw [namePart, current_bind] at isName
  split at isName
  · rename_i named
    intro atEnd
    simp [atEnd, Kind.isName, Kind.isDialectKeyword] at named
  · cases isName

/-- What begins with an item that stands on a token stands on a token. -/
theorem NeverAtEnd.bind {item : Reading α} (neverAtEnd : NeverAtEnd item) (next : α → Reading β) :
    NeverAtEnd (item >>= next) := by
  intro value before after passed
  obtain ⟨found, middle, first, -⟩ := bind_ok_iff.mp passed
  exact neverAtEnd _ _ _ first

/-- The name of a column stands on a token. -/
theorem neverAtEnd_columnName : NeverAtEnd columnName :=
  neverAtEnd_qualifiedName.bind _

/-- An assignment stands on a token. -/
theorem neverAtEnd_assignment : NeverAtEnd assignment :=
  neverAtEnd_columnName.bind _

/-- A turn over a list that asks for another one has read an item and a separator. -/
theorem listTurn_again {separator : Kind} {item : Reading α} {items next : List α}
    (taken : listTurn separator item items before = .ok (.again next) after) :
    ∃ value middle, item before = .ok value middle ∧ skipIf [separator] middle = .ok true after ∧
      next = items ++ [value] := by
  obtain ⟨value, middle, read, taken⟩ := bind_ok_iff.mp taken
  obtain ⟨skipped, final, separated, taken⟩ := bind_ok_iff.mp taken
  cases skipped with
  | true =>
    obtain ⟨same, rfl⟩ := pure_ok_iff.mp taken
    exact ⟨value, middle, read, separated, Turn.again.inj same⟩
  | false => exact nomatch (pure_ok_iff.mp taken).1

/-- A turn over a list takes the separator if it asks for another turn. -/
theorem consumes_listTurn {separator : Kind} {item : Reading α} (notEnd : separator ≠ .endOfText)
    (proceeds : Proceeds item) : Consumes (listTurn separator item) := by
  intro items next before after taken
  obtain ⟨value, middle, read, separated, -⟩ := listTurn_again taken
  exact Nat.lt_of_lt_of_le (skipIf_remaining_lt (by simpa using Ne.symm notEnd) separated)
    (proceeds _ _ _ read)

/-- A list whose first item is read before the loop over the others is a loop over all of them. -/
theorem repeatTurns_listTurn {separator : Kind} {item : Reading α} (notEnd : separator ≠ .endOfText)
    (proceeds : Proceeds item) (items : List α) :
    repeatTurns (listTurn separator item) items =
      item >>= fun first => repeatTurns (itemAfter separator item) (items ++ [first]) := by
  funext cursor
  induction bound : cursor.remaining using Nat.strongRecOn generalizing cursor items with
  | _ bound inductionHypothesis =>
    rw [repeatTurns_eq (consumes_listTurn notEnd proceeds)]
    simp only [listTurn, bind_assoc]
    cases read : item cursor with
    | error cause after => simp only [bind, EStateM.bind, read]
    | ok first middle =>
      rw [bind_of_ok read, bind_of_ok read, repeatTurns_eq (consumes_itemAfter notEnd proceeds)]
      simp only [itemAfter, turnAfter, bind_assoc]
      cases separated : skipIf [separator] middle with
      | error cause after => simp only [bind, EStateM.bind, separated]
      | ok isSeparated further =>
        rw [bind_of_ok separated, bind_of_ok separated]
        cases isSeparated with
        | false => rfl
        | true =>
          have consumed := Nat.lt_of_lt_of_le
            (skipIf_remaining_lt (by simpa using Ne.symm notEnd) separated) (proceeds _ _ _ read)
          have rest := inductionHypothesis _ (bound ▸ consumed) (items ++ [first]) further rfl
          simpa [bind_assoc, itemAfter] using rest

/-- Behind a refusal, what is next is read where no refused token stands. -/
theorem refuse_bind (refused : List Kind) (next : Unit → Reading α) (cursor : Cursor) :
    (refuse refused >>= next) cursor =
      if cursor.isOn refused = true then .error (.unsupportedToken cursor.current) cursor
      else next () cursor := by
  by_cases isOn : cursor.isOn refused = true <;> simp [bind, EStateM.bind, refuse, isOn]

/-- A turn over the rest of a statement refuses a token, ends at the end or behind a semicolon, or skips
an item. -/
theorem restTurn_eq (refused : List Kind) (cursor : Cursor) :
    restTurn refused () cursor =
      if cursor.isOn refused = true then .error (.unsupportedToken cursor.current) cursor
      else if cursor.isAtEnd = true then .ok (.done ()) cursor
      else if cursor.isOn [.symbol .semicolon] = true then
        (advance >>= fun _ => pure (.done ())) cursor
      else (skipItem >>= fun _ => pure (.again ())) cursor := by
  rw [restTurn, refuse_bind]
  split
  · rfl
  rw [isAtEnd_bind]
  split
  · rfl
  simp only [skipIf, bind_assoc, isOn_bind]
  split <;> simp

/-- A turn over the rest of a statement asks for another one behind an item. -/
theorem restTurn_again {refused : List Kind} {value next : Unit}
    (taken : restTurn refused value before = .ok (.again next) after) :
    before.isAtEnd = false ∧ skipItem before = .ok () after := by
  rw [restTurn_eq] at taken
  split at taken
  · cases taken
  split at taken
  · cases taken
  rename_i notAtEnd
  refine ⟨Bool.eq_false_iff.mpr notAtEnd, ?_⟩
  split at taken <;> obtain ⟨_, middle, passed, taken⟩ := bind_ok_iff.mp taken
  · exact nomatch (pure_ok_iff.mp taken).1
  · obtain ⟨-, rfl⟩ := pure_ok_iff.mp taken
    exact passed

/-- A turn over the rest of a statement takes an item if it asks for another turn. -/
theorem consumes_restTurn (refused : List Kind) : Consumes (restTurn refused) := by
  intro value next before after taken
  obtain ⟨notAtEnd, passed⟩ := restTurn_again taken
  exact skipItem_remaining_lt notAtEnd passed

/-- On the end, a semicolon, or a token that is refused, the loop has one turn. -/
theorem repeatTurns_restTurn_of_stop {refused : List Kind} {cursor : Cursor}
    (stopped : cursor.current.kind = .endOfText ∨ cursor.current.kind = .symbol .semicolon ∨
      cursor.current.kind ∈ refused) :
    repeatTurns (restTurn refused) () cursor = (do
      refuse refused
      discard <| skipIf [.symbol .semicolon]) cursor := by
  rw [repeatTurns_eq (consumes_restTurn refused), refuse_bind]
  by_cases isRefused : cursor.isOn refused = true
  · simp only [bind, EStateM.bind, restTurn_eq, if_pos isRefused]
  rw [if_neg isRefused, discard_eq]
  by_cases atEnd : cursor.isAtEnd = true
  · have ended : restTurn refused () cursor = .ok (.done ()) cursor := by
      rw [restTurn_eq, if_neg isRefused, if_pos atEnd]
    have notOn : ¬cursor.isOn [.symbol .semicolon] = true := by
      simp [isOn_iff, isAtEnd_iff.mp atEnd]
    rw [bind_of_ok ended]
    simp only [skipIf, bind_assoc, isOn_bind, if_neg notOn, pure_bind]
  · have isOn : cursor.isOn [.symbol .semicolon] = true := by
      rw [isOn_iff, List.mem_singleton]
      exact (stopped.resolve_left (mt isAtEnd_iff.mpr atEnd)).resolve_right (mt isOn_iff.mpr isRefused)
    have ended : restTurn refused () cursor = (advance >>= fun _ => pure (.done ())) cursor := by
      rw [restTurn_eq, if_neg isRefused, if_neg atEnd, if_pos isOn]
    rw [bind_congr_of_eq ended]
    simp only [skipIf, bind_assoc, isOn_bind, if_pos isOn, pure_bind]

/-- Items are skipped up to a semicolon or a token that is refused, and then either of them is met: that is
a loop in which every turn looks for them. -/
theorem repeatTurns_restTurn {refused kinds : List Kind}
    (stops : ∀ kind, kind ∈ kinds ↔ kind = .symbol .semicolon ∨ kind ∈ refused) (afterDot : Bool) :
    repeatTurns (restTurn refused) () = (do
      discard <| repeatTurns (itemTurn fun _ kind => kinds.contains kind) afterDot
      refuse refused
      discard <| skipIf [.symbol .semicolon]) := by
  funext cursor
  induction bound : cursor.remaining using Nat.strongRecOn generalizing cursor afterDot with
  | _ bound inductionHypothesis =>
    rw [repeatTurns_eq (consumes_itemTurn _), discard_eq]
    simp only [bind_assoc]
    by_cases stopped : cursor.current.kind = .endOfText ∨ cursor.current.kind ∈ kinds
    · have done : itemTurn (fun _ kind => kinds.contains kind) afterDot cursor =
          .ok (.done afterDot) cursor := by
        rw [itemTurn, current_bind, if_pos (by simpa using stopped)]
        rfl
      rw [bind_of_ok done, repeatTurns_restTurn_of_stop (stopped.imp_right (stops _).mp)]
      simp only [pure_bind]
    · obtain ⟨notEnd, goesOn⟩ := not_or.mp stopped
      rw [stops, not_or] at goesOn
      have item : itemTurn (fun _ kind => kinds.contains kind) afterDot cursor =
          (skipItem >>= fun _ => pure (.again (cursor.current.kind = .symbol .dot))) cursor := by
        rw [itemTurn, current_bind, if_neg (by simpa using stopped)]
      have onward : restTurn refused () cursor = (skipItem >>= fun _ => pure (.again ())) cursor := by
        rw [restTurn_eq, if_neg (mt isOn_iff.mp goesOn.2), if_neg (mt isAtEnd_iff.mp notEnd),
          if_neg (by simpa [isOn_iff] using goesOn.1)]
      rw [repeatTurns_eq (consumes_restTurn refused), bind_congr_of_eq item, bind_congr_of_eq onward]
      simp only [bind_assoc, pure_bind]
      cases passed : skipItem cursor with
      | error cause after => simp only [bind, EStateM.bind, passed]
      | ok _ after =>
        have notAtEnd : cursor.isAtEnd = false := Bool.eq_false_iff.mpr (mt isAtEnd_iff.mp notEnd)
        have shorter := skipItem_remaining_lt notAtEnd passed
        rw [bind_of_ok passed, bind_of_ok passed, inductionHypothesis _ (bound ▸ shorter)
          (cursor.current.kind = .symbol .dot) after rfl, discard_eq]
        simp only [bind_assoc, pure_bind]

/-- The rest of a query is passed by a loop that refuses set operators. -/
theorem skipSelectRest_eq : skipSelectRest = repeatTurns (restTurn setOperators) () :=
  (repeatTurns_restTurn (fun _ => List.mem_cons) false).symm

/-- The rest of an update is passed by a loop that refuses another `FROM`. -/
theorem skipUpdateRest_eq : skipUpdateRest = repeatTurns (restTurn [.reserved .FROM]) () := by
  have stops (kind : Kind) : kind ∈ [.reserved .FROM, .symbol .semicolon] ↔
      kind = .symbol .semicolon ∨ kind ∈ [.reserved .FROM] := by
    simp only [List.mem_cons, List.not_mem_nil, or_false]
    exact or_comm
  exact (repeatTurns_restTurn stops false).symm

/-- The columns between parentheses are read by a loop with a turn for each column. -/
theorem columnList_eq_listTurn :
    columnList = (do
      discard <| accept (.symbol .leftParen)
      let columns ← repeatTurns (listTurn (.symbol .comma) columnName) []
      discard <| accept (.symbol .rightParen)
      return columns) := by
  rw [columnList_eq, repeatTurns_listTurn (by decide) proceeds_columnName]
  simp only [bind_assoc, List.nil_append]

/-- The columns that are assigned to are read by a loop with a turn for each assignment. -/
theorem assignedColumns_eq_listTurn :
    assignedColumns = repeatTurns (listTurn (.symbol .comma) assignment) [] := by
  rw [assignedColumns_eq, repeatTurns_listTurn (by decide) proceeds_assignment]
  rfl

/-- The words between `SELECT` and its list that are skipped in any order. -/
def selectModifiers : Grammar → List Kind
  | .mySQL => [.reserved .DISTINCT, .reserved .ALL, .mySQL .DISTINCTROW, .mySQL .HIGH_PRIORITY,
      .mySQL .STRAIGHT_JOIN, .mySQL .SQL_CALC_FOUND_ROWS, .mySQL .SQL_NO_CACHE]
  | .oracle | .sqlServer | .postgreSQL => [.reserved .DISTINCT, .reserved .ALL]

/-- Behind `SELECT` some words are skipped in any order, and in one grammar a row limit. -/
theorem skipSelectModifiers_eq (grammar : Grammar) :
    grammar.skipSelectModifiers = (do
      skipAll (selectModifiers grammar)
      if grammar = .sqlServer then Grammar.skipTop) := by
  cases grammar <;> simp [Grammar.skipSelectModifiers, selectModifiers]

/-- The words between `INSERT` and `INTO`. -/
def insertModifiers : List Kind := [
  .mySQL .LOW_PRIORITY, .mySQL .DELAYED, .mySQL .HIGH_PRIORITY, .mySQL .IGNORE]

/-- The words between `UPDATE` and the table. -/
def updateModifiers : List Kind := [.mySQL .LOW_PRIORITY, .mySQL .IGNORE]

/-- The words between `DELETE` and `FROM`. -/
def deleteModifiers : List Kind := [.mySQL .LOW_PRIORITY, .mySQL .QUICK, .mySQL .IGNORE]

/-- The words for the purpose of an index hint. -/
def hintPurposes : List Kind := [.reserved .JOIN, .reserved .ORDER, .reserved .GROUP, .reserved .BY]

/-- Where a token was skipped it had one of the kinds. -/
theorem kind_mem_of_skipIf (skipped : skipIf kinds before = .ok true after) :
    before.current.kind ∈ kinds := by
  rw [skipIf, isOn_bind] at skipped
  split at skipped
  · exact isOn_iff.mp ‹_›
  · exact absurd (pure_ok_iff.mp skipped).1 Bool.false_ne_true.symm

variable {expects : Kind → Prop}

/-- Turns that skip a token make progress. -/
theorem progresses_turnAfter {body : α → Reading α} (noEnd : .endOfText ∉ kinds)
    (proceeds : ∀ value, Proceeds (body value)) (moves : ∀ value, Moves expects (body value)) :
    Progresses (turnAfter kinds body) := by
  refine .of_moves (consumes_turnAfter noEnd proceeds) (.turnAfter (moves_skipIf kinds) moves) ?_
  intro value next before after taken atEnd
  obtain ⟨middle, skipped, -⟩ := turnAfter_again_iff.mp taken
  exact noEnd (atEnd ▸ kind_mem_of_skipIf skipped)

/-- The turns over items make progress. -/
theorem progresses_itemTurn (stops : (afterDot : Bool) → Kind → Bool) : Progresses (itemTurn stops) := by
  have composed (afterDot : Bool) : Moves (fun _ => True) (itemTurn stops afterDot) :=
    moves_itemTurn stops afterDot
  refine .of_moves (consumes_itemTurn stops) composed ?_
  intro afterDot next before after taken atEnd
  rw [itemTurn, current_bind, if_pos (by simp [atEnd])] at taken
  cases taken

/-- The turns over a list make progress. -/
theorem progresses_listTurn {separator : Kind} {item : Reading α} (notEnd : separator ≠ .endOfText)
    (neverAtEnd : NeverAtEnd item) (proceeds : Proceeds item) (moves : Moves expects item) :
    Progresses (listTurn separator item) := by
  have composed (items : List α) : Moves expects (listTurn separator item items) :=
    .bind moves fun _ => .bind (moves_skipIf _) fun _ => .ite (.pure _) (.pure _)
  refine .of_moves (consumes_listTurn notEnd proceeds) composed ?_
  intro items next before after taken
  obtain ⟨value, middle, read, -⟩ := listTurn_again taken
  exact neverAtEnd _ _ _ read

/-- The turns over the rest of a statement make progress. -/
theorem progresses_restTurn (refused : List Kind) : Progresses (restTurn refused) := by
  have composed (value : Unit) : Moves (fun _ => True) (restTurn refused value) := by
    refine .bind (.basic (.refuse refused)) fun _ => ?_
    exact .bind (.basic (.asks fun cursor => cursor.isAtEnd)) fun _ => .ite (.pure _)
      (.bind (moves_skipIf _) fun _ => .ite (.pure _) (.bind moves_skipItem fun _ => .pure _))
  refine .of_moves (consumes_restTurn refused) composed ?_
  intro value next before after taken
  exact mt isAtEnd_iff.mpr (Bool.eq_false_iff.mp (restTurn_again taken).1)

/-- The turns of skipping up to some kinds make progress. -/
theorem progresses_untilTurn (kinds : List Kind) : Progresses (untilTurn kinds) := by
  have composed (value : Unit) : Moves (fun _ => True) (untilTurn kinds value) :=
    .bind (.basic (.asks fun cursor => cursor.isAtEnd)) fun _ => .ite (.pure _)
      (.bind (moves_isOn kinds) fun _ => .ite (.pure _) (.bind (.basic .advance) fun _ => .pure _))
  refine .of_moves (consumes_untilTurn kinds) composed ?_
  intro value next before after taken atEnd
  rw [untilTurn_eq, if_pos (.inl (isAtEnd_iff.mpr atEnd))] at taken
  cases taken

/-- The turns in a group make progress. -/
theorem progresses_groupTurn : Progresses groupTurn := by
  have composed (progress : GroupProgress) : Moves (fun _ => True) (groupTurn progress) :=
    .bind moves_current fun _ => .ite (.basic .unexpected)
      (.bind (.basic .advance) fun _ => .ite (.pure _) (.pure _))
  refine .of_moves consumes_groupTurn composed ?_
  intro progress next before after taken atEnd
  rw [groupTurn, current_bind, if_pos atEnd] at taken
  cases taken

/-- The turns over the tables of a query make progress. -/
theorem progresses_referencesTurn (grammar : Grammar) : Progresses (referencesTurn grammar) := by
  refine .of_moves (consumes_referencesTurn grammar)
    (fun references => moves_of_steps (steps_referencesTurn grammar references)) ?_
  intro references next before after taken atEnd
  have notComma : ¬before.isOn [.symbol .comma] = true := by
    simp [isOn_iff, atEnd]
  have notJoin : skipJoinType before = .ok false before := by
    rw [skipJoinType, isOn_bind, if_neg (by rw [isOn_iff, atEnd]; decide)]
    rfl
  simp only [referencesTurn, skipIf, bind_assoc, isOn_bind, if_neg notComma, pure_bind] at taken
  rw [if_neg Bool.false_ne_true, bind_of_ok notJoin] at taken
  cases taken

/-- The turns over a list of tables make progress. -/
theorem progresses_tableListTurn (allowed : Bool) {table : Reading TableReference}
    (proceeds : Proceeds table) (moves : Moves expects table) :
    Progresses (tableListTurn allowed table) := by
  have composed (references : List TableReference) :
      Moves expects (tableListTurn allowed table references) :=
    .bind (moves_isOn _) fun _ => .ite (.ite (.bind (.basic .advance) fun _ =>
      .bind moves fun _ => .pure _) (.basic .unexpected)) (.pure _)
  refine .of_moves (consumes_tableListTurn proceeds) composed ?_
  intro references next before after taken atEnd
  have notComma : ¬before.isOn [.symbol .comma] = true := by
    simp [isOn_iff, atEnd]
  rw [tableListTurn, isOn_bind, if_neg notComma] at taken
  cases taken

/-- A turn that skips a token. -/
abbrev skipTurn (kinds : List Kind) : Unit → Reading (Turn Unit) :=
  turnAfter kinds fun _ => pure ()

/-- The turns that skip tokens of some kinds make progress. -/
theorem progresses_skipTurn (noEnd : .endOfText ∉ kinds) : Progresses (skipTurn kinds) := by
  have moves (value : Unit) : Moves (fun _ => True) (pure value) := .pure value
  exact progresses_turnAfter noEnd (fun _ => .pure ()) moves

/-- The turns over the parts of a name make progress. -/
theorem progresses_partTurn : Progresses (turnAfter [.symbol .dot] fun _ : Token => namePart) := by
  have moves (_ : Token) : Moves (fun _ => True) namePart := moves_namePart
  exact progresses_turnAfter (by decide) (fun _ => proceeds_namePart) moves

/-- A turn that skips an item of a run that ends before a token of the kinds. -/
abbrev itemUntilTurn (kinds : List Kind) : Bool → Reading (Turn Bool) :=
  itemTurn fun _ kind => kinds.contains kind

/-- The readings run these loops, and each loop makes progress wherever it is entered. -/
structure LoopsProgress (grammar : Grammar) : Prop where
  selectList : let stops := [.reserved .FROM, .symbol .semicolon] ++ setOperators
    skipSelectList = discard (repeatTurns (itemUntilTurn stops) false) ∧ Progresses (itemUntilTurn stops)
  references : tableReferences grammar = (do
      let first ← tableFactor grammar
      repeatTurns (referencesTurn grammar) first.toList) ∧ Progresses (referencesTurn grammar)
  joinCondition : skipJoinCondition = (do
      if ← skipIf [.reserved .USING] then
        discard skipGroup
      else if ← skipIf [.reserved .ON] then
        discard (repeatTurns (itemTurn endsCondition) false)) ∧ Progresses (itemTurn endsCondition)
  selectRest : skipSelectRest = repeatTurns (restTurn setOperators) () ∧ Progresses (restTurn setOperators)
  updateRest : skipUpdateRest = repeatTurns (restTurn [.reserved .FROM]) () ∧
    Progresses (restTurn [.reserved .FROM])
  assignedValue : let stops := [.symbol .comma, .symbol .semicolon, .reserved .ON]
    skipAssignedValue = discard (repeatTurns (itemUntilTurn stops) false) ∧ Progresses (itemUntilTurn stops)
  columns : columnList = (do
      discard <| accept (.symbol .leftParen)
      let columns ← repeatTurns (listTurn (.symbol .comma) columnName) []
      discard <| accept (.symbol .rightParen)
      return columns) ∧ Progresses (listTurn (.symbol .comma) columnName)
  assignments : assignedColumns = repeatTurns (listTurn (.symbol .comma) assignment) [] ∧
    Progresses (listTurn (.symbol .comma) assignment)
  indexHints : Grammar.mySQL.skipTableHints =
      repeatTurns (turnAfter indexHintVerbs fun _ => indexHint) () ∧
    Progresses (turnAfter indexHintVerbs fun _ : Unit => indexHint)
  dropped : let allowed := grammar.multipleDropTables
    tableList allowed plainTable = (do
      let first ← plainTable
      repeatTurns (tableListTurn allowed plainTable) [first]) ∧
    Progresses (tableListTurn allowed plainTable)
  truncated : let allowed := grammar.multipleTruncateTables
    let table : Reading TableReference := do
      grammar.skipOnly
      plainTable
    tableList allowed table = (do
      let first ← table
      repeatTurns (tableListTurn allowed table) [first]) ∧ Progresses (tableListTurn allowed table)
  skipsUntil : ∀ kinds, skipUntil kinds = repeatTurns (untilTurn kinds) () ∧ Progresses (untilTurn kinds)
  skipsAll : ∀ kinds, .endOfText ∉ kinds →
    skipAll kinds = repeatTurns (skipTurn kinds) () ∧ Progresses (skipTurn kinds)
  selectModifiers : .endOfText ∉ selectModifiers grammar ∧ grammar.skipSelectModifiers = (do
    skipAll (selectModifiers grammar)
    if grammar = .sqlServer then Grammar.skipTop)
  insertModifiers : .endOfText ∉ insertModifiers ∧
    Grammar.mySQL.skipInsertModifiers = skipAll insertModifiers
  updateModifiers : .endOfText ∉ updateModifiers ∧
    Grammar.mySQL.skipUpdateModifiers = skipAll updateModifiers
  deleteModifiers : .endOfText ∉ deleteModifiers ∧ Grammar.mySQL.skipDeletePrefix = (do
    skipAll deleteModifiers
    discard <| accept (.reserved .FROM))
  hintPurposes : .endOfText ∉ hintPurposes ∧ indexHint = (do
    discard <| skipIf [.reserved .INDEX, .reserved .KEY]
    if ← skipIf [.reserved .FOR] then
      skipAll hintPurposes
    discard skipGroup)
  joinModifiers : .endOfText ∉ joinModifiers ∧ skipJoinType = (do
    if ← isOn (joinModifiers ++ joinKeywords) then
      skipAll joinModifiers
      if ← skipIf joinKeywords then
        return true
      else
        unexpected
    else
      return false)
  group : skipGroup = (do
      if ← isOn [.symbol .leftParen] then
        let start := (← current).start
        let progress ← repeatTurns groupTurn ⟨0, start⟩
        return (← get).slice start progress.stop
      else
        return "") ∧ Progresses groupTurn
  names : qualifiedName = (do
      let first ← namePart
      repeatTurns (turnAfter [.symbol .dot] fun _ => namePart) first) ∧
    Progresses (turnAfter [.symbol .dot] fun _ : Token => namePart)

/-- Every loop of the readings makes progress: each turn that asks for another one begins on a token of the
text and ends behind it, and there are no more turns than two and one for each character left. -/
theorem loops_progress (grammar : Grammar) : LoopsProgress grammar where
  selectList := ⟨rfl, progresses_itemTurn _⟩
  references := ⟨rfl, progresses_referencesTurn grammar⟩
  joinCondition := ⟨rfl, progresses_itemTurn _⟩
  selectRest := ⟨skipSelectRest_eq, progresses_restTurn _⟩
  updateRest := ⟨skipUpdateRest_eq, progresses_restTurn _⟩
  assignedValue := ⟨rfl, progresses_itemTurn _⟩
  columns := ⟨columnList_eq_listTurn, progresses_listTurn (by decide) neverAtEnd_columnName
    proceeds_columnName (moves_of_steps steps_columnName)⟩
  assignments := ⟨assignedColumns_eq_listTurn, progresses_listTurn (by decide) neverAtEnd_assignment
    proceeds_assignment moves_assignment⟩
  indexHints := ⟨skipIndexHints_eq, progresses_turnAfter (by decide) (fun _ => proceeds_indexHint)
    fun _ => moves_of_steps steps_indexHint⟩
  dropped := ⟨rfl, progresses_tableListTurn _ proceeds_plainTable (moves_of_steps steps_plainTable)⟩
  truncated := ⟨rfl, progresses_tableListTurn _ (proceeds_truncatedTable grammar)
    (moves_of_steps (steps_truncatedTable grammar))⟩
  skipsUntil kinds := ⟨rfl, progresses_untilTurn kinds⟩
  skipsAll kinds noEnd := ⟨skipAll_eq kinds, progresses_skipTurn noEnd⟩
  selectModifiers := ⟨by cases grammar <;> decide, skipSelectModifiers_eq grammar⟩
  insertModifiers := ⟨by decide, rfl⟩
  updateModifiers := ⟨by decide, rfl⟩
  deleteModifiers := ⟨by decide, rfl⟩
  hintPurposes := ⟨by decide, rfl⟩
  joinModifiers := ⟨by decide, rfl⟩
  group := ⟨rfl, progresses_groupTurn⟩
  names := ⟨rfl, progresses_partTurn⟩

end SqlSharding.Reading
