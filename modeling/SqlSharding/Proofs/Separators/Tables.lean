import Mathlib.Data.List.ReduceOption
import SqlSharding.Proofs.Layout
import SqlSharding.Proofs.Separators

/-!
# Which tables of a `FROM` are read

The list of tables ends at the first token that goes on no list, and what follows is skipped without a
complaint up to the clauses. So a table is read for each separator that the list passes, and a table is
lost for each separator between the token that ends the list and the clauses.
-/

namespace SqlSharding

/-- The tokens that end the tables of a query. -/
def tableTerminators : List Kind :=
  [.reserved .WHERE, .reserved .GROUP, .reserved .HAVING, .reserved .ORDER, .reserved .FOR] ++
    Reading.dialectClauses ++ [.symbol .semicolon, .endOfText]

/-- The number of separators before the first token that ends the tables. -/
def separatorCount (kinds : List Kind) : Nat :=
  (kinds.takeWhile (· ∉ tableTerminators)).countP (· ∈ separators)

/-- Where no token ends the tables, all separators count. -/
theorem separatorCount_append {piece later : List Kind}
    (noTerminator : ∀ kind ∈ piece, kind ∉ tableTerminators) :
    separatorCount (piece ++ later) = piece.countP (· ∈ separators) + separatorCount later := by
  rw [separatorCount, List.takeWhile_append_of_pos (by simpa using noTerminator), List.countP_append]
  rfl

/-- The turn with its value under a function. -/
def Turn.map {α β : Type} (view : α → β) : Turn α → Turn β
  | .again value => .again (view value)
  | .done value => .done (view value)

namespace Reading

variable {α β : Type} {piece first second : List Kind}

/-- A turn of `tableFactors`. -/
def factorsTurn (grammar : Grammar) (factors : List (Option TableReference)) :
    Reading (Turn (List (Option TableReference))) := do
  if ← skipIf [.symbol .comma] then
    return .again (factors ++ [← tableFactor grammar])
  else if ← skipJoinType then
    let joined ← tableFactor grammar
    skipJoinCondition
    return .again (factors ++ [joined])
  else
    return .done factors

/-- Reads the tables of a `FROM` and gives for each of them the reference that it makes, if it makes
one. -/
def tableFactors (grammar : Grammar) : Reading (List (Option TableReference)) := do
  let first ← tableFactor grammar
  repeatTurns (factorsTurn grammar) [first]

/-- A loop over values under a function, where its turns are turns over the values under the function. -/
theorem repeatTurns_map {turn : α → Reading (Turn α)} {turn' : β → Reading (Turn β)} (view : α → β)
    (turns : ∀ value, turn' (view value) = do return (← turn value).map view) (value : α) :
    repeatTurns turn' (view value) = do return view (← repeatTurns turn value) := by
  have within (bound : Nat) (value : α) :
      repeatWithin turn' bound (view value) = do return view (← repeatWithin turn bound value) := by
    induction bound generalizing value with
    | zero => rfl
    | succ bound inductionHypothesis =>
      simp only [repeatWithin, turns, bind_assoc, pure_bind]
      congr 1
      funext decision
      cases decision with
      | done result => rfl
      | again next => exact inductionHypothesis next
  funext cursor
  exact congrFun (within _ value) cursor

/-- A turn over references is a turn over the tables that are read, of which some make no reference. -/
theorem referencesTurn_reduceOption (grammar : Grammar) (factors : List (Option TableReference)) :
    referencesTurn grammar factors.reduceOption =
      do return (← factorsTurn grammar factors).map List.reduceOption := by
  simp only [referencesTurn, factorsTurn, bind_assoc, ite_bind, pure_bind, Turn.map,
    List.reduceOption_append, List.reduceOption_singleton]

/-- The references of a `FROM` are those that its tables make. -/
theorem tableReferences_eq_tableFactors (grammar : Grammar) :
    tableReferences grammar = do return (← tableFactors grammar).reduceOption := by
  rw [tableReferences_eq, tableFactors, bind_assoc]
  congr 1
  funext first
  rw [← List.reduceOption_singleton]
  exact repeatTurns_map List.reduceOption (referencesTurn_reduceOption grammar) [first]

/-- A turn over the tables that are read takes the comma or the word of the join. -/
theorem consumes_factorsTurn (grammar : Grammar) : Consumes (factorsTurn grammar) := by
  intro factors next before after taken
  refine consumes_referencesTurn grammar factors.reduceOption next.reduceOption before after ?_
  rw [referencesTurn_reduceOption]
  exact bind_ok_iff.mpr ⟨.again next, after, taken, rfl⟩

/-- As many tables are added as the piece has separators. -/
def Grows (factors grown : List (Option TableReference)) (piece : List Kind) : Prop :=
  ∃ count, grown.length = factors.length + count ∧ Separates count piece

/-- What is added in two turns is added. -/
theorem Grows.trans {factors grown final : List (Option TableReference)}
    (left : Grows factors grown first) (right : Grows grown final second) :
    Grows factors final (first ++ second) := by
  obtain ⟨count, length, separates⟩ := left
  obtain ⟨countLater, lengthLater, separatesLater⟩ := right
  exact ⟨count + countLater, by omega, separates.append separatesLater⟩

/-- A table behind a separator. -/
theorem Grows.concat {separator : Kind} (isSeparator : separator ∈ separators)
    (separates : SeparatesNamed 0 piece) (factors : List (Option TableReference))
    (factor : Option TableReference) :
    Grows factors (factors ++ [factor]) (separator :: piece) := by
  have isNamer : separator ∈ namers := List.mem_append_right _ isSeparator
  have whole := separates.cons isNamer
  rw [if_pos isSeparator] at whole
  exact ⟨0 + 1, by simp, whole⟩

/-- Words before a separator. -/
theorem Grows.behind {factors grown : List (Option TableReference)}
    (grows : Grows factors grown piece) (separates : Separates 0 first) :
    Grows factors grown (first ++ piece) := by
  obtain ⟨count, length, separatesLater⟩ := grows
  exact ⟨0 + count, by omega, separates.append separatesLater⟩

/-- A turn passes a separator for the table that it adds. -/
theorem leaves_factorsTurn (grammar : Grammar) (factors : List (Option TableReference)) :
    Leaves (fun decision => Grows factors decision.value) (factorsTurn grammar factors) := by
  refine (leaves_skipIf (by decide)).bind fun isComma piece passes => ?_
  cases isComma with
  | true =>
    obtain ⟨comma, isKind, rfl⟩ := passes
    obtain rfl := List.mem_singleton.mp isKind
    refine (leaves_tableFactor grammar).bind fun factor named separates => .pure ?_
    rw [List.append_nil]
    exact .concat (by decide) separates factors factor
  | false =>
    obtain rfl : piece = [] := passes
    refine leaves_skipJoinType.bind fun isJoin piece passes => ?_
    cases isJoin with
    | true =>
      obtain ⟨modifiers, word, isWord, separatesNone, rfl⟩ := passes
      refine (leaves_tableFactor grammar).bind fun factor named separates => ?_
      refine leaves_skipJoinCondition.bind fun _ condition separatesLater => .pure ?_
      have behindWord : SeparatesNamed 0 (named ++ condition) := separates.append separatesLater
      have grows := Grows.concat (List.mem_cons_of_mem _ isWord) behindWord factors factor
      simpa [Turn.value] using grows.behind separatesNone
    | false =>
      obtain rfl : piece = [] := passes
      exact .pure ⟨0, rfl, separates_zero (by simp)⟩

/-- A table is read for each separator that is passed, and one before them. -/
theorem leaves_tableFactors (grammar : Grammar) :
    Leaves (fun factors piece =>
      ∃ count, factors.length = count + 1 ∧ SeparatesNamed count piece) (tableFactors grammar) := by
  refine (leaves_tableFactor grammar).bind fun factor piece separates => ?_
  have loop := Leaves.repeatTurns (consumes_factorsTurn grammar)
    (fun _ _ _ _ _ => Grows.trans) (leaves_factorsTurn grammar) [factor]
  refine loop.mono fun factors later grows => ?_
  obtain ⟨count, length, separatesLater⟩ := grows
  refine ⟨0 + count, ?_, separates.append separatesLater⟩
  rw [length, List.length_singleton]
  omega

/-- Moves past the words before the tables of a query, and tells whether there are tables. -/
def queryOpening (grammar : Grammar) : Reading Bool := do
  discard <| accept (.reserved .SELECT)
  grammar.skipSelectModifiers
  skipSelectList
  skipIf [.reserved .FROM]

/-- A query has an opening, its tables if there is a `FROM`, and its clauses. -/
theorem selectOutline_eq (grammar : Grammar) :
    selectOutline grammar = (do
      let hasTables ← queryOpening grammar
      let references ← if hasTables then tableReferences grammar else pure []
      skipItemsUntil (.symbol .semicolon :: setOperators)
      refuse setOperators
      return ⟨references, []⟩) := by
  simp only [selectOutline, queryOpening, bind_assoc]

/-- The opening of a query is kept up to its `FROM`. -/
theorem keeps_queryOpening {echo : Echo} {grammar : Grammar} (ends : EndsFor echo grammar) :
    Keeps echo false (queryOpening grammar) :=
  .bind (keeps_accept (by simp)) fun _ => .bind (keeps_skipSelectModifiers ends) fun _ =>
    .bind keeps_skipSelectList fun _ => keeps_skipIf (by decide)

/-- The words of the piece stand for what they are: none of them names a table or an alias, or is part of
a name, where it would end the tables or join two of them. -/
structure Plain (piece : List Kind) : Prop where
  noTerminator : ∀ kind ∈ piece, kind ∉ tableTerminators
  joinsNoName : (.reserved .FROM :: piece).IsChain JoinsNoName

/-- The tables that are read and the separators that are left over make up the tables that there are. -/
theorem length_tableFactors {grammar : Grammar} {before after : Cursor}
    {factors : List (Option TableReference)} (settled : before.Settled)
    (read : tableFactors grammar before = .ok factors after) :
    ∃ piece, before.kindsOutside = piece ++ after.kindsOutside ∧
      (Plain piece → factors.length + separatorCount after.kindsOutside =
        separatorCount before.kindsOutside + 1) := by
  obtain ⟨piece, -, whole, count, length, separates⟩ := leaves_tableFactors grammar _ _ _ settled read
  refine ⟨piece, whole, fun plain => ?_⟩
  have noPurpose : .reserved .FOR ∉ piece := fun isIn => plain.noTerminator _ isIn (by decide)
  have counted := separates _ (by decide) noPurpose plain.joinsNoName
  rw [whole, separatorCount_append plain.noTerminator, counted, length]
  omega

variable {dialect : Dialect} {rule : ShardingRule} {text : String} {statement : Statement}

/-- Where a query has tables, its references are those of the tables that are read, and the tables that
are read and the separators between the token that ends them and the clauses make up all tables. -/
theorem exists_factors_of_parse {cursor behindFrom : Cursor}
    (parsed : parse dialect rule text = .ok statement) (begins : cursor.Begins dialect text)
    (opened : queryOpening dialect.grammar cursor = .ok true behindFrom) :
    ∃ factors after piece, tableFactors dialect.grammar behindFrom = .ok factors after ∧
      statement = .ofReferences .select factors.reduceOption ∧
      behindFrom.kindsOutside = piece ++ after.kindsOutside ∧
      (Plain piece → factors.length + separatorCount after.kindsOutside =
        separatorCount behindFrom.kindsOutside + 1) := by
  obtain ⟨other, middle, final, family, outline, begins', onKeyword, read, -, rfl⟩ :=
    parse_ok_iff_outline.mp parsed
  obtain rfl := begins'.unique begins
  have isSelect : family.keyword = .SELECT := by
    obtain ⟨_, _, accepted, -⟩ := bind_ok_iff.mp opened
    exact Kind.reserved.inj (onKeyword.symm.trans (kind_of_discard_accept accepted))
  obtain rfl : family = .select := by
    cases family with
    | select => rfl
    | _ => cases isSelect
  obtain ⟨_, passes, -⟩ :=
    @keeps_queryOpening .relaid dialect.grammar (fun _ => id) _ _ _ begins.settled opened
  rw [Family.outline, selectOutline_eq, bind_ok_iff] at read
  obtain ⟨hasTables, _, opened', read⟩ := read
  rw [opened] at opened'
  cases opened'
  rw [if_pos rfl, tableReferences_eq_tableFactors, bind_assoc, bind_ok_iff] at read
  obtain ⟨factors, after, factorsRead, read⟩ := read
  rw [pure_bind] at read
  obtain ⟨_, _, -, read⟩ := bind_ok_iff.mp read
  obtain ⟨_, _, -, read⟩ := bind_ok_iff.mp read
  obtain ⟨rfl, -⟩ := pure_ok_iff.mp read
  obtain ⟨piece, whole, counted⟩ := length_tableFactors (passes.settled begins.settled) factorsRead
  exact ⟨factors, after, piece, factorsRead, rfl, whole, counted⟩

/-- A sub-query with an alias, a table that is joined, and the table that stands for no table. -/
theorem exists_factors_of_parse_join :
    ∃ (cursor behindFrom after : Cursor) (factors : List (Option TableReference)),
      parse .mySQL .empty "SELECT 1 FROM (SELECT 2) AS y JOIN b, DUAL" =
        .ok (.ofReferences .select factors.reduceOption) ∧
      cursor.Begins .mySQL "SELECT 1 FROM (SELECT 2) AS y JOIN b, DUAL" ∧
      queryOpening .mySQL cursor = .ok true behindFrom ∧
      tableFactors .mySQL behindFrom = .ok factors after ∧
      after.current.kind = .endOfText ∧
      factors.length = separatorCount behindFrom.kindsOutside + 1 := by
  let behindFrom : Cursor := ⟨.mySQL, "SELECT 1 FROM (SELECT 2) AS y JOIN b, DUAL",
    ⟨.symbol .leftParen, "(", 14, 15⟩,
    ⟨[⟨.reserved .SELECT, "SELECT", 15, 21⟩, ⟨.literal .int, "2", 22, 23⟩,
      ⟨.symbol .rightParen, ")", 23, 24⟩, ⟨.reserved .AS, "AS", 25, 27⟩,
      ⟨.literal .identifier, "y", 28, 29⟩, ⟨.reserved .JOIN, "JOIN", 30, 34⟩,
      ⟨.literal .identifier, "b", 35, 36⟩, ⟨.symbol .comma, ",", 36, 37⟩,
      ⟨.mySQL .DUAL, "DUAL", 38, 42⟩, .endAt 42], .finished⟩⟩
  let cursor : Cursor := { behindFrom with
    current := ⟨.reserved .SELECT, "SELECT", 0, 6⟩
    ahead := ⟨⟨.literal .int, "1", 7, 8⟩ :: ⟨.reserved .FROM, "FROM", 9, 13⟩ :: behindFrom.tokens,
      .finished⟩ }
  have parsed : parse .mySQL .empty "SELECT 1 FROM (SELECT 2) AS y JOIN b, DUAL" =
      .ok (.ofReferences .select [⟨⟨35, "b"⟩, none⟩]) :=
    parse_of_toOption (by decide +kernel)
  have begins : cursor.Begins .mySQL "SELECT 1 FROM (SELECT 2) AS y JOIN b, DUAL" :=
    ⟨rfl, rfl, by decide +kernel, by decide +kernel⟩
  have opened : queryOpening .mySQL cursor = .ok true behindFrom := rfl
  obtain ⟨factors, after, piece, read, same, whole, counted⟩ :=
    exists_factors_of_parse parsed begins opened
  have atEnd : after.current.kind = .endOfText ∧ after.kindsOutside = [.endOfText] := by
    cases read
    decide +kernel
  have passed : piece = [.symbol .leftParen, .symbol .rightParen, .reserved .AS, .literal .identifier,
      .reserved .JOIN, .literal .identifier, .symbol .comma, .mySQL .DUAL] := by
    rw [atEnd.2] at whole
    have whole' : behindFrom.kindsOutside = [.symbol .leftParen, .symbol .rightParen, .reserved .AS,
        .literal .identifier, .reserved .JOIN, .literal .identifier, .symbol .comma,
        .mySQL .DUAL] ++ [.endOfText] := by
      decide +kernel
    exact List.append_cancel_right (whole.symm.trans whole')
  refine ⟨cursor, behindFrom, after, factors, same ▸ parsed, begins, opened, read, atEnd.1, ?_⟩
  have plain : Plain piece := by
    subst passed
    exact ⟨by decide, by decide⟩
  have counted := counted plain
  rwa [atEnd.2] at counted

/-- An alias of the table that stands for no table ends the tables, and the table behind it is lost. -/
theorem exists_table_lost :
    ∃ (cursor behindFrom after : Cursor) (factors : List (Option TableReference)),
      parse .mySQL .empty "SELECT 1 FROM DUAL d, t_order" = .ok (.ofReferences .select []) ∧
      cursor.Begins .mySQL "SELECT 1 FROM DUAL d, t_order" ∧
      queryOpening .mySQL cursor = .ok true behindFrom ∧
      tableFactors .mySQL behindFrom = .ok factors after ∧
      factors.length = 1 ∧ separatorCount behindFrom.kindsOutside = 1 := by
  have parsed : parse .mySQL .empty "SELECT 1 FROM DUAL d, t_order" =
      .ok (.ofReferences .select []) :=
    parse_of_toOption (by decide +kernel)
  have begins : Cursor.Begins .mySQL "SELECT 1 FROM DUAL d, t_order"
      ⟨.mySQL, "SELECT 1 FROM DUAL d, t_order", ⟨.reserved .SELECT, "SELECT", 0, 6⟩,
        ⟨[⟨.literal .int, "1", 7, 8⟩, ⟨.reserved .FROM, "FROM", 9, 13⟩, ⟨.mySQL .DUAL, "DUAL", 14, 18⟩,
          ⟨.literal .identifier, "d", 19, 20⟩, ⟨.symbol .comma, ",", 20, 21⟩,
          ⟨.literal .identifier, "t_order", 22, 29⟩, .endAt 29], .finished⟩⟩ :=
    ⟨rfl, rfl, by decide +kernel, by decide +kernel⟩
  exact ⟨_, _, _, _, parsed, begins, rfl, rfl, rfl, by decide +kernel⟩

end Reading

end SqlSharding
