import SqlSharding.Proofs.Outline.Target
import SqlSharding.Proofs.Separators.Tables

/-!
# No second source

An update changes one table and reads from no other one in its clauses, and a query is not combined
with another one. Both are refused for a token outside of groups, so the readings before that check
must not step over such a token: each of them is shown to leave none behind.
-/

namespace SqlSharding

/-- The tokens that end a statement. -/
def statementEnds : List Kind := [.symbol .semicolon, .endOfText]

/-- The kinds of the tokens outside of groups, up to the token that ends the statement. -/
def statementKinds (tokens : List Token) : List Kind :=
  ((outside 0 tokens).map (·.1)).takeWhile (· ∉ statementEnds)

/-- What is passed up to the end of a statement makes up the statement. -/
theorem statementKinds_eq {before after : Cursor} {piece : List Kind}
    (whole : before.kindsOutside = piece ++ after.kindsOutside)
    (goesOn : ∀ kind ∈ piece, kind ∉ statementEnds) (ended : after.AtStatementEnd) :
    statementKinds before.tokens = piece := by
  have isEnd : after.current.kind ∈ statementEnds := by
    rcases ended with atEnd | onSemicolon
    · simp [statementEnds, atEnd]
    · simp [statementEnds, onSemicolon]
  have nothingLeft : statementKinds after.tokens = [] := by
    rw [statementKinds, Cursor.tokens, outside]
    simp [isEnd]
  change List.takeWhile _ before.kindsOutside = piece
  change List.takeWhile _ after.kindsOutside = [] at nothingLeft
  rw [whole, List.takeWhile_append_of_pos (by simpa using goesOn), nothingLeft, List.append_nil]

namespace Reading

open Cursor

variable {α β : Type} {kinds words : List Kind} {grammar : Grammar}

/-- None of the kinds stands outside of groups in what the reading passes. -/
def Avoids (kinds : List Kind) (reading : Reading α) : Prop :=
  Leaves (fun _ piece => ∀ kind ∈ piece, kind ∉ kinds) reading

namespace Avoids

/-- A value avoids every token. -/
theorem pure (value : α) : Avoids kinds (pure value : Reading α) :=
  Leaves.pure (by simp)

/-- What always fails avoids every token. -/
theorem unexpected : Avoids kinds (unexpected : Reading α) :=
  Leaves.unexpected

/-- A sequence avoids what its parts avoid. -/
theorem bind {first : Reading α} {next : α → Reading β} (starts : Avoids kinds first)
    (goesOn : ∀ value, Avoids kinds (next value)) : Avoids kinds (first >>= next) :=
  Leaves.bind starts fun value _ avoids => (goesOn value).mono fun _ _ avoidsLater kind isIn =>
    (List.mem_append.mp isIn).elim (avoids kind) (avoidsLater kind)

/-- A choice avoids what both of its ways avoid. -/
theorem ite {condition : Prop} [Decidable condition] {left right : Reading α}
    (whenTrue : Avoids kinds left) (whenFalse : Avoids kinds right) :
    Avoids kinds (if condition then left else right) :=
  Leaves.ite (fun _ => whenTrue) fun _ => whenFalse

/-- A loop avoids what its turns avoid. -/
theorem repeatTurns {turn : α → Reading (Turn α)} (consumes : Consumes turn)
    (turns : ∀ value, Avoids kinds (turn value)) (value : α) :
    Avoids kinds (repeatTurns turn value) :=
  @Leaves.repeatTurns _ turn consumes (fun _ _ piece => ∀ kind ∈ piece, kind ∉ kinds)
    (fun _ _ _ _ _ left right kind isIn => (List.mem_append.mp isIn).elim (left kind) (right kind))
    turns value

/-- What avoids more kinds avoids fewer. -/
theorem weaken {fewer : List Kind} {reading : Reading α} (avoids : Avoids kinds reading)
    (within : fewer ⊆ kinds) : Avoids fewer reading :=
  Leaves.mono avoids fun _ _ avoids kind isIn isFewer => avoids kind isIn (within isFewer)

end Avoids

/-- A look at the token under the cursor avoids every token. -/
theorem avoids_isOn (words : List Kind) : Avoids kinds (isOn words) :=
  (leaves_isOn words).mono fun _ _ none => by simp [none]

/-- Skipping a token avoids the tokens of other kinds. -/
theorem avoids_skipIf (ordinary : Ordinary words) (others : ∀ kind ∈ words, kind ∉ kinds) :
    Avoids kinds (skipIf words) := by
  refine (leaves_skipIf ordinary).mono fun found piece passes => ?_
  cases found with
  | true =>
    obtain ⟨kind, isWord, rfl⟩ := passes
    simpa using others kind isWord
  | false =>
    obtain rfl : piece = [] := passes
    simp

/-- Skipping all tokens of some kinds avoids the tokens of other kinds. -/
theorem avoids_skipAll (ordinary : Ordinary words) (others : ∀ kind ∈ words, kind ∉ kinds) :
    Avoids kinds (skipAll words) :=
  (leaves_skipAll ordinary).mono fun _ _ areWords kind isIn => others kind (areWords kind isIn)

/-- Skipping a group avoids all tokens but parentheses. -/
theorem avoids_skipGroup (noMark : ∀ kind ∈ groupMarks, kind ∉ kinds) :
    Avoids kinds (discard skipGroup) :=
  leaves_group.mono fun _ _ areMarks kind isIn => noMark kind (areMarks kind isIn)

/-- Items up to one of the kinds at the latest have none of them. -/
theorem avoids_skipItems {stops : (afterDot : Bool) → Kind → Bool}
    (noMark : ∀ kind ∈ groupMarks, kind ∉ kinds)
    (atKinds : ∀ kind ∈ kinds, kind = .endOfText ∨ ∀ afterDot, stops afterDot kind = true) :
    Avoids kinds (skipItems stops) := by
  refine (leaves_items stops).mono fun _ _ areItems kind isIn isKind => ?_
  rcases areItems kind isIn with isMark | ⟨notEnd, afterDot, goesOn⟩
  · exact noMark kind isMark isKind
  · rw [(atKinds kind isKind).resolve_left notEnd afterDot] at goesOn
    cases goesOn

/-- A part of a name avoids the tokens that are no names. -/
theorem avoids_namePart (noName : ∀ kind ∈ kinds, kind.isName = false) : Avoids kinds namePart := by
  intro token before after settled passed
  obtain ⟨rfl, isName, passes⟩ := (namePart_ok_iff settled).mp passed
  have notOpen : before.current.kind ≠ .symbol .leftParen := by
    intro isOpen
    rw [isOpen] at isName
    cases isName
  refine ⟨[before.current.kind], passes.settled settled, passes.kindsOutside_token notOpen, ?_⟩
  intro kind isIn isKind
  obtain rfl := List.mem_singleton.mp isIn
  rw [noName _ isKind] at isName
  cases isName

/-- The tokens that end a query or combine it with another one. -/
def queryEnds : List Kind := setOperators ++ statementEnds

/-- The tokens that end an update or let it read from another table. -/
def updateEnds : List Kind := .reserved .FROM :: statementEnds

/-- An alias avoids the tokens that end a query. -/
theorem avoids_alias? : Avoids queryEnds alias? := by
  have name : Avoids queryEnds namePart := avoids_namePart (by decide)
  refine .bind (avoids_skipIf (by decide) (by decide)) fun _ => .ite (.bind name fun _ => .pure _) ?_
  exact .bind (avoids_isOn _) fun _ => .ite (.bind name fun _ => .pure _) (.pure _)

/-- A table with an alias avoids the tokens that end a query. -/
theorem avoids_aliasedTable : Avoids queryEnds aliasedTable := by
  have name : Avoids queryEnds namePart := avoids_namePart (by decide)
  have parts (last : Token) : Avoids queryEnds
      (repeatTurns (turnAfter [.symbol .dot] fun _ => namePart) last) := by
    refine .repeatTurns consumes_partTurn (fun _ => ?_) last
    exact .bind (avoids_skipIf (by decide) (by decide)) fun _ =>
      .ite (.bind name fun _ => .pure _) (.pure _)
  have mark : Avoids queryEnds tableMark := by
    rw [tableMark, qualifiedName_eq]
    exact .bind (.bind name parts) fun _ => .pure _
  exact .bind mark fun _ => .bind avoids_alias? fun _ => .pure _

/-- The hints after a table. -/
theorem avoids_skipTableHints (grammar : Grammar) :
    Avoids (.reserved .FROM :: queryEnds) grammar.skipTableHints := by
  have group : Avoids (.reserved .FROM :: queryEnds) (discard skipGroup) :=
    avoids_skipGroup (by decide)
  cases grammar with
  | mySQL =>
    rw [Grammar.skipTableHints, skipIndexHints_eq]
    refine .repeatTurns consumes_indexHints (fun _ => ?_) ()
    refine .bind (avoids_skipIf (by decide) (by decide)) fun _ => .ite (.bind ?_ fun _ => .pure _)
      (.pure _)
    refine .bind (Leaves.discard (avoids_skipIf (by decide) (by decide))) fun _ => ?_
    exact .bind (avoids_skipIf (by decide) (by decide)) fun _ =>
      .ite (.bind (avoids_skipAll (by decide) (by decide)) fun _ => group) group
  | sqlServer =>
    exact .bind (avoids_skipIf (by decide) (by decide)) fun _ => .ite group (.pure _)
  | oracle => exact .pure ()
  | postgreSQL => exact .pure ()

/-- A table of a query avoids the tokens that end one. -/
theorem avoids_tableFactor (grammar : Grammar) : Avoids queryEnds (tableFactor grammar) := by
  refine .bind (avoids_isOn _) fun _ => .ite ?_ ?_
  · exact .bind (avoids_skipGroup (by decide)) fun _ => .bind (Leaves.discard avoids_alias?) fun _ =>
      .pure _
  · refine .bind (avoids_skipIf (by decide) (by decide)) fun _ => .ite (.pure _) ?_
    exact .bind avoids_aliasedTable fun _ =>
      .bind ((avoids_skipTableHints grammar).weaken (by simp)) fun _ => .pure _

/-- The words of a join avoid the tokens that end a query. -/
theorem avoids_skipJoinType : Avoids queryEnds skipJoinType :=
  .bind (avoids_isOn _) fun _ => .ite
    (.bind (avoids_skipAll (by decide) (by decide)) fun _ =>
      .bind (avoids_skipIf (by decide) (by decide)) fun _ => .ite (.pure _) .unexpected)
    (.pure _)

/-- The condition of a join avoids the tokens that end a query. -/
theorem avoids_skipJoinCondition : Avoids queryEnds skipJoinCondition :=
  .bind (avoids_skipIf (by decide) (by decide)) fun _ => .ite (avoids_skipGroup (by decide))
    (.bind (avoids_skipIf (by decide) (by decide)) fun _ =>
      .ite (avoids_skipItems (by decide) (by decide)) (.pure _))

/-- The tables of a query avoid the tokens that end one. -/
theorem avoids_tableReferences (grammar : Grammar) : Avoids queryEnds (tableReferences grammar) := by
  rw [tableReferences_eq]
  refine .bind (avoids_tableFactor grammar) fun first => ?_
  refine .repeatTurns (consumes_referencesTurn grammar) (fun references => ?_) _
  refine .bind (avoids_skipIf (by decide) (by decide)) fun _ => .ite ?_ ?_
  · exact .bind (avoids_tableFactor grammar) fun _ => .pure _
  · exact .bind avoids_skipJoinType fun _ => .ite (.bind (avoids_tableFactor grammar) fun _ =>
      .bind avoids_skipJoinCondition fun _ => .pure _) (.pure _)

/-- Refusing a token passes none. -/
theorem avoids_refuse (refused : List Kind) : Avoids kinds (refuse refused) := by
  intro _ before after settled passed
  obtain ⟨-, rfl⟩ := refuse_ok_iff.mp passed
  exact ⟨[], settled, rfl, by simp⟩

/-- Behind its opening a query avoids the tokens that end one. -/
theorem avoids_queryBody (grammar : Grammar) : Avoids queryEnds (queryBody grammar) := by
  have clauses (references : List TableReference) : Avoids queryEnds (queryClauses references) :=
    .bind (avoids_skipItems (by decide) (by decide)) fun _ => .bind (avoids_refuse _) fun _ => .pure _
  rw [queryBody_eq]
  exact .bind (avoids_skipItems (by decide) (by decide)) fun _ =>
    .bind (avoids_skipIf (by decide) (by decide)) fun _ =>
      .ite (.bind (avoids_tableReferences grammar) clauses) (clauses [])

/-- Behind its table an update has the word `SET`, and no word that lets it read from another table. -/
theorem leaves_updateBody (grammar : Grammar) :
    Leaves (fun _ piece => .reserved .SET ∈ piece ∧ ∀ kind ∈ piece, kind ∉ updateEnds)
      (updateBody grammar) := by
  have hints : Avoids updateEnds grammar.skipTableHints :=
    (avoids_skipTableHints grammar).weaken (by decide)
  have clauses : Avoids updateEnds (do
      skipItemsUntil [.reserved .FROM, .symbol .semicolon]
      refuse [.reserved .FROM]) :=
    .bind (avoids_skipItems (by decide) (by decide)) fun _ => avoids_refuse _
  have set : Leaves (fun _ piece => piece = [.reserved .SET]) (discard (accept (.reserved .SET))) := by
    refine .discard fun token before after settled passed => ?_
    obtain ⟨rfl, onSet, passes⟩ := (accept_ok_iff settled (by decide)).mp passed
    exact ⟨[before.current.kind], passes.settled settled,
      passes.kindsOutside_token (by simp [onSet]), by rw [onSet]⟩
  refine Leaves.bind hints fun _ first avoids => set.bind fun _ word isSet => ?_
  refine clauses.mono fun _ later avoidsLater => ?_
  subst isSet
  refine ⟨by simp, fun kind isIn => ?_⟩
  simp only [List.mem_append, List.mem_singleton] at isIn
  rcases isIn with isIn | rfl | isIn
  · exact avoids kind isIn
  · decide
  · exact avoidsLater kind isIn

variable {before after middle : Cursor} {outline : Outline}

/-- Behind the opening of a query up to its end, no word combines it with another query. -/
theorem noOperator_of_select (settled : before.Settled)
    (read : selectOutline grammar before = .ok outline middle) :
    ∃ atList, Family.select.opening grammar before = .ok () atList ∧
      ∀ operator ∈ setOperators, operator ∉ statementKinds atList.tokens := by
  have ended := (ensures_outline grammar .select _ _ _ read).2
  rw [selectOutline_eq_body, bind_ok_iff] at read
  obtain ⟨_, atList, opened, read⟩ := read
  have settledList := settled_of_opening settled opened
  obtain ⟨piece, -, whole, avoids⟩ := avoids_queryBody grammar _ _ _ settledList read
  have goesOn : ∀ kind ∈ piece, kind ∉ statementEnds := fun kind isIn isEnd =>
    avoids kind isIn (List.mem_append_right _ isEnd)
  refine ⟨atList, opened, fun operator isOperator isIn => ?_⟩
  rw [statementKinds_eq whole goesOn ended] at isIn
  exact avoids operator isIn (List.mem_append_left _ isOperator)

/-- Behind the opening of an update stands one table, and from there to the end of the update no word
lets it read from another one. -/
theorem noFrom_of_update (settled : before.Settled)
    (read : updateOutline grammar before = .ok outline middle) :
    ∃ atTarget rest reference, Family.update.opening grammar before = .ok () atTarget ∧
      OneTable rest atTarget.tokens reference ∧ .reserved .SET ∈ statementKinds rest ∧
        .reserved .FROM ∉ statementKinds rest ∧ outline = ⟨[reference], []⟩ := by
  have ended := (ensures_outline grammar .update _ _ _ read).2
  rw [updateOutline_eq_body, bind_ok_iff] at read
  obtain ⟨_, atTarget, opened, read⟩ := read
  have settledTarget := settled_of_opening settled opened
  obtain ⟨found, behindTarget, target, read⟩ := bind_ok_iff.mp read
  obtain ⟨taken, reference, passed, one, rfl⟩ := (oneTarget_ok_iff settledTarget).mp target
  obtain ⟨_, _, body, made⟩ := bind_ok_iff.mp read
  obtain ⟨rfl, rfl⟩ := pure_ok_iff.mp made
  obtain ⟨piece, -, whole, hasSet, avoids⟩ :=
    leaves_updateBody grammar _ _ _ (passed.settled settledTarget) body
  have goesOn : ∀ kind ∈ piece, kind ∉ statementEnds := fun kind isIn isEnd =>
    avoids kind isIn (List.mem_cons_of_mem _ isEnd)
  refine ⟨atTarget, _, reference, opened, one, ?_, ?_, rfl⟩ <;>
    rw [statementKinds_eq whole goesOn ended]
  · exact hasSet
  · exact fun isIn => avoids _ isIn List.mem_cons_self

variable {dialect : Dialect} {text : String} {start : Cursor} {front : List Token}
  {statement : Statement}

/-- A parser reads an outline and makes the statement of it. -/
theorem exists_outline_of_statement (rule : ShardingRule) (family : Family)
    (read : family.parser grammar rule before = .ok statement after) :
    ∃ outline middle, family.outline grammar before = .ok outline middle ∧
      statement = outline.statement rule family := by
  rw [Family.parser_eq, bind_ok_iff] at read
  obtain ⟨outline, middle, outlined, rest⟩ := read
  obtain ⟨_, _, -, made⟩ := bind_ok_iff.mp rest
  exact ⟨outline, middle, outlined, (pure_ok_iff.mp made).1⟩

/-- Neither an update nor a query that is read hides a second source outside of groups, wherever in a
text it begins. Behind the opening of an update stands one table, which no token makes one of several,
and no `FROM` stands between this table and the end of the update, hence none behind its `SET`. Behind
the opening of a query no set operator stands before the end of the query. -/
theorem single_source_of_read (begins : start.Begins dialect text)
    (passed : start.Passes front before) :
    (update grammar before = .ok statement after →
      ∃ atTarget rest reference, Family.update.opening grammar before = .ok () atTarget ∧
        OneTable rest atTarget.tokens reference ∧ .reserved .SET ∈ statementKinds rest ∧
          .reserved .FROM ∉ statementKinds rest ∧
            statement = .ofReferences .update [reference]) ∧
    (select grammar before = .ok statement after →
      ∃ atList, Family.select.opening grammar before = .ok () atList ∧
        ∀ operator ∈ setOperators, operator ∉ statementKinds atList.tokens) := by
  have settled := passed.settled begins.settled
  constructor
  · intro read
    obtain ⟨outline, middle, outlined, rfl⟩ := exists_outline_of_statement .empty .update read
    obtain ⟨atTarget, rest, reference, opened, one, hasSet, noFrom, rfl⟩ :=
      noFrom_of_update settled outlined
    exact ⟨atTarget, rest, reference, opened, one, hasSet, noFrom, rfl⟩
  · intro read
    obtain ⟨outline, middle, outlined, -⟩ := exists_outline_of_statement .empty .select read
    exact noOperator_of_select settled outlined

/-- An update with a hint and a sub-query, and behind it a query with a set operator in a group. -/
theorem single_source_of_read_script :
    ∃ (start behindFirst behindSecond : Cursor) (front : List Token),
      start.Begins .mySQL "UPDATE t u USE KEY(k) SET a=(SELECT b FROM c);SELECT(1 UNION 2)" ∧
      start.Passes front behindFirst ∧
      update .mySQL start = .ok (.ofReferences .update [⟨⟨7, "t"⟩, some "u"⟩]) behindFirst ∧
      (∃ atTarget rest reference, Family.update.opening .mySQL start = .ok () atTarget ∧
        OneTable rest atTarget.tokens reference ∧ .reserved .SET ∈ statementKinds rest ∧
          .reserved .FROM ∉ statementKinds rest ∧
            Statement.ofReferences .update [⟨⟨7, "t"⟩, some "u"⟩] =
              .ofReferences .update [reference]) ∧
      select .mySQL behindFirst = .ok (.ofReferences .select []) behindSecond ∧
      ∃ atList, Family.select.opening .mySQL behindFirst = .ok () atList ∧
        ∀ operator ∈ setOperators, operator ∉ statementKinds atList.tokens := by
  let behindFirst : Cursor :=
    ⟨.mySQL, "UPDATE t u USE KEY(k) SET a=(SELECT b FROM c);SELECT(1 UNION 2)",
      ⟨.reserved .SELECT, "SELECT", 46, 52⟩,
      ⟨[⟨.symbol .leftParen, "(", 52, 53⟩, ⟨.literal .int, "1", 53, 54⟩,
        ⟨.reserved .UNION, "UNION", 55, 60⟩, ⟨.literal .int, "2", 61, 62⟩,
        ⟨.symbol .rightParen, ")", 62, 63⟩, .endAt 63], .finished⟩⟩
  let behindWord : List Token :=
    [⟨.literal .identifier, "t", 7, 8⟩, ⟨.literal .identifier, "u", 9, 10⟩,
      ⟨.mySQL .USE, "USE", 11, 14⟩, ⟨.reserved .KEY, "KEY", 15, 18⟩,
      ⟨.symbol .leftParen, "(", 18, 19⟩, ⟨.literal .identifier, "k", 19, 20⟩,
      ⟨.symbol .rightParen, ")", 20, 21⟩, ⟨.reserved .SET, "SET", 22, 25⟩,
      ⟨.literal .identifier, "a", 26, 27⟩, ⟨.symbol .equals, "=", 27, 28⟩,
      ⟨.symbol .leftParen, "(", 28, 29⟩, ⟨.reserved .SELECT, "SELECT", 29, 35⟩,
      ⟨.literal .identifier, "b", 36, 37⟩, ⟨.reserved .FROM, "FROM", 38, 42⟩,
      ⟨.literal .identifier, "c", 43, 44⟩, ⟨.symbol .rightParen, ")", 44, 45⟩,
      ⟨.symbol .semicolon, ";", 45, 46⟩]
  let start : Cursor := { behindFirst with
    current := ⟨.reserved .UPDATE, "UPDATE", 0, 6⟩
    ahead := ⟨behindWord ++ behindFirst.tokens, .finished⟩ }
  have begins : start.Begins .mySQL
      "UPDATE t u USE KEY(k) SET a=(SELECT b FROM c);SELECT(1 UNION 2)" :=
    ⟨rfl, rfl, by decide +kernel, by decide +kernel⟩
  have passed : start.Passes (start.current :: behindWord) behindFirst := ⟨rfl, rfl, rfl, rfl⟩
  have updated : update .mySQL start =
      .ok (.ofReferences .update [⟨⟨7, "t"⟩, some "u"⟩]) behindFirst := by
    decide +kernel
  have queried : select .mySQL behindFirst = .ok (.ofReferences .select [])
      { behindFirst with current := .endAt 63, ahead := ⟨[], .finished⟩ } := rfl
  exact ⟨start, behindFirst, _, _, begins, passed, updated,
    (single_source_of_read begins (.refl start)).1 updated, queried,
    (single_source_of_read begins passed).2 queried⟩

end Reading

end SqlSharding
