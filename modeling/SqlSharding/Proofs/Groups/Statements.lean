import SqlSharding.Proofs.Groups
import SqlSharding.Proofs.Layout

/-!
# Queries and updates with groups

The readings of queries and updates, and the theorem that what a query or an update holds in groups
does not matter for the statement that it is parsed to.
-/

namespace SqlSharding

namespace Reading

open Marked TableMark

/-- The row limit is the word `TOP`, an item, perhaps a percent sign in words, and perhaps `WITH TIES`.
-/
theorem skipTop_eq :
    Grammar.skipTop = (do
      if ← skipIf [.sqlServer .TOP] then
        skipItem
        discard <| skipIf [.sqlServer .PERCENT]
        if ← skipIf [.reserved .WITH] then
          discard <| accept (.sqlServer .TIES)) := by
  simp only [Grammar.skipTop, skipItem, bind_assoc, ite_bind]

/-- The row limit behind `TOP` is skipped in both texts, its number between parentheses or not. -/
theorem agree_skipTop : Agree Eq Grammar.skipTop Grammar.skipTop := by
  rw [skipTop_eq]
  refine (agree_skipIf (by decide)).andThen fun _ => .ite ?_ (.pure rfl)
  refine agree_skipItem.andThen fun _ => (agree_skipIf (by decide)).discard.andThen fun _ => ?_
  exact (agree_skipIf (by decide)).andThen fun _ => .ite (agree_accept (by decide)).discard (.pure rfl)

/-- The words behind `SELECT` are skipped in both texts. -/
theorem agree_skipSelectModifiers (grammar : Grammar) :
    Agree Eq grammar.skipSelectModifiers grammar.skipSelectModifiers := by
  cases grammar with
  | mySQL => exact agree_skipAll (by decide)
  | sqlServer => exact (agree_skipAll (by decide)).andThen fun _ => agree_skipTop
  | oracle => exact agree_skipAll (by decide)
  | postgreSQL => exact agree_skipAll (by decide)

/-- The words behind `UPDATE` are skipped in both texts. -/
theorem agree_skipUpdateModifiers (grammar : Grammar) :
    Agree Eq grammar.skipUpdateModifiers grammar.skipUpdateModifiers := by
  cases grammar with
  | mySQL => exact agree_skipAll (by decide)
  | sqlServer => exact agree_skipTop
  | oracle => exact (agree_skipIf (by decide)).discard
  | postgreSQL => exact (agree_skipIf (by decide)).discard

/-- An index hint is skipped in both texts, whatever its group holds. -/
theorem agree_indexHint : Agree Eq indexHint indexHint :=
  (agree_skipIf (by decide)).discard.andThen fun _ => (agree_skipIf (by decide)).andThen fun _ => .ite
    ((agree_skipAll (by decide)).andThen fun _ => agree_skipGroup) agree_skipGroup

/-- The hints behind a table are skipped in both texts. -/
theorem agree_skipTableHints (grammar : Grammar) :
    Agree Eq grammar.skipTableHints grammar.skipTableHints := by
  cases grammar with
  | mySQL =>
    rw [Grammar.skipTableHints, skipIndexHints_eq]
    exact .repeatTurns consumes_indexHints consumes_indexHints
      (fun _ _ => .turnAfter (by decide) fun _ _ _ => agree_indexHint) rfl
  | sqlServer => exact (agree_skipIf (by decide)).andThen fun _ => .ite agree_skipGroup (.pure rfl)
  | oracle => exact .pure rfl
  | postgreSQL => exact .pure rfl

/-- A table of a query is the same in both texts; a group in its place is none, whatever it holds. -/
theorem agree_tableFactor (grammar : Grammar) :
    Agree (Alike SameName) (tableFactor grammar) (tableFactor grammar) := by
  have noTable : Agree (Alike SameName) (pure none : Reading (Option TableReference)) (pure none) :=
    .pure List.Forall₂.nil
  refine (agree_isOn _).andThen fun _ => .ite ?_ ?_
  · exact agree_skipGroup.andThen fun _ => agree_alias?.discard.andThen fun _ => noTable
  · refine (agree_skipIf (by decide)).andThen fun _ => .ite noTable ?_
    exact agree_aliasedTable.bind fun _ _ alike => (agree_skipTableHints grammar).andThen fun _ =>
      .pure (List.Forall₂.cons alike .nil)

/-- The words of a join are skipped in both texts. -/
theorem agree_skipJoinType : Agree Eq skipJoinType skipJoinType :=
  (agree_isOn _).andThen fun _ => .ite
    ((agree_skipAll (by decide)).andThen fun _ =>
      (agree_skipIf (by decide)).andThen fun _ => .ite (.pure rfl) .unexpected)
    (.pure rfl)

/-- The condition of a join ends at the same token outside of groups. -/
theorem agree_skipJoinCondition : Agree Eq skipJoinCondition skipJoinCondition :=
  (agree_skipIf (by decide)).andThen fun _ => .ite agree_skipGroup
    ((agree_skipIf (by decide)).andThen fun _ => .ite (agree_skipItems _) (.pure rfl))

/-- A further table of a query is joined in both texts. -/
theorem agree_referencesTurn (grammar : Grammar) {references references' : List TableReference}
    (alike : Alike SameName references references') :
    Agree (TurnsAlike (Alike SameName)) (referencesTurn grammar references)
      (referencesTurn grammar references') := by
  refine (agree_skipIf (by decide)).andThen fun _ => .ite ?_ ?_
  · exact (agree_tableFactor grammar).bind fun _ _ found => .pure (.again (List.rel_append alike found))
  · refine agree_skipJoinType.andThen fun _ => .ite ?_ (.pure (.done alike))
    exact (agree_tableFactor grammar).bind fun _ _ found => agree_skipJoinCondition.andThen fun _ =>
      .pure (.again (List.rel_append alike found))

/-- The tables of a query are the same in both texts, but for their places. -/
theorem agree_tableReferences (grammar : Grammar) :
    Agree (Alike SameName) (tableReferences grammar) (tableReferences grammar) := by
  rw [tableReferences_eq]
  exact (agree_tableFactor grammar).bind fun _ _ alike =>
    .repeatTurns (consumes_referencesTurn grammar) (consumes_referencesTurn grammar)
      (fun _ _ => agree_referencesTurn grammar) alike

/-- A query behind its opening has the same outline in both texts, but for places. -/
theorem agree_queryBody (grammar : Grammar) :
    Agree (Alike SameName) (queryBody grammar) (queryBody grammar) := by
  have clauses (references references' : List TableReference)
      (alike : Alike SameName references references') :
      Agree (Alike SameName) (queryClauses references) (queryClauses references') :=
    (agree_skipItems _).andThen fun _ => (agree_refuse _).andThen fun _ => .pure ⟨alike, rfl⟩
  rw [queryBody_eq]
  exact (agree_skipItems _).andThen fun _ => (agree_skipIf (by decide)).andThen fun _ =>
    .ite ((agree_tableReferences grammar).bind clauses) (clauses _ _ List.Forall₂.nil)

/-- The openings of the statements that look into no group. -/
theorem agree_opening {family : Family} (grammar : Grammar)
    (isOne : family = .select ∨ family = .update) :
    Agree Eq (family.opening grammar) (family.opening grammar) := by
  rcases isOne with rfl | rfl
  · exact (agree_accept (by decide)).discard.andThen fun _ => agree_skipSelectModifiers grammar
  · exact (agree_accept (by decide)).discard.andThen fun _ => agree_skipUpdateModifiers grammar

/-- A query has the same outline in both texts, but for places. -/
theorem agree_selectOutline (grammar : Grammar) :
    Agree (Alike SameName) (selectOutline grammar) (selectOutline grammar) := by
  rw [selectOutline_eq_body]
  exact (agree_opening grammar (.inl rfl)).andThen fun _ => agree_queryBody grammar

/-- The one table of an update or a deletion is the same in both texts, but for its place. -/
theorem agree_oneTarget : Agree (Alike SameName) oneTarget oneTarget :=
  agree_aliasedTable.bind fun _ _ alike => (agree_refuse _).andThen fun _ =>
    .pure ⟨.cons alike .nil, rfl⟩

/-- An update is passed alike behind its table. -/
theorem agree_updateBody (grammar : Grammar) : Agree Eq (updateBody grammar) (updateBody grammar) :=
  (agree_skipTableHints grammar).andThen fun _ => (agree_accept (by decide)).discard.andThen fun _ =>
    (agree_skipItems _).andThen fun _ => agree_refuse _

/-- An update behind its opening has the same outline in both texts, but for places. -/
theorem agree_updateRest (grammar : Grammar) :
    Agree (Alike SameName) (updateRest grammar) (updateRest grammar) :=
  agree_oneTarget.bind fun _ _ alike => (agree_updateBody grammar).andThen fun _ => .pure alike

/-- An update has the same outline in both texts, but for places. -/
theorem agree_updateOutline (grammar : Grammar) :
    Agree (Alike SameName) (updateOutline grammar) (updateOutline grammar) := by
  rw [updateOutline_eq_body]
  exact (agree_opening grammar (.inr rfl)).andThen fun _ => agree_updateRest grammar

/-- The words that begin the statements that look into no group. -/
def opaqueStarts : List Kind := [.reserved .SELECT, .reserved .UPDATE]

/-- The statements that look into no group have the same outline in both texts, but for places. -/
theorem agree_outline {grammar : Grammar} {family : Family}
    (starts : .reserved family.keyword ∈ opaqueStarts) :
    Agree (Alike SameName) (family.outline grammar) (family.outline grammar) := by
  cases family with
  | select => exact agree_selectOutline grammar
  | update => exact agree_updateOutline grammar
  | _ => simp [opaqueStarts, Family.keyword] at starts

variable {dialect : Dialect} {rule : ShardingRule} {text other : String} {statement : Statement}

/-- A text is parsed to the same statement if the outline that is read of it is the same, and what stands
behind it is the same outside of groups. -/
theorem exists_parse_of_outline {start start' : Cursor} {family : Family}
    (begins : start.Begins dialect text) (begins' : start'.Begins dialect other)
    (onKeyword : start.current.kind = .reserved family.keyword)
    (onKeyword' : start'.current.kind = .reserved family.keyword)
    (forth : ∀ outline middle, family.outline dialect.grammar start = .ok outline middle →
      ∃ outline' middle', Alike SameName outline outline' ∧
        family.outline dialect.grammar start' = .ok outline' middle' ∧ middle.SameOutside middle')
    (parsed : parse dialect rule text = .ok statement) :
    ∃ statement', parse dialect rule other = .ok statement' ∧
      statement'.withoutPlaces = statement.withoutPlaces := by
  obtain ⟨outline, middle, after, read, ended, rfl⟩ :=
    (parse_ok_iff_of_begins begins onKeyword).mp parsed
  have semicolon : Agree Eq (discard <| skipIf [.symbol .semicolon])
      (discard <| skipIf [.symbol .semicolon]) :=
    (agree_skipIf (by decide)).discard
  obtain ⟨outline', middle', alike, read', sameMiddle⟩ := forth _ _ read
  obtain ⟨_, after', rfl, ended', -⟩ := semicolon _ _ _ _ sameMiddle ended
  refine ⟨outline'.statement rule family, (parse_ok_iff_of_begins begins' onKeyword').mpr ?_, ?_⟩
  · exact ⟨outline', middle', after', read', ended', rfl⟩
  · rw [← Outline.statement_withoutPlaces, ← Outline.statement_withoutPlaces,
      Outline.withoutPlaces_of_alike alike]

/-- A text with the same tokens outside of groups is parsed to the same statement. -/
theorem exists_parse_of_outside_eq
    (clean : (Tape.ofText dialect text).isClean = true)
    (clean' : (Tape.ofText dialect other).isClean = true)
    (starts : ∀ token ∈ (Tape.ofText dialect text).tokens.head?, token.kind ∈ opaqueStarts)
    (same : outside 0 (Tape.ofText dialect other).tokens = outside 0 (Tape.ofText dialect text).tokens)
    (parsed : parse dialect rule text = .ok statement) :
    ∃ statement', parse dialect rule other = .ok statement' ∧
      statement'.withoutPlaces = statement.withoutPlaces := by
  obtain ⟨cursor, -, -, family, -, begins, onKeyword, -, -, -⟩ := parse_ok_iff_outline.mp parsed
  rw [Tape.isClean, decide_eq_true_iff] at clean clean'
  have heads := congrArg List.head? same
  rw [head?_outside, head?_outside, ← begins.tokens] at heads
  obtain ⟨cursor', begins'⟩ := @Cursor.exists_begins dialect other (by
    intro empty
    simp [empty, Cursor.tokens] at heads)
  have sameOutside : cursor.SameOutside cursor' := by
    refine ⟨begins.settled, begins'.settled, begins.ending.trans clean, begins'.ending.trans clean', ?_⟩
    rw [begins.tokens, begins'.tokens, same]
  have startsHere := starts cursor.current (by rw [← begins.tokens]; rfl)
  refine exists_parse_of_outline begins begins' onKeyword (sameOutside.current.1.trans onKeyword)
    (fun outline middle read => ?_) parsed
  exact agree_outline (onKeyword ▸ startsHere) _ _ _ _ sameOutside read

/-- Groups are opaque to queries and updates: texts without a fault that have the same tokens outside
of groups are parsed to the same statement but for the places of the names, or both fail to be parsed,
whatever stands in the groups. -/
theorem parse_of_outside_eq (rule : ShardingRule)
    (clean : (Tape.ofText dialect text).isClean = true)
    (clean' : (Tape.ofText dialect other).isClean = true)
    (starts : ∀ token ∈ (Tape.ofText dialect text).tokens.head?, token.kind ∈ opaqueStarts)
    (same : outside 0 (Tape.ofText dialect other).tokens =
      outside 0 (Tape.ofText dialect text).tokens) :
    (parse dialect rule other).toOption.map Statement.withoutPlaces =
      (parse dialect rule text).toOption.map Statement.withoutPlaces := by
  have heads := congrArg List.head? same
  rw [head?_outside, head?_outside] at heads
  have starts' : ∀ token ∈ (Tape.ofText dialect other).tokens.head?, token.kind ∈ opaqueStarts := by
    intro token isFirst
    rw [Option.mem_def.mp isFirst, Option.map_some, eq_comm, Option.map_eq_some_iff] at heads
    obtain ⟨first, isHead, sameFirst⟩ := heads
    exact (Prod.mk.inj sameFirst).1 ▸ starts first isHead
  refine toOption_parse_eq (fun _ => exists_parse_of_outside_eq clean clean' starts same)
    fun _ parsed => ?_
  obtain ⟨statement, parsedBack, -⟩ :=
    exists_parse_of_outside_eq clean' clean starts' same.symm parsed
  exact ⟨statement, parsedBack⟩

/-- Sub-queries with tables, a set operator, a semicolon and a nested group. -/
theorem parse_of_outside_eq_subqueries :
    (Tape.ofText .mySQL "SELECT (1) FROM (SELECT 2) x, t").isClean = true ∧
      (Tape.ofText .mySQL "SELECT (a FROM b; UNION (c)) FROM (SELECT 2 FROM d) x, t").isClean =
        true ∧
      (∀ token ∈ (Tape.ofText .mySQL "SELECT (1) FROM (SELECT 2) x, t").tokens.head?,
        token.kind ∈ opaqueStarts) ∧
      outside 0
          (Tape.ofText .mySQL "SELECT (a FROM b; UNION (c)) FROM (SELECT 2 FROM d) x, t").tokens =
        outside 0 (Tape.ofText .mySQL "SELECT (1) FROM (SELECT 2) x, t").tokens ∧
      (parse .mySQL .empty
          "SELECT (a FROM b; UNION (c)) FROM (SELECT 2 FROM d) x, t").toOption.map
            Statement.withoutPlaces =
        some ⟨.select, ⟨[⟨"t", []⟩]⟩, [⟨0, "t"⟩], [], none⟩ := by
  have clean : (Tape.ofText .mySQL "SELECT (1) FROM (SELECT 2) x, t").isClean = true := by
    decide +kernel
  have clean' : (Tape.ofText .mySQL
      "SELECT (a FROM b; UNION (c)) FROM (SELECT 2 FROM d) x, t").isClean = true := by
    decide +kernel
  have starts : ∀ token ∈ (Tape.ofText .mySQL "SELECT (1) FROM (SELECT 2) x, t").tokens.head?,
      token.kind ∈ opaqueStarts := by
    decide +kernel
  have same : outside 0
      (Tape.ofText .mySQL "SELECT (a FROM b; UNION (c)) FROM (SELECT 2 FROM d) x, t").tokens =
        outside 0 (Tape.ofText .mySQL "SELECT (1) FROM (SELECT 2) x, t").tokens := by
    decide +kernel
  have parsed : parse .mySQL .empty "SELECT (1) FROM (SELECT 2) x, t" =
      .ok ⟨.select, ⟨[⟨"t", []⟩]⟩, [⟨30, "t"⟩], [], none⟩ :=
    parse_of_toOption (by decide +kernel)
  refine ⟨clean, clean', starts, same, ?_⟩
  rw [parse_of_outside_eq .empty clean clean' starts same, parsed]
  rfl

end Reading

end SqlSharding
