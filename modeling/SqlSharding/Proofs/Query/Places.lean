import SqlSharding.Proofs.Query.Joins

/-!
# Places of expressions

An expression stands in the list of a query, in a clause behind the tables, in the condition of a join,
or among the assignments and conditions of an update. In each of these places items are skipped, so the
tokens before the place alone decide how the reading goes on behind the items that stand there.
-/

namespace SqlSharding

open Reading

/-- Whether a token outside of groups ends the assignments and conditions of an update. -/
def endsAssignments (_afterDot : Bool) (kind : Kind) : Bool :=
  [Kind.reserved .FROM, .symbol .semicolon].contains kind

/-- The tokens of a query behind its opening, up to a place in a clause behind its tables. -/
inductive InClauses (grammar : Grammar) : List Token → Prop
  | mk {list tables clauses : List Token} {word clause : Token} {references : List TableReference}
      {endsInDot : Bool} (isList : Run endsSelectList false list endsInDot)
      (isFrom : word.kind = .reserved .FROM)
      (areTables : FromTables grammar clause.kind tables references)
      (areClauses : Run endsQuery false (clause :: clauses) false) :
      InClauses grammar (list ++ word :: (tables ++ clause :: clauses))

/-- The tokens of a query behind its opening, up to a place in the condition of a join. -/
inductive InCondition (grammar : Grammar) : List Token → Prop
  | mk {list first between condition : List Token} {word on : Token} {first? : Option TableReference}
      {joined : JoinedTable} {references : List TableReference} {endsInDot : Bool}
      (isList : Run endsSelectList false list endsInDot) (isFrom : word.kind = .reserved .FROM)
      (isFirst : Factor grammar (kindAhead (between ++ joined.tokens) .endOfText) first first?)
      (areBetween : FactorsBetween grammar (kindAhead joined.tokens .endOfText) between references)
      (isJoined : joined.IsWritten grammar (.reserved .ON)) (isOn : on.kind = .reserved .ON)
      (isCondition : Run endsCondition false condition false) :
      InCondition grammar
        (list ++ word :: (first ++ (between ++ (joined.tokens ++ on :: condition))))

/-- The tokens of an update behind its opening, up to a place behind `SET`, and the table that is
updated. -/
inductive InAssignments (grammar : Grammar) : List Token → TableReference → Prop
  | mk {name aliasPart hints assignments : List Token} {last set : Token} {alias? : Option String}
      (isName : DottedName name last)
      (isAlias : Alias (kindAhead hints (.reserved .SET)) aliasPart alias?)
      (areHints : Hints (.reserved .SET) grammar hints) (isSet : set.kind = .reserved .SET)
      (areAssignments : Run endsAssignments false assignments false) :
      InAssignments grammar ((name ++ aliasPart) ++ (hints ++ set :: assignments)) ⟨last.mark, alias?⟩

/-- Hints begin with one of their verbs or with `WITH`. -/
theorem Hints.kindAhead_mem {grammar : Grammar} {next : Kind} {hints : List Token}
    (areHints : Hints next grammar hints) :
    kindAhead hints next ∈ next :: .reserved .WITH :: indexHintVerbs := by
  cases areHints with
  | none => exact List.mem_cons_self
  | index isHint later =>
    obtain ⟨isVerb, -, -, -⟩ := isHint
    exact List.mem_cons_of_mem _ (List.mem_cons_of_mem _ isVerb)
  | withGroup isWord isGroup =>
    rw [kindAhead, isWord]
    exact List.mem_cons_of_mem _ List.mem_cons_self

/-- An alias begins with `AS` or an identifier. -/
theorem Alias.kindAhead_mem {next : Kind} {aliasPart : List Token} {alias? : Option String}
    (isAlias : Alias next aliasPart alias?) :
    kindAhead aliasPart next ∈ [next, .reserved .AS, .literal .identifier] := by
  cases isAlias with
  | none => exact List.mem_cons_self
  | word isWord => simp [kindAhead, isWord]
  | bare isIdentifier => simp [kindAhead, isIdentifier]

namespace Reading

open Cursor

variable {α β : Type} {stops : (afterDot : Bool) → Kind → Bool} {words front : List Token}
  {reading rest : Reading α} {grammar : Grammar}

/-- Behind the front the reading skips whatever items come next, and goes on as the rest does. -/
def SkipsBehind (stops : (afterDot : Bool) → Kind → Bool) (front : List Token)
    (reading rest : Reading α) : Prop :=
  ∀ ⦃before after : Cursor⦄ ⦃items : List Token⦄, before.Settled → Run stops false items false →
    before.Passes (front ++ items) after → reading before = rest after

namespace SkipsBehind

/-- Skipping items skips those that come next behind others. -/
theorem skipItems (isRun : Run stops false front false) :
    SkipsBehind stops front (skipItems stops) (skipItems stops) :=
  fun _ _ _ settled areItems passed => skipItems_eq_of_run settled (isRun.append areItems) passed

/-- A sequence skips the items that its first part skips. -/
theorem bind (skips : SkipsBehind stops front reading rest) (next : α → Reading β) :
    SkipsBehind stops front (reading >>= next) (rest >>= next) :=
  fun _ _ _ settled areItems passed => bind_congr_of_eq (skips settled areItems passed) next

/-- What comes to the same behind some words skips behind these words what it skips there. -/
theorem behind {reading' : Reading α}
    (moves : ∀ ⦃before after : Cursor⦄, before.Settled → before.Passes words after →
      (front ≠ [] → after.current.kind = kindAhead front .endOfText) →
        reading before = reading' after)
    (skips : SkipsBehind stops front reading' rest) :
    SkipsBehind stops (words ++ front) reading rest := by
  intro before after items settled areItems passed
  rw [List.append_assoc] at passed
  obtain ⟨middle, toMiddle, onward⟩ := passed.split
  rw [moves settled toMiddle fun notNil => ?_]
  · exact skips (toMiddle.settled settled) areItems onward
  · rw [onward.kindAhead]
    cases front with
    | nil => exact absurd rfl notNil
    | cons token front => rfl

end SkipsBehind

/-- In the list of a query the `FROM` is still looked for. -/
theorem skipsBehind_list (isList : Run endsSelectList false front false) :
    SkipsBehind endsSelectList front (queryBody grammar) (queryBody grammar) := by
  rw [queryBody_eq]
  exact (SkipsBehind.skipItems isList).bind _

/-- In a clause behind the tables a query skips whatever items come next. -/
theorem skipsBehind_clauses (inClauses : InClauses grammar front) :
    ∃ rest, SkipsBehind endsQuery front (queryBody grammar) rest := by
  obtain @⟨list, tables, clauses, word, clause, references, _, isList, isFrom, areTables, areClauses⟩ :=
    inClauses
  have onClauses : SkipsBehind endsQuery (clause :: clauses) (queryClauses references)
      (queryClauses references) :=
    (SkipsBehind.skipItems areClauses).bind _
  refine ⟨queryClauses references, ?_⟩
  rw [show list ++ word :: (tables ++ clause :: clauses) =
    (list ++ [word]) ++ (tables ++ clause :: clauses) by simp]
  refine .behind (fun _ _ settled passed _ => queryBody_of_list settled isList isFrom passed) ?_
  refine .behind (fun _ after settled passed ahead => ?_) onClauses
  have onClause : after.current.kind = clause.kind := ahead nofun
  rw [← onClause] at areTables
  exact bind_of_ok (tableReferences_of_passes settled areTables passed)

/-- In the condition of a join, the table that is joined has been found. -/
theorem skipsBehind_joined {joined : JoinedTable} {word : Token} {condition : List Token}
    (isJoined : joined.IsWritten grammar (.reserved .ON)) (isWord : word.kind = .reserved .ON)
    (isCondition : Run endsCondition false condition false) (found : List TableReference) :
    ∃ rest, SkipsBehind endsCondition (joined.tokens ++ ([word] ++ condition))
      (repeatTurns (referencesTurn grammar) found) rest := by
  have conditioned : SkipsBehind endsCondition ([word] ++ condition) skipJoinCondition
      (skipItems endsCondition) :=
    .behind (fun _ _ settled passed _ => skipJoinCondition_of_on settled isWord passed)
      (.skipItems isCondition)
  have turn : SkipsBehind endsCondition (joined.tokens ++ ([word] ++ condition))
      (referencesTurn grammar found) (do
        skipItems endsCondition
        return Turn.again (found ++ joined.reference?.toList)) := by
    refine .behind (fun _ after settled passed ahead => ?_) (conditioned.bind _)
    have onWord : after.current.kind = .reserved .ON := (ahead nofun).trans isWord
    exact referencesTurn_of_joined settled isJoined.areModifiers isJoined.isWord
      (onWord ▸ isJoined.isFactor) passed
  rw [repeatTurns_eq (consumes_referencesTurn grammar)]
  exact ⟨_, turn.bind _⟩

/-- In the condition of a join a query skips whatever items come next. -/
theorem skipsBehind_condition (inCondition : InCondition grammar front) :
    ∃ rest, SkipsBehind endsCondition front (queryBody grammar) rest := by
  obtain @⟨list, first, between, condition, word, on, first?, joined, references, _, isList, isFrom,
    isFirst, areBetween, isJoined, isOn, isCondition⟩ := inCondition
  obtain ⟨rest, onJoined⟩ := skipsBehind_joined isJoined isOn isCondition (first?.toList ++ references)
  have ahead (next : Kind) : kindAhead (joined.tokens ++ ([on] ++ condition)) next =
      kindAhead joined.tokens .endOfText := by
    rw [JoinedTable.tokens]
    cases joined.modifiers <;> rfl
  have loop : SkipsBehind endsCondition (between ++ (joined.tokens ++ ([on] ++ condition)))
      (repeatTurns (referencesTurn grammar) first?.toList) rest := by
    refine .behind (fun _ after settled passed onJoin => ?_) onJoined
    rw [ahead] at onJoin
    rw [← onJoin (by simp)] at areBetween
    exact referencesLoop_of_between settled areBetween passed
  have tables : SkipsBehind endsCondition (first ++ (between ++ (joined.tokens ++ ([on] ++ condition))))
      (tableReferences grammar) rest := by
    rw [tableReferences_eq]
    refine .behind (fun _ after settled passed onNext => ?_) loop
    rw [kindAhead_append, ahead, ← kindAhead_append] at onNext
    rw [← onNext (by simp)] at isFirst
    exact bind_of_ok (tableFactor_of_passes settled isFirst passed)
  refine ⟨rest >>= queryClauses, ?_⟩
  rw [show list ++ word :: (first ++ (between ++ (joined.tokens ++ on :: condition))) =
    (list ++ [word]) ++ (first ++ (between ++ (joined.tokens ++ ([on] ++ condition)))) by simp]
  exact .behind (fun _ _ settled passed _ => queryBody_of_list settled isList isFrom passed)
    (tables.bind _)

/-- Reads the assignments and conditions of an update of a table. -/
def updateClauses (reference : TableReference) : Reading Outline := do
  skipItemsUntil [.reserved .FROM, .symbol .semicolon]
  refuse [.reserved .FROM]
  return ⟨[reference], []⟩

/-- Behind its table an update has hints, the word `SET`, and its clauses. -/
theorem updateBody_bind (grammar : Grammar) (reference : TableReference) :
    (do
      updateBody grammar
      return ⟨[reference], []⟩) = (do
      grammar.skipTableHints
      discard <| accept (.reserved .SET)
      updateClauses reference) := by
  simp only [updateBody, updateClauses, bind_assoc]

/-- One table is read before its hints, or before the word behind it. -/
theorem oneTarget_of_passes {name aliasPart hints : List Token} {last : Token} {alias? : Option String}
    {before after : Cursor} (settled : before.Settled) (isName : DottedName name last)
    (isAlias : Alias (kindAhead hints (.reserved .SET)) aliasPart alias?)
    (areHints : Hints (.reserved .SET) grammar hints) (passed : before.Passes (name ++ aliasPart) after)
    (ahead : after.current.kind = kindAhead hints (.reserved .SET)) :
    oneTarget before = .ok ⟨[⟨last.mark, alias?⟩], []⟩ after := by
  have others := areHints.kindAhead_mem
  rw [← ahead] at isAlias others
  have isAlone : after.current.kind ∉ otherTableKinds := by
    have noOther : ∀ kind ∈ Kind.reserved .SET :: .reserved .WITH :: indexHintVerbs,
        kind ∉ otherTableKinds := by decide
    exact noOther _ others
  have nameEnds : kindAhead aliasPart after.current.kind ≠ .symbol .dot := by
    have noDot : ∀ kind ∈ Kind.reserved .SET :: .reserved .WITH :: indexHintVerbs,
        .symbol .dot ∉ [kind, .reserved .AS, .literal .identifier] := by decide
    exact fun isDot => noDot _ others (isDot ▸ isAlias.kindAhead_mem)
  have named : aliasedTable before = .ok ⟨last.mark, alias?⟩ after :=
    (aliasedTable_ok_iff settled).mpr
      ⟨name, last, aliasPart, alias?, passed, isName, nameEnds, isAlias, rfl⟩
  rw [oneTarget, bind_of_ok named, bind_of_ok (refuse_ok_iff.mpr ⟨isAlone, rfl⟩)]
  rfl

/-- Behind `SET` an update skips whatever items come next. -/
theorem skipsBehind_assignments {reference : TableReference}
    (inAssignments : InAssignments grammar front reference) :
    SkipsBehind endsAssignments front (updateRest grammar) (updateClauses reference) := by
  obtain @⟨name, aliasPart, hints, assignments, last, set, alias?, isName, isAlias, areHints, isSet,
    areAssignments⟩ := inAssignments
  have onAssignments : SkipsBehind endsAssignments assignments (updateClauses ⟨last.mark, alias?⟩)
      (updateClauses ⟨last.mark, alias?⟩) :=
    (SkipsBehind.skipItems areAssignments).bind _
  have onSet : SkipsBehind endsAssignments ([set] ++ assignments) (do
      discard <| accept (.reserved .SET)
      updateClauses ⟨last.mark, alias?⟩) (updateClauses ⟨last.mark, alias?⟩) := by
    refine .behind (fun _ _ settled passed _ => ?_) onAssignments
    exact bind_of_ok (discard_ok_iff.mpr ⟨set, accept_of_passes settled nofun isSet passed⟩)
  have onHints : SkipsBehind endsAssignments (hints ++ ([set] ++ assignments)) (do
      updateBody grammar
      return ⟨[⟨last.mark, alias?⟩], []⟩) (updateClauses ⟨last.mark, alias?⟩) := by
    rw [updateBody_bind]
    refine .behind (fun _ after settled passed ahead => ?_) onSet
    rw [← (ahead nofun).trans isSet] at areHints
    exact bind_of_ok (skipTableHints_of_passes settled areHints passed)
  refine .behind (fun _ after settled passed ahead => ?_) onHints
  have atNext : after.current.kind = kindAhead hints (.reserved .SET) := by
    rw [ahead (by simp), kindAhead_append, ← isSet]
    rfl
  exact bind_of_ok (oneTarget_of_passes settled isName isAlias areHints passed atNext)

end Reading

end SqlSharding
