import SqlSharding.Proofs.Outline
import SqlSharding.Proofs.Passage.Naming
import SqlSharding.Proofs.Tables.Collection

/-!
# The tables of a query

A grammar of queries over lists of tokens, with the tables that each piece refers to, and the theorem
that the tables of every such query are found. A piece is indexed by the kind of the token behind it,
since a token that would be read as part of the piece must not follow. Nothing is said about texts
that the grammar does not describe.
-/

namespace SqlSharding

open Reading

/-- The words that may stand between `SELECT` and its list. -/
def Grammar.selectWords : Grammar → List Kind
  | .mySQL => [.reserved .DISTINCT, .reserved .ALL, .mySQL .DISTINCTROW, .mySQL .HIGH_PRIORITY,
      .mySQL .STRAIGHT_JOIN, .mySQL .SQL_CALC_FOUND_ROWS, .mySQL .SQL_NO_CACHE]
  | .oracle | .sqlServer | .postgreSQL => [.reserved .DISTINCT, .reserved .ALL]

/-- The words that begin the hints after a table. -/
def Grammar.hintWords : Grammar → List Kind
  | .mySQL => indexHintVerbs
  | .sqlServer => [.reserved .WITH]
  | .oracle | .postgreSQL => []

/-- The purpose of an index hint. -/
inductive HintPurpose : List Token → Prop
  | none : HintPurpose []
  | words {word : Token} {purpose : List Token} (isWord : word.kind = .reserved .FOR)
      (allOn : ∀ token ∈ purpose, token.kind ∈
        [.reserved .JOIN, .reserved .ORDER, .reserved .GROUP, .reserved .BY]) :
      HintPurpose (word :: purpose)

/-- An index hint: its verb, the word `INDEX` or `KEY` if it is there, a purpose and a group. -/
inductive IndexHint : List Token → Prop
  | mk {verb : Token} {target : Option Token} {purpose group : List Token}
      (isVerb : verb.kind ∈ indexHintVerbs)
      (isTarget : ∀ token ∈ target, token.kind ∈ [.reserved .INDEX, .reserved .KEY])
      (isPurpose : HintPurpose purpose) (isGroup : Group group) :
      IndexHint (verb :: (target.toList ++ (purpose ++ group)))

/-- The hints after a table. -/
inductive Hints (next : Kind) : Grammar → List Token → Prop
  | none {grammar : Grammar} (other : next ∉ grammar.hintWords) : Hints next grammar []
  | index {hint rest : List Token} (isHint : IndexHint hint) (later : Hints next .mySQL rest) :
      Hints next .mySQL (hint ++ rest)
  | withGroup {word : Token} {group : List Token} (isWord : word.kind = .reserved .WITH)
      (isGroup : Group group) : Hints next .sqlServer (word :: group)

/-- A table of a `FROM`, and the reference it makes: a sub-query and the table that stands for no
table make none. -/
inductive Factor (grammar : Grammar) (next : Kind) : List Token → Option TableReference → Prop
  | table {name aliasPart hints : List Token} {last : Token} {alias? : Option String}
      (isName : DottedName name last) (notDual : ∀ token ∈ name.head?, token.kind ∉ dualNames)
      (nameEnds : kindAhead (aliasPart ++ hints) next ≠ .symbol .dot)
      (isAlias : Alias (kindAhead hints next) aliasPart alias?) (areHints : Hints next grammar hints) :
      Factor grammar next (name ++ (aliasPart ++ hints)) (some ⟨⟨last.start, last.text⟩, alias?⟩)
  | subquery {group aliasPart : List Token} {alias? : Option String} (isGroup : Group group)
      (isAlias : Alias next aliasPart alias?) : Factor grammar next (group ++ aliasPart) none
  | dual {token : Token} (isDual : token.kind ∈ dualNames) : Factor grammar next [token] none

/-- The condition of a join, if there is one. -/
inductive JoinCondition (next : Kind) : List Token → Prop
  | none (notUsing : next ≠ .reserved .USING) (notOn : next ≠ .reserved .ON) : JoinCondition next []
  | columns {word : Token} {group : List Token} (isWord : word.kind = .reserved .USING)
      (isGroup : Group group) : JoinCondition next (word :: group)
  | condition {word : Token} {run : List Token} {endsInDot : Bool}
      (isWord : word.kind = .reserved .ON) (isRun : Run endsCondition false run endsInDot)
      (stopped : next = .endOfText ∨ endsCondition endsInDot next = true) :
      JoinCondition next (word :: run)

/-- Tables behind the first one, each after a comma or a join. -/
inductive MoreFactors (grammar : Grammar) (next : Kind) :
    List Token → List TableReference → Prop
  | nil (stopped : next ∉ .symbol .comma :: (joinModifiers ++ joinKeywords)) :
      MoreFactors grammar next [] []
  | comma {comma : Token} {factor rest : List Token} {reference? : Option TableReference}
      {references : List TableReference} (isComma : comma.kind = .symbol .comma)
      (isFactor : Factor grammar (kindAhead rest next) factor reference?)
      (later : MoreFactors grammar next rest references) :
      MoreFactors grammar next (comma :: (factor ++ rest)) (reference?.toList ++ references)
  | join {modifiers factor condition rest : List Token} {word : Token}
      {reference? : Option TableReference} {references : List TableReference}
      (areModifiers : ∀ token ∈ modifiers, token.kind ∈ joinModifiers)
      (isWord : word.kind ∈ joinKeywords)
      (isFactor : Factor grammar (kindAhead (condition ++ rest) next) factor reference?)
      (isCondition : JoinCondition (kindAhead rest next) condition)
      (later : MoreFactors grammar next rest references) :
      MoreFactors grammar next (modifiers ++ (word :: (factor ++ (condition ++ rest))))
        (reference?.toList ++ references)

/-- Tables behind the first one, each after a comma or a join, whatever comes behind them. -/
inductive FactorsBetween (grammar : Grammar) (next : Kind) : List Token → List TableReference → Prop
  | nil : FactorsBetween grammar next [] []
  | comma {comma : Token} {factor rest : List Token} {reference? : Option TableReference}
      {references : List TableReference} (isComma : comma.kind = .symbol .comma)
      (isFactor : Factor grammar (kindAhead rest next) factor reference?)
      (later : FactorsBetween grammar next rest references) :
      FactorsBetween grammar next (comma :: (factor ++ rest)) (reference?.toList ++ references)
  | join {modifiers factor condition rest : List Token} {word : Token}
      {reference? : Option TableReference} {references : List TableReference}
      (areModifiers : ∀ token ∈ modifiers, token.kind ∈ joinModifiers)
      (isWord : word.kind ∈ joinKeywords)
      (isFactor : Factor grammar (kindAhead (condition ++ rest) next) factor reference?)
      (isCondition : JoinCondition (kindAhead rest next) condition)
      (later : FactorsBetween grammar next rest references) :
      FactorsBetween grammar next (modifiers ++ (word :: (factor ++ (condition ++ rest))))
        (reference?.toList ++ references)

/-- Tables behind the first one are tables whatever comes behind them, and no further table follows
them. -/
theorem MoreFactors.between {grammar : Grammar} {next : Kind} {rest : List Token}
    {references : List TableReference} (areFactors : MoreFactors grammar next rest references) :
    FactorsBetween grammar next rest references ∧
      next ∉ .symbol .comma :: (joinModifiers ++ joinKeywords) := by
  induction areFactors with
  | nil stopped => exact ⟨.nil, stopped⟩
  | comma isComma isFactor _ inductionHypothesis =>
    exact ⟨.comma isComma isFactor inductionHypothesis.1, inductionHypothesis.2⟩
  | join areModifiers isWord isFactor isCondition _ inductionHypothesis =>
    exact ⟨.join areModifiers isWord isFactor isCondition inductionHypothesis.1, inductionHypothesis.2⟩

/-- The tables between `FROM` and the clauses after them. -/
inductive FromTables (grammar : Grammar) (next : Kind) : List Token → List TableReference → Prop
  | mk {factor rest : List Token} {reference? : Option TableReference}
      {references : List TableReference}
      (isFactor : Factor grammar (kindAhead rest next) factor reference?)
      (more : MoreFactors grammar next rest references) :
      FromTables grammar next (factor ++ rest) (reference?.toList ++ references)

/-- Whether a token outside of groups ends the select list. -/
def endsSelectList (_afterDot : Bool) (kind : Kind) : Bool :=
  ([Kind.reserved .FROM, .symbol .semicolon] ++ setOperators).contains kind

/-- Whether a token outside of groups ends the clauses after the tables. -/
def endsQuery (_afterDot : Bool) (kind : Kind) : Bool :=
  (Kind.symbol .semicolon :: setOperators).contains kind

/-- A query behind its opening, with a `FROM`, up to the end or a semicolon. -/
inductive QueryFrom (grammar : Grammar) : List Token → List TableReference → Prop
  | mk {list tables clauses later : List Token} {word terminator : Token}
      {references : List TableReference} {listEndsInDot clausesEndInDot : Bool}
      (isList : Run endsSelectList false list listEndsInDot) (isFrom : word.kind = .reserved .FROM)
      (areTables : FromTables grammar (kindAhead clauses terminator.kind) tables references)
      (areClauses : Run endsQuery false clauses clausesEndInDot)
      (terminates : terminator.kind = .endOfText ∨ terminator.kind = .symbol .semicolon) :
      QueryFrom grammar (list ++ word :: (tables ++ (clauses ++ terminator :: later))) references

/-- A query with a `FROM`, up to the end or a semicolon. In one grammar `TOP` must not open the select
list, since what follows that word is read in its own way. -/
inductive Query (grammar : Grammar) : List Token → List TableReference → Prop
  | mk {select word terminator : Token} {list tables tail later : List Token}
      {references : List TableReference} {listEndsInDot tailEndsInDot : Bool}
      (isSelect : select.kind = .reserved .SELECT)
      (isList : Run endsSelectList false list listEndsInDot)
      (notTop : grammar = .sqlServer →
        ∀ token ∈ (list.dropWhile fun token => grammar.selectWords.contains token.kind).head?,
          token.kind ≠ .sqlServer .TOP)
      (isFrom : word.kind = .reserved .FROM)
      (areTables : FromTables grammar (kindAhead tail terminator.kind) tables references)
      (isTail : Run endsQuery false tail tailEndsInDot)
      (terminates : terminator.kind = .endOfText ∨ terminator.kind = .symbol .semicolon) :
      Query grammar (select :: (list ++ (word :: (tables ++ (tail ++ (terminator :: later))))))
        references

namespace Reading

open Cursor

variable {grammar : Grammar} {before after : Cursor}

/-- An index hint is skipped behind its verb. -/
theorem indexHint_of_passes {target : Option Token} {purpose group : List Token}
    (settled : before.Settled)
    (isTarget : ∀ token ∈ target, token.kind ∈ [Kind.reserved .INDEX, .reserved .KEY])
    (isPurpose : HintPurpose purpose) (isGroup : Group group)
    (passed : before.Passes (target.toList ++ (purpose ++ group)) after) :
    indexHint before = .ok () after := by
  obtain ⟨behindTarget, toTarget, onward⟩ := passed.split
  obtain ⟨behindPurpose, toPurpose, toGroup⟩ := onward.split
  have onGroup : behindPurpose.current.kind = .symbol .leftParen := by
    rw [toGroup.kindAhead, ← List.append_nil group, isGroup.kindAhead_eq]
  have settledTarget := toTarget.settled settled
  have skippedGroup := skipGroup_of_passes (toPurpose.settled settledTarget) isGroup toGroup
  have target_skipped : ∃ found, skipIf [.reserved .INDEX, .reserved .KEY] before =
      .ok found behindTarget := by
    cases target with
    | none =>
      obtain rfl := passes_nil_iff.mp toTarget
      refine ⟨false, skipIf_of_not_mem settled (by decide) ?_⟩
      rw [toPurpose.kindAhead, onGroup]
      cases isPurpose with
      | none => decide
      | words isWord allOn => simp [kindAhead, isWord]
    | some token =>
      exact ⟨true, skipIf_of_passes settled (by decide) (isTarget token rfl) toTarget⟩
  rw [indexHint]
  refine bind_ok_iff.mpr ⟨_, behindTarget, discard_ok_iff.mpr target_skipped, ?_⟩
  cases isPurpose with
  | none =>
    obtain rfl := passes_nil_iff.mp toPurpose
    refine bind_ok_iff.mpr ⟨false, behindPurpose,
      skipIf_of_not_mem settledTarget (by decide) (by simp [onGroup]), ?_⟩
    exact skippedGroup
  | @words word purpose isWord allOn =>
    obtain ⟨behindWord, toWord, toWords⟩ := toPurpose.uncons
    refine bind_ok_iff.mpr ⟨true, behindWord,
      skipIf_of_passes settledTarget (by decide) (by simp [isWord]) toWord, ?_⟩
    have skipped := skipAll_of_passes (toWord.settled settledTarget) (by decide) toWords allOn
      (by simp [onGroup])
    exact bind_ok_iff.mpr ⟨(), behindPurpose, skipped, skippedGroup⟩

/-- The hints behind a table are skipped. -/
theorem skipTableHints_of_passes {hints : List Token} (settled : before.Settled)
    (areHints : Hints after.current.kind grammar hints) (passed : before.Passes hints after) :
    grammar.skipTableHints before = .ok () after := by
  generalize next : after.current.kind = kind at areHints
  induction areHints generalizing before with
  | @none grammar other =>
    obtain rfl := passes_nil_iff.mp passed
    rw [← next] at other
    cases grammar with
    | mySQL =>
      rw [Grammar.skipTableHints, skipIndexHints_eq]
      exact repeatTurns_of_done consumes_indexHints
        (turnAfter_done_iff.mpr ⟨skipIf_of_not_mem settled (by decide) other, rfl⟩)
    | sqlServer =>
      exact bind_ok_iff.mpr ⟨false, after, skipIf_of_not_mem settled (by decide) other, rfl⟩
    | oracle => rfl
    | postgreSQL => rfl
  | @index hint rest isHint later inductionHypothesis =>
    obtain ⟨middle, toHint, onward⟩ := passed.split
    obtain @⟨verb, target, purpose, group, isVerb, isTarget, isPurpose, isGroup⟩ := isHint
    obtain ⟨behindVerb, toVerb, toRest⟩ := toHint.uncons
    have skipped := skipIf_of_passes settled (by decide) isVerb toVerb
    have read := indexHint_of_passes (toVerb.settled settled) isTarget isPurpose isGroup toRest
    have later := inductionHypothesis (toHint.settled settled) onward
    rw [Grammar.skipTableHints, skipIndexHints_eq] at later ⊢
    rw [repeatTurns_of_again consumes_indexHints
      (turnAfter_again_iff.mpr ⟨behindVerb, skipped, read⟩), later]
  | @withGroup word group isWord isGroup =>
    obtain ⟨middle, toWord, toGroup⟩ := passed.uncons
    refine bind_ok_iff.mpr ⟨true, middle,
      skipIf_of_passes settled (by decide) (by simp [isWord]) toWord, ?_⟩
    exact skipGroup_of_passes (toWord.settled settled) isGroup toGroup

/-- Where a name stands that is not the table that stands for no table, it is marked. -/
theorem tableFactor_of_name {name : List Token} {last : Token} (settled : before.Settled)
    (isName : DottedName name last) (notDual : ∀ token ∈ name.head?, token.kind ∉ dualNames)
    (passed : before.Passes name after) (nameEnds : after.current.kind ≠ .symbol .dot) :
    tableFactor grammar before = (do
      let alias? ← Reading.alias?
      grammar.skipTableHints
      return some (TableReference.mk ⟨last.start, last.text⟩ alias?)) after := by
  have mark := tableMark_of_passes settled isName passed nameEnds
  have notOpen : ¬before.isOn [.symbol .leftParen] = true := by
    obtain ⟨isFirst, -⟩ := isName
    rw [isOn_iff, List.mem_singleton, passed.current_eq]
    intro isOpen
    rw [isOpen] at isFirst
    cases isFirst
  have notOnDual : before.current.kind ∉ dualNames := by
    obtain ⟨-, -⟩ := isName
    rw [passed.current_eq]
    exact notDual _ rfl
  rw [tableFactor, isOn_bind, if_neg notOpen,
    bind_of_ok (skipIf_of_not_mem settled (by decide) notOnDual), if_neg nofun, aliasedTable,
    bind_assoc, bind_of_ok mark]
  simp only [bind_assoc, pure_bind]

/-- A table of a query makes the reference that it is said to make. -/
theorem tableFactor_of_passes {factor : List Token} {reference? : Option TableReference}
    (settled : before.Settled) (isFactor : Factor grammar after.current.kind factor reference?)
    (passed : before.Passes factor after) : tableFactor grammar before = .ok reference? after := by
  cases isFactor with
  | @table name aliasPart hints last alias? isName notDual nameEnds isAlias areHints =>
    obtain ⟨behindName, toName, onward⟩ := passed.split
    obtain ⟨behindAlias, toAlias, toHints⟩ := onward.split
    have settledName := toName.settled settled
    rw [← onward.kindAhead] at nameEnds
    rw [← toHints.kindAhead] at isAlias
    rw [tableFactor_of_name settled isName notDual toName nameEnds,
      bind_of_ok (alias?_of_passes settledName isAlias toAlias),
      bind_of_ok (skipTableHints_of_passes (toAlias.settled settledName) areHints toHints)]
    rfl
  | @subquery group aliasPart alias? isGroup isAlias =>
    obtain ⟨middle, toGroup, toAlias⟩ := passed.split
    have isOpen : before.isOn [.symbol .leftParen] = true := by
      rw [isOn_iff, passed.kindAhead, isGroup.kindAhead_eq]
      exact List.mem_cons_self
    rw [tableFactor, isOn_bind, if_pos isOpen]
    refine bind_ok_iff.mpr ⟨_, middle, skipGroup_of_passes settled isGroup toGroup, ?_⟩
    refine bind_ok_iff.mpr ⟨_, after, discard_ok_iff.mpr ⟨alias?, ?_⟩, rfl⟩
    exact alias?_of_passes (toGroup.settled settled) isAlias toAlias
  | @dual token isDual =>
    have notOpen : ¬before.isOn [.symbol .leftParen] = true := by
      rw [isOn_iff, passed.current_eq, List.mem_singleton]
      intro isOpen
      rw [isOpen] at isDual
      exact absurd isDual (by decide)
    rw [tableFactor, isOn_bind, if_neg notOpen]
    exact bind_ok_iff.mpr ⟨true, after, skipIf_of_passes settled (by decide) isDual passed, rfl⟩

/-- Behind `ON` a condition is skipped. -/
theorem skipJoinCondition_of_on {word : Token} (settled : before.Settled)
    (isWord : word.kind = .reserved .ON) (passed : before.Passes [word] after) :
    skipJoinCondition before = skipItems endsCondition after := by
  have notUsing : before.current.kind ∉ [Kind.reserved .USING] := by
    rw [passed.current_eq, isWord]
    decide
  rw [skipJoinCondition, bind_of_ok (skipIf_of_not_mem settled (by decide) notUsing), if_neg nofun,
    bind_of_ok (skipIf_of_passes settled (by decide) (by simp [isWord]) passed), if_pos rfl]

/-- The condition of a join is skipped up to the token that ends it. -/
theorem skipJoinCondition_of_passes {condition : List Token} (settled : before.Settled)
    (isCondition : JoinCondition after.current.kind condition)
    (passed : before.Passes condition after) : skipJoinCondition before = .ok () after := by
  cases isCondition with
  | none notUsing notOn =>
    obtain rfl := passes_nil_iff.mp passed
    refine bind_ok_iff.mpr ⟨false, after,
      skipIf_of_not_mem settled (by decide) (by simpa using notUsing), ?_⟩
    exact bind_ok_iff.mpr ⟨false, after,
      skipIf_of_not_mem settled (by decide) (by simpa using notOn), rfl⟩
  | @columns word group isWord isGroup =>
    obtain ⟨middle, toWord, toGroup⟩ := passed.uncons
    refine bind_ok_iff.mpr ⟨true, middle,
      skipIf_of_passes settled (by decide) (by simp [isWord]) toWord, ?_⟩
    exact skipGroup_of_passes (toWord.settled settled) isGroup toGroup
  | @condition word run endsInDot isWord isRun stopped =>
    obtain ⟨middle, toWord, toRun⟩ := passed.uncons
    rw [skipJoinCondition_of_on settled isWord toWord]
    exact skipItems_of_run (toWord.settled settled) isRun toRun stopped

/-- The words of a join are skipped, and it is told that there is a join. -/
theorem skipJoinType_of_passes {modifiers : List Token} {word : Token} (settled : before.Settled)
    (areModifiers : ∀ token ∈ modifiers, token.kind ∈ joinModifiers)
    (isWord : word.kind ∈ joinKeywords) (passed : before.Passes (modifiers ++ [word]) after) :
    skipJoinType before = .ok true after := by
  obtain ⟨middle, toWord, onward⟩ := passed.split
  have onJoin : before.isOn (joinModifiers ++ joinKeywords) = true := by
    rw [isOn_iff, passed.kindAhead, List.mem_append]
    cases modifiers with
    | nil => exact .inr isWord
    | cons modifier modifiers => exact .inl (areModifiers _ List.mem_cons_self)
  have notModifier : middle.current.kind ∉ joinModifiers := by
    rw [onward.current_eq]
    intro isModifier
    simp only [joinKeywords, List.mem_cons, List.not_mem_nil, or_false] at isWord
    rcases isWord with isJoin | isJoin <;> rw [isJoin] at isModifier <;>
      exact absurd isModifier (by decide)
  have skipped := skipAll_of_passes settled (by decide) toWord areModifiers notModifier
  rw [skipJoinType, isOn_bind, if_pos onJoin]
  refine bind_ok_iff.mpr ⟨(), middle, skipped, ?_⟩
  exact bind_ok_iff.mpr ⟨true, after,
    skipIf_of_passes (toWord.settled settled) (by decide) isWord onward, rfl⟩

/-- Where no word of a join stands, it is told that there is none. -/
theorem skipJoinType_of_not_mem (notOn : before.current.kind ∉ joinModifiers ++ joinKeywords) :
    skipJoinType before = .ok false before := by
  rw [skipJoinType, isOn_bind, if_neg (by rwa [isOn_iff])]
  rfl

/-- A table behind a comma is added to those found so far. -/
theorem referencesTurn_of_comma {comma : Token} {factor : List Token}
    {reference? : Option TableReference} {found : List TableReference} (settled : before.Settled)
    (isComma : comma.kind = .symbol .comma)
    (isFactor : Factor grammar after.current.kind factor reference?)
    (passed : before.Passes (comma :: factor) after) :
    referencesTurn grammar found before = .ok (.again (found ++ reference?.toList)) after := by
  obtain ⟨behindComma, toComma, toFactor⟩ := passed.uncons
  have read := tableFactor_of_passes (toComma.settled settled) isFactor toFactor
  refine bind_ok_iff.mpr ⟨true, behindComma,
    skipIf_of_passes settled (by decide) (by simp [isComma]) toComma, ?_⟩
  exact bind_ok_iff.mpr ⟨reference?, after, read, rfl⟩

/-- A table that is joined is added to those found so far, and its condition is passed. -/
theorem referencesTurn_of_joined {modifiers factor : List Token} {word : Token}
    {reference? : Option TableReference} {found : List TableReference} (settled : before.Settled)
    (areModifiers : ∀ token ∈ modifiers, token.kind ∈ joinModifiers)
    (isWord : word.kind ∈ joinKeywords)
    (isFactor : Factor grammar after.current.kind factor reference?)
    (passed : before.Passes (modifiers ++ word :: factor) after) :
    referencesTurn grammar found before = (do
      skipJoinCondition
      return Turn.again (found ++ reference?.toList)) after := by
  obtain ⟨behindModifiers, toModifiers, onward⟩ := passed.split
  obtain ⟨behindWord, toWord, toFactor⟩ := onward.uncons
  have toJoin := toModifiers.trans toWord
  have notComma : before.current.kind ∉ [Kind.symbol .comma] := by
    rw [toJoin.kindAhead]
    cases modifiers with
    | nil =>
      intro isComma
      simp only [List.nil_append, kindAhead, List.mem_singleton] at isComma
      rw [isComma] at isWord
      exact absurd isWord (by decide)
    | cons modifier modifiers =>
      intro isComma
      have isModifier := areModifiers modifier List.mem_cons_self
      rw [List.cons_append, kindAhead, List.mem_singleton] at isComma
      rw [isComma] at isModifier
      exact absurd isModifier (by decide)
  have joined := skipJoinType_of_passes settled areModifiers isWord toJoin
  have read := tableFactor_of_passes (toJoin.settled settled) isFactor toFactor
  rw [referencesTurn, bind_of_ok (skipIf_of_not_mem settled (by decide) notComma), if_neg nofun,
    bind_of_ok joined, if_pos rfl, bind_of_ok read]

/-- Where a join with a table and a condition stands, the turn adds the table and asks for another turn.
-/
theorem referencesTurn_of_join {modifiers factor : List Token} {word : Token} {middle : Cursor}
    {reference? : Option TableReference} {found : List TableReference} (settled : before.Settled)
    (areModifiers : ∀ token ∈ modifiers, token.kind ∈ joinModifiers)
    (isWord : word.kind ∈ joinKeywords)
    (isFactor : Factor grammar middle.current.kind factor reference?)
    (passed : before.Passes (modifiers ++ word :: factor) middle)
    (conditioned : skipJoinCondition middle = .ok () after) :
    referencesTurn grammar found before = .ok (.again (found ++ reference?.toList)) after := by
  rw [referencesTurn_of_joined settled areModifiers isWord isFactor passed, bind_of_ok conditioned]
  rfl

/-- Before any other token the tables end. -/
theorem referencesLoop_of_not_mem {found : List TableReference} (settled : before.Settled)
    (stopped : before.current.kind ∉ .symbol .comma :: (joinModifiers ++ joinKeywords)) :
    repeatTurns (referencesTurn grammar) found before = .ok found before := by
  rw [List.mem_cons, not_or] at stopped
  refine repeatTurns_of_done (consumes_referencesTurn grammar) ?_
  refine bind_ok_iff.mpr ⟨false, before,
    skipIf_of_not_mem settled (by decide) (by simpa using stopped.1), ?_⟩
  exact bind_ok_iff.mpr ⟨false, before, skipJoinType_of_not_mem stopped.2, rfl⟩

/-- A turn adds tables to those found so far. -/
theorem exists_of_referencesTurn {found : List TableReference} {decision : Turn (List TableReference)}
    (taken : referencesTurn grammar found before = .ok decision after) :
    ∃ more, decision = .again (found ++ more) ∨ decision = .done found := by
  obtain ⟨isComma, behindComma, -, taken⟩ := bind_ok_iff.mp taken
  cases isComma with
  | true =>
    obtain ⟨reference?, _, -, made⟩ := bind_ok_iff.mp taken
    exact ⟨reference?.toList, .inl (pure_ok_iff.mp made).1⟩
  | false =>
    obtain ⟨isJoin, behindJoin, -, taken⟩ := bind_ok_iff.mp taken
    cases isJoin with
    | true =>
      obtain ⟨reference?, _, -, taken⟩ := bind_ok_iff.mp taken
      obtain ⟨_, _, -, made⟩ := bind_ok_iff.mp taken
      exact ⟨reference?.toList, .inl (pure_ok_iff.mp made).1⟩
    | false => exact ⟨[], .inr (pure_ok_iff.mp taken).1⟩

/-- The tables found so far stay in front. -/
theorem exists_of_referencesLoop {found references : List TableReference}
    (read : repeatTurns (referencesTurn grammar) found before = .ok references after) :
    ∃ more, references = found ++ more := by
  have turns := turns_of_repeatTurns (consumes_referencesTurn grammar) read
  clear read
  induction turns with
  | last taken =>
    obtain ⟨_, again | done⟩ := exists_of_referencesTurn taken
    · cases again
    · exact ⟨[], by rw [Turn.done.inj done, List.append_nil]⟩
  | again taken _ inductionHypothesis =>
    obtain ⟨more, rfl⟩ := inductionHypothesis
    obtain ⟨first, again | done⟩ := exists_of_referencesTurn taken
    · exact ⟨first ++ more, by rw [Turn.again.inj again, List.append_assoc]⟩
    · cases done

/-- Tables between two others are added to those found so far. -/
theorem referencesLoop_of_between {rest : List Token} {found references : List TableReference}
    (settled : before.Settled) (areFactors : FactorsBetween grammar after.current.kind rest references)
    (passed : before.Passes rest after) :
    repeatTurns (referencesTurn grammar) found before =
      repeatTurns (referencesTurn grammar) (found ++ references) after := by
  have consumes := consumes_referencesTurn grammar
  generalize next : after.current.kind = kind at areFactors
  induction areFactors generalizing before found with
  | nil =>
    obtain rfl := passes_nil_iff.mp passed
    rw [List.append_nil]
  | @comma comma factor rest reference? references isComma isFactor later inductionHypothesis =>
    change before.Passes ((comma :: factor) ++ rest) after at passed
    obtain ⟨behindFactor, toFactor, toRest⟩ := passed.split
    rw [← next, ← toRest.kindAhead] at isFactor
    rw [repeatTurns_of_again consumes (referencesTurn_of_comma settled isComma isFactor toFactor),
      inductionHypothesis (toFactor.settled settled) toRest, List.append_assoc]
  | @join modifiers factor condition rest word reference? references areModifiers isWord isFactor
      isCondition later inductionHypothesis =>
    obtain ⟨behindModifiers, toModifiers, onward⟩ := passed.split
    change behindModifiers.Passes ((word :: factor) ++ (condition ++ rest)) after at onward
    obtain ⟨behindFactor, toFactor, onward⟩ := onward.split
    obtain ⟨behindCondition, toCondition, toRest⟩ := onward.split
    have toJoined := toModifiers.trans toFactor
    have settledFactor := toJoined.settled settled
    rw [← next, ← onward.kindAhead] at isFactor
    rw [← next, ← toRest.kindAhead] at isCondition
    have conditioned := skipJoinCondition_of_passes settledFactor isCondition toCondition
    rw [repeatTurns_of_again consumes
        (referencesTurn_of_join settled areModifiers isWord isFactor toJoined conditioned),
      inductionHypothesis (toCondition.settled settledFactor) toRest, List.append_assoc]

/-- The tables behind the first one are added to those found so far. -/
theorem referencesLoop_of_passes {rest : List Token} {found references : List TableReference}
    (settled : before.Settled) (areFactors : MoreFactors grammar after.current.kind rest references)
    (passed : before.Passes rest after) :
    repeatTurns (referencesTurn grammar) found before = .ok (found ++ references) after := by
  obtain ⟨between, stopped⟩ := areFactors.between
  rw [referencesLoop_of_between settled between passed]
  exact referencesLoop_of_not_mem (passed.settled settled) stopped

/-- The tables of a `FROM` make their references in order. -/
theorem tableReferences_of_passes {tables : List Token} {references : List TableReference}
    (settled : before.Settled)
    (areTables : FromTables grammar after.current.kind tables references)
    (passed : before.Passes tables after) :
    tableReferences grammar before = .ok references after := by
  obtain @⟨factor, rest, reference?, references, isFactor, more⟩ := areTables
  obtain ⟨middle, toFactor, toRest⟩ := passed.split
  rw [← toRest.kindAhead] at isFactor
  have read := tableFactor_of_passes settled isFactor toFactor
  rw [tableReferences_eq]
  exact bind_ok_iff.mpr ⟨reference?, middle, read,
    referencesLoop_of_passes (toFactor.settled settled) more toRest⟩

/-- Behind its list and `FROM` a query goes on with its tables. -/
theorem queryBody_of_list {list : List Token} {word : Token} {endsInDot : Bool}
    (settled : before.Settled) (isList : Run endsSelectList false list endsInDot)
    (isFrom : word.kind = .reserved .FROM) (passed : before.Passes (list ++ [word]) after) :
    queryBody grammar before = (tableReferences grammar >>= queryClauses) after := by
  obtain ⟨atFrom, toFrom, onward⟩ := passed.split
  have onFrom : atFrom.current.kind = .reserved .FROM := by rw [onward.current_eq, isFrom]
  have listed : skipSelectList before = .ok () atFrom :=
    skipItems_of_run settled isList toFrom (.inr (by rw [onFrom]; rfl))
  have found : skipIf [.reserved .FROM] atFrom = .ok true after :=
    skipIf_of_passes (toFrom.settled settled) (by decide) (by simp [isFrom]) onward
  rw [queryBody_eq, bind_of_ok listed, bind_of_ok found, if_pos rfl]

/-- The clauses of a query are skipped up to its end. -/
theorem queryClauses_of_run {clauses : List Token} {endsInDot : Bool} (settled : before.Settled)
    (areClauses : Run endsQuery false clauses endsInDot) (passed : before.Passes clauses after)
    (terminates : after.current.kind = .endOfText ∨ after.current.kind = .symbol .semicolon)
    (references : List TableReference) :
    queryClauses references before = .ok ⟨references, []⟩ after := by
  have skipped : skipItemsUntil (.symbol .semicolon :: setOperators) before = .ok () after := by
    refine skipItems_of_run settled areClauses passed (terminates.imp id fun onSemicolon => ?_)
    rw [onSemicolon]
    rfl
  have notOperator : after.current.kind ∉ setOperators := by
    rcases terminates with atEnd | onSemicolon
    · rw [atEnd]
      decide
    · rw [onSemicolon]
      decide
  rw [queryClauses, bind_of_ok skipped, bind_of_ok (refuse_ok_iff.mpr ⟨notOperator, rfl⟩)]
  rfl

/-- A query is read to the tables behind its `FROM`. -/
theorem exists_queryBody_of_queryFrom {references : List TableReference} (settled : before.Settled)
    (isQuery : QueryFrom grammar before.tokens references) :
    ∃ final taken, before.Passes taken final ∧ queryBody grammar before = .ok ⟨references, []⟩ final ∧
      (final.current.kind = .endOfText ∨ final.current.kind = .symbol .semicolon) := by
  generalize whole : before.tokens = tokens at isQuery
  obtain @⟨list, tables, clauses, later, word, terminator, references, _, _, isList, isFrom, areTables,
    areClauses, terminates⟩ := isQuery
  have front : before.tokens = ((list ++ [word]) ++ (tables ++ clauses)) ++ terminator :: later := by
    rw [whole]
    simp
  obtain ⟨final, passed, onTerminator, -⟩ := exists_passes front
  obtain ⟨behindFrom, toFrom, onward⟩ := passed.split
  obtain ⟨behindTables, toTables, toFinal⟩ := onward.split
  have settledFrom := toFrom.settled settled
  rw [← onTerminator] at areTables terminates
  rw [← toFinal.kindAhead] at areTables
  refine ⟨final, _, passed, ?_, terminates⟩
  rw [queryBody_of_list settled isList isFrom toFrom,
    bind_of_ok (tableReferences_of_passes settledFrom areTables toTables)]
  exact queryClauses_of_run (toTables.settled settledFrom) areClauses toFinal terminates references

/-- Where a name stands behind `FROM`, it is the first of the tables. -/
theorem exists_tables_of_name {name : List Token} {last : Token} {references : List TableReference}
    {final : Cursor} (settled : before.Settled) (isName : DottedName name last)
    (notDual : ∀ token ∈ name.head?, token.kind ∉ dualNames) (passed : before.Passes name after)
    (nameEnds : after.current.kind ≠ .symbol .dot)
    (read : tableReferences grammar before = .ok references final) :
    ∃ alias? more, references = ⟨⟨last.start, last.text⟩, alias?⟩ :: more := by
  rw [tableReferences_eq] at read
  obtain ⟨reference?, behindFirst, first, loop⟩ := bind_ok_iff.mp read
  rw [tableFactor_of_name settled isName notDual passed nameEnds] at first
  obtain ⟨alias?, _, -, first⟩ := bind_ok_iff.mp first
  obtain ⟨_, _, -, made⟩ := bind_ok_iff.mp first
  obtain ⟨rfl, rfl⟩ := pure_ok_iff.mp made
  obtain ⟨more, rfl⟩ := exists_of_referencesLoop loop
  exact ⟨alias?, more, rfl⟩

/-- The leading words of a select list are skipped, and a shorter list is left. -/
theorem skipAll_of_run {stops : (afterDot : Bool) → Kind → Bool} {list : List Token}
    {endsInDot : Bool} (kinds : List Kind) (settled : before.Settled) (noEnd : .endOfText ∉ kinds)
    (noDot : .symbol .dot ∉ kinds) (noOpen : .symbol .leftParen ∉ kinds)
    (isRun : Run stops false list endsInDot) (passed : before.Passes list after)
    (notOn : after.current.kind ∉ kinds) :
    ∃ middle, skipAll kinds before = .ok () middle ∧ middle.Settled ∧
      middle.Passes (list.dropWhile fun token => kinds.contains token.kind) after ∧
      Run stops false (list.dropWhile fun token => kinds.contains token.kind) endsInDot := by
  have whole := List.takeWhile_append_dropWhile (p := fun token : Token => kinds.contains token.kind)
    (l := list)
  have allOn : ∀ token ∈ list.takeWhile fun token => kinds.contains token.kind,
      token.kind ∈ kinds := by
    intro token isTaken
    simpa using List.all_eq_true.mp List.all_takeWhile token isTaken
  rw [← whole] at passed
  obtain ⟨middle, toLeading, toRest⟩ := passed.split
  refine ⟨middle, skipAll_of_passes settled noEnd toLeading allOn ?_,
    toLeading.settled settled, toRest, ?_⟩
  · rw [toRest.kindAhead]
    have stopped := List.head?_dropWhile_not (fun token : Token => kinds.contains token.kind) list
    cases dropped : list.dropWhile fun token => kinds.contains token.kind with
    | nil => exact notOn
    | cons token rest =>
      rw [dropped] at stopped
      simpa [kindAhead] using stopped
  · exact isRun.dropWhile noDot noOpen

/-- The words before the list of a query are skipped, and what is left up to the `FROM` is a list. -/
theorem skipSelectModifiers_of_passes {list : List Token} {endsInDot : Bool}
    (settled : before.Settled) (isRun : Run endsSelectList false list endsInDot)
    (notTop : grammar = .sqlServer →
      ∀ token ∈ (list.dropWhile fun token => grammar.selectWords.contains token.kind).head?,
        token.kind ≠ .sqlServer .TOP)
    (passed : before.Passes list after) (onFrom : after.current.kind = .reserved .FROM) :
    ∃ middle rest, grammar.skipSelectModifiers before = .ok () middle ∧ middle.Settled ∧
      middle.Passes rest after ∧ Run endsSelectList false rest endsInDot := by
  obtain ⟨middle, skipped, settledMiddle, toRest, stillRun⟩ := skipAll_of_run
    grammar.selectWords settled (by cases grammar <;> decide)
    (by cases grammar <;> decide) (by cases grammar <;> decide) isRun passed
    (by rw [onFrom]; cases grammar <;> decide)
  refine ⟨middle, _, ?_, settledMiddle, toRest, stillRun⟩
  cases grammar with
  | sqlServer =>
    have notOnTop : middle.current.kind ∉ [Kind.sqlServer .TOP] := by
      have notTop := notTop rfl
      rw [toRest.kindAhead, List.mem_singleton]
      cases dropped : list.dropWhile fun token =>
          Grammar.sqlServer.selectWords.contains token.kind with
      | nil => simp [kindAhead, onFrom]
      | cons token rest => exact notTop token (by rw [dropped]; rfl)
    refine bind_ok_iff.mpr ⟨(), middle, skipped, ?_⟩
    exact bind_ok_iff.mpr ⟨false, middle, skipIf_of_not_mem settledMiddle (by decide) notOnTop, rfl⟩
  | mySQL => exact skipped
  | oracle => exact skipped
  | postgreSQL => exact skipped

/-- A statement ends at the end token, or behind a semicolon if its text holds no fault. -/
theorem skipSemicolon_ok (settled : before.Settled) (clean : before.ahead.ending = .finished)
    (terminates : before.current.kind = .endOfText ∨ before.current.kind = .symbol .semicolon) :
    ∃ after, (discard <| skipIf [.symbol .semicolon]) before = .ok PUnit.unit after := by
  rcases terminates with atEnd | onSemicolon
  · refine ⟨before, discard_ok_iff.mpr ⟨false, skipIf_of_not_mem settled (by decide) ?_⟩⟩
    simp [atEnd]
  · have notEmpty : before.ahead.tokens ≠ [] := by
      intro nothing
      obtain ⟨place, last⟩ := settled.current_of_ahead (Tape.mk.injEq .. ▸ ⟨nothing, clean⟩)
      simp [last, Token.endAt] at onSemicolon
    obtain ⟨token, later, ahead⟩ := List.exists_cons_of_ne_nil notEmpty
    have tokens : before.tokens = [before.current] ++ token :: later :=
      congrArg (before.current :: ·) ahead
    obtain ⟨after, passed, -⟩ := exists_passes tokens
    exact ⟨after, discard_ok_iff.mpr
      ⟨true, skipIf_of_passes settled (by decide) (by simp [onSemicolon]) passed⟩⟩

/-- A query is read as a `SELECT` of the tables it refers to. -/
theorem select_of_query {references : List TableReference}
    (settled : before.Settled) (clean : before.ahead.ending = .finished)
    (isQuery : Query grammar before.tokens references) :
    ∃ after, select grammar before = .ok (.ofReferences .select references) after := by
  generalize whole : before.tokens = tokens at isQuery
  obtain @⟨select, word, terminator, list, tables, tail, later, references, _, _, isSelect, isList,
    notTop, isFrom, areTables, isTail, terminates⟩ := isQuery
  have front : before.tokens =
      ([select] ++ list) ++ word :: (tables ++ (tail ++ terminator :: later)) := by
    rw [whole]
    simp
  obtain ⟨atFrom, passed, onWord, ahead⟩ := exists_passes front
  obtain ⟨behindSelect, toSelect, toFrom⟩ := passed.split
  have onFrom : atFrom.current.kind = .reserved .FROM := by rw [onWord, isFrom]
  obtain ⟨atList, rest, modified, settledList, toRest, restIsList⟩ :=
    skipSelectModifiers_of_passes (toSelect.settled settled) isList notTop toFrom onFrom
  have isBody : QueryFrom grammar atList.tokens references := by
    rw [toRest.tokens, Cursor.tokens, onWord, ahead]
    exact .mk restIsList isFrom areTables isTail terminates
  obtain ⟨final, taken, toFinal, read, ends⟩ := exists_queryBody_of_queryFrom settledList isBody
  have cleanFinal : final.ahead.ending = .finished := by
    rw [toFinal.ending, ← toRest.ending, passed.ending, clean]
  obtain ⟨after, ended⟩ := skipSemicolon_ok (toFinal.settled settledList) cleanFinal ends
  have opened : Family.select.opening grammar before = .ok () atList :=
    bind_ok_iff.mpr ⟨_, behindSelect, discard_ok_iff.mpr
      ⟨select, accept_of_passes settled (by simp) isSelect toSelect⟩, modified⟩
  refine ⟨after, ?_⟩
  change Family.select.parser grammar .empty before = _
  rw [Family.parser_eq, Family.outline, selectOutline_eq_body, bind_assoc, bind_of_ok opened,
    bind_of_ok read, bind_of_ok ended]
  rfl

end Reading

/-- A query begins with `SELECT`. -/
theorem Query.first_kind {grammar : Grammar} {token : Token} {later : List Token}
    {references : List TableReference} (isQuery : Query grammar (token :: later) references) :
    token.kind = .reserved .SELECT := by
  cases isQuery
  assumption

/-- Every table of a query is found: a text whose tokens form a query is read as a `SELECT` of the
tables that the query refers to. Each reference leaves a mark, in order, and the tables are the distinct
names, each with the distinct aliases that were given to it in any of its spellings. -/
theorem parse_of_query {dialect : Dialect} {text : String} {references : List TableReference}
    (rule : ShardingRule) (clean : (Tape.ofText dialect text).isClean = true)
    (isQuery : Query dialect.grammar (Tape.ofText dialect text).tokens references) :
    parse dialect rule text = .ok
      { family := .select
        tables := ⟨(Text.distinctNames (references.map (·.mark.name))).map fun name =>
          ⟨name, Text.distinctNames
            ((references.filter fun reference => Text.sameName name reference.mark.name).filterMap
              (·.alias?))⟩⟩
        marks := references.map (·.mark) } := by
  have notEmpty : (Tape.ofText dialect text).tokens ≠ [] := by
    intro empty
    rw [empty] at isQuery
    cases isQuery
  obtain ⟨cursor, begins⟩ := Cursor.exists_begins notEmpty
  have ending : cursor.ahead.ending = .finished := by
    simpa [Tape.isClean, begins.ending] using clean
  rw [← begins.tokens] at isQuery
  obtain ⟨after, passed⟩ := Reading.select_of_query begins.settled ending isQuery
  rw [Statement.ofReferences, Tables.ofReferences_eq_distinct] at passed
  refine Reading.parse_ok_iff.mpr ⟨cursor, after, begins, ?_⟩
  exact Reading.statementOf_ok_iff.mpr ⟨.select, isQuery.first_kind, passed⟩

/-- A join of a table with a quoted one that has an owner and an alias. -/
theorem parse_of_query_join :
    (Tape.ofText .mySQL "SELECT a FROM t JOIN s.\"T\" y USING(k)").isClean = true ∧
      parse .mySQL .empty "SELECT a FROM t JOIN s.\"T\" y USING(k)" =
        .ok
          { family := .select
            tables := ⟨[⟨"t", ["y"]⟩]⟩
            marks := [⟨14, "t"⟩, ⟨23, "\"T\""⟩] } := by
  have tape : Tape.ofText .mySQL "SELECT a FROM t JOIN s.\"T\" y USING(k)" = ⟨[
      ⟨.reserved .SELECT, "SELECT", 0, 6⟩, ⟨.literal .identifier, "a", 7, 8⟩,
      ⟨.reserved .FROM, "FROM", 9, 13⟩, ⟨.literal .identifier, "t", 14, 15⟩,
      ⟨.reserved .JOIN, "JOIN", 16, 20⟩, ⟨.literal .identifier, "s", 21, 22⟩,
      ⟨.symbol .dot, ".", 22, 23⟩, ⟨.literal .identifier, "\"T\"", 23, 26⟩,
      ⟨.literal .identifier, "y", 27, 28⟩, ⟨.reserved .USING, "USING", 29, 34⟩,
      ⟨.symbol .leftParen, "(", 34, 35⟩, ⟨.literal .identifier, "k", 35, 36⟩,
      ⟨.symbol .rightParen, ")", 36, 37⟩, ⟨.endOfText, "", 37, 37⟩], .finished⟩ := by
    decide +kernel
  have clean : (Tape.ofText .mySQL "SELECT a FROM t JOIN s.\"T\" y USING(k)").isClean = true := by
    rw [tape]
    rfl
  have tables : Tables.ofReferences [⟨⟨14, "t"⟩, none⟩, ⟨⟨23, "\"T\""⟩, some "y"⟩] =
      ⟨[⟨"t", ["y"]⟩]⟩ := by
    decide +kernel
  rw [← tables, Tables.ofReferences_eq_distinct]
  refine ⟨clean, parse_of_query .empty clean ?_⟩
  rw [tape]
  have list : Run endsSelectList false [⟨.literal .identifier, "a", 7, 8⟩] false :=
    .token (by decide) (by decide) (by decide) .nil
  have first : Factor .mySQL (.reserved .JOIN) [⟨.literal .identifier, "t", 14, 15⟩]
      (some ⟨⟨14, "t"⟩, none⟩) :=
    .table (.mk (by decide) .nil) (by decide) (by decide) (.none (by decide) (by decide))
      (.none (by decide))
  have second : Factor .mySQL (.reserved .USING) [⟨.literal .identifier, "s", 21, 22⟩,
      ⟨.symbol .dot, ".", 22, 23⟩, ⟨.literal .identifier, "\"T\"", 23, 26⟩,
      ⟨.literal .identifier, "y", 27, 28⟩] (some ⟨⟨23, "\"T\""⟩, some "y"⟩) :=
    .table (.mk (by decide) (.part (by decide) (by decide) .nil)) (by decide) (by decide)
      (.bare (by decide)) (.none (by decide))
  have group : Group [⟨.symbol .leftParen, "(", 34, 35⟩, ⟨.literal .identifier, "k", 35, 36⟩,
      ⟨.symbol .rightParen, ")", 36, 37⟩] :=
    .mk (by decide) (.token (by decide) (by decide) (by decide) .nil) (by decide)
  have condition : JoinCondition .endOfText [⟨.reserved .USING, "USING", 29, 34⟩,
      ⟨.symbol .leftParen, "(", 34, 35⟩, ⟨.literal .identifier, "k", 35, 36⟩,
      ⟨.symbol .rightParen, ")", 36, 37⟩] :=
    .columns (by decide) group
  have joined := @MoreFactors.join .mySQL .endOfText [] _ _ [] ⟨.reserved .JOIN, "JOIN", 16, 20⟩ _ []
    (by decide) (by decide) (by exact second) condition (.nil (by decide))
  have tables := @FromTables.mk .mySQL .endOfText _ _ _ _ (by exact first) joined
  exact @Query.mk .mySQL ⟨.reserved .SELECT, "SELECT", 0, 6⟩ ⟨.reserved .FROM, "FROM", 9, 13⟩
    (.endAt 37) _ _ [] [] _ false false rfl list (by decide) rfl tables .nil (.inl rfl)

end SqlSharding
