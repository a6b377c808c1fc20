import SqlSharding.Proofs.Query.Conditions
import SqlSharding.Proofs.Outline.Body
import SqlSharding.Proofs.Sources

/-!
# Chains of joins

A query may join any number of tables, each behind the condition of the join before it. Its tables are
found up to the first condition that holds an unqualified dialect word. From that word on the rest of the
query is skipped as clauses behind the tables, whatever it joins.
-/

namespace SqlSharding

open Reading

/-- A table that is joined, behind the words that join it. -/
structure JoinedTable where
  modifiers : List Token
  word : Token
  factor : List Token
  reference? : Option TableReference

namespace JoinedTable

/-- The tokens of the joined table. -/
def tokens (joined : JoinedTable) : List Token :=
  joined.modifiers ++ joined.word :: joined.factor

/-- The joined table is written as the grammar asks for before a token of the kind. -/
structure IsWritten (grammar : Grammar) (next : Kind) (joined : JoinedTable) : Prop where
  areModifiers : ∀ token ∈ joined.modifiers, token.kind ∈ joinModifiers
  isWord : joined.word.kind ∈ joinKeywords
  isFactor : Factor grammar next joined.factor joined.reference?

end JoinedTable

/-- The condition of a join, and the table that is joined behind it. -/
structure Link where
  word : Token
  condition : List Token
  joined : JoinedTable

namespace Link

/-- The tokens of the link, those of its joined table included. -/
def tokens (link : Link) : List Token :=
  link.word :: (link.condition ++ link.joined.tokens)

/-- The tokens of links one behind the other. -/
def allTokens (links : List Link) : List Token := links.flatMap tokens

/-- The tables that links join up to the first condition with an unqualified dialect word, and the
tables behind the links if there is no such condition. -/
def tables (links : List Link) (behind : List TableReference) : List TableReference :=
  (links.takeWhile fun link => Qualified link.condition).flatMap (·.joined.reference?.toList) ++
    if ∀ link ∈ links, Qualified link.condition then behind else []

variable {link : Link} {rest : List Link} {behind : List TableReference}

/-- Behind a condition in which every dialect word has a dot before it, the joined table is found and
those that follow. -/
theorem tables_cons_of_qualified (qualified : Qualified link.condition) :
    tables (link :: rest) behind = link.joined.reference?.toList ++ tables rest behind := by
  simp [tables, qualified]

/-- Behind a condition with a dialect word that has no dot before it, no further table is found. -/
theorem tables_cons_of_not_qualified (unqualified : ¬Qualified link.condition) :
    tables (link :: rest) behind = [] := by
  simp [tables, unqualified]

end Link

/-- Links one behind the other, in any dialect: their conditions hold no token outside of groups that
ends a condition in every dialect. -/
inductive Links (grammar : Grammar) (next : Kind) : List Link → Prop
  | nil : Links grammar next []
  | cons {link : Link} {rest : List Link} {endsInDot : Bool}
      (isWord : link.word.kind = .reserved .ON)
      (isCondition : Run endsAnyCondition false link.condition endsInDot)
      (isJoined : link.joined.IsWritten grammar (kindAhead (Link.allTokens rest) next))
      (later : Links grammar next rest) : Links grammar next (link :: rest)

/-- What stands behind a joined table: its condition, further tables, and the clauses. -/
inductive QueryTail (grammar : Grammar) (next : Kind) : List Token → List TableReference → Prop
  | mk {condition more clauses : List Token} {references : List TableReference} {endsInDot : Bool}
      (isCondition : JoinCondition (kindAhead (more ++ clauses) next) condition)
      (areMore : MoreFactors grammar (kindAhead clauses next) more references)
      (areClauses : Run endsQuery false clauses endsInDot) :
      QueryTail grammar next (condition ++ (more ++ clauses)) references

/-- What is ahead of tokens in two parts is ahead of the first part, or else of the second. -/
theorem kindAhead_append (first second : List Token) (next : Kind) :
    kindAhead (first ++ second) next = kindAhead first (kindAhead second next) := by
  cases first <;> rfl

/-- The tokens are skipped as clauses behind the tables of a query. -/
def Skipped (tokens : List Token) : Prop :=
  ∃ endsInDot, Run endsQuery false tokens endsInDot

section Skipped

variable {first second tokens : List Token} {afterDot endsInDot : Bool} {grammar : Grammar}
  {next : Kind}

/-- A dot before the clauses makes no difference. -/
theorem Run.skipped (isRun : Run endsQuery afterDot tokens endsInDot) (before : Bool) :
    ∃ behind, Run endsQuery before tokens behind := by
  cases isRun with
  | nil => exact ⟨before, .nil⟩
  | token notEnd notOpen goesOn later => exact ⟨_, .token notEnd notOpen goesOn later⟩
  | group isGroup goesOn later => exact ⟨_, .group isGroup goesOn later⟩

/-- What is skipped in two parts is skipped. -/
theorem Skipped.append (left : Skipped first) (right : Skipped second) : Skipped (first ++ second) := by
  obtain ⟨middle, left⟩ := left
  obtain ⟨_, right⟩ := right
  obtain ⟨_, right⟩ := right.skipped middle
  exact ⟨_, left.append right⟩

/-- A group is skipped whole. -/
theorem skipped_of_group (isGroup : Group tokens) : Skipped tokens := by
  refine ⟨false, ?_⟩
  rw [← List.append_nil tokens]
  exact .group isGroup (by decide) .nil

/-- Tokens that neither open a group nor end a query are skipped. -/
theorem skipped_of_forall (all : ∀ token ∈ tokens, token.kind ∉ .symbol .leftParen :: queryEnds) :
    Skipped tokens := by
  induction tokens with
  | nil => exact ⟨false, .nil⟩
  | cons token tokens inductionHypothesis =>
    rw [List.forall_mem_cons] at all
    obtain ⟨_, later⟩ := inductionHypothesis all.2
    obtain ⟨_, later⟩ := later.skipped (token.kind = .symbol .dot)
    have other := all.1
    simp only [queryEnds, statementEnds, List.mem_cons, List.mem_append, List.not_mem_nil, or_false,
      not_or] at other
    refine ⟨_, .token other.2.2.2 other.1 ?_ later⟩
    simpa [endsQuery] using ⟨other.2.2.1, other.2.1⟩

/-- A name is no token that ends a query. -/
theorem not_mem_queryEnds_of_isName {kind : Kind} (isName : kind.isName = true) :
    kind ∉ .symbol .leftParen :: queryEnds := by
  intro isEnd
  have noName : ∀ kind ∈ Kind.symbol .leftParen :: queryEnds, kind.isName = false := by decide
  rw [noName kind isEnd] at isName
  cases isName

/-- A name is skipped. -/
theorem skipped_of_dottedName {name : List Token} {last : Token} (isName : DottedName name last) :
    Skipped name := by
  refine skipped_of_forall fun token isIn => ?_
  rcases isName.forall_kind token isIn with isDot | isName
  · rw [isDot]
    decide
  · exact not_mem_queryEnds_of_isName isName

/-- An alias is skipped. -/
theorem skipped_of_alias {aliasPart : List Token} {alias? : Option String}
    (isAlias : Alias next aliasPart alias?) : Skipped aliasPart := by
  refine skipped_of_forall ?_
  cases isAlias with
  | none => exact nofun
  | word isWord isName =>
    rw [List.forall_mem_cons, List.forall_mem_singleton]
    exact ⟨by rw [isWord]; decide, not_mem_queryEnds_of_isName isName⟩
  | bare isIdentifier =>
    rw [List.forall_mem_singleton, isIdentifier]
    decide

/-- Words of some kinds are skipped, if none of the kinds ends a query. -/
theorem skipped_of_words (kinds : List Kind) (allOn : ∀ token ∈ tokens, token.kind ∈ kinds)
    (others : ∀ kind ∈ kinds, kind ∉ .symbol .leftParen :: queryEnds) : Skipped tokens :=
  skipped_of_forall fun token isIn => others _ (allOn token isIn)

/-- A word is skipped, if its kind does not end a query. -/
theorem skipped_of_word {token : Token} {kind : Kind} (isWord : token.kind = kind)
    (other : kind ∉ .symbol .leftParen :: queryEnds) : Skipped [token] := by
  refine skipped_of_forall ?_
  rwa [List.forall_mem_singleton, isWord]

/-- An index hint is skipped. -/
theorem skipped_of_hint (isHint : IndexHint tokens) : Skipped tokens := by
  obtain @⟨verb, target, purpose, group, isVerb, isTarget, isPurpose, isGroup⟩ := isHint
  have onVerb : Skipped [verb] := skipped_of_words _ (by simpa using isVerb) (by decide)
  have onTarget : Skipped target.toList :=
    skipped_of_words _ (fun token isIn => isTarget token (by simpa using isIn)) (by decide)
  have onPurpose : Skipped purpose := by
    cases isPurpose with
    | none => exact ⟨false, .nil⟩
    | @words word purpose isWord allOn =>
      exact (skipped_of_word isWord (by decide)).append (skipped_of_words _ allOn (by decide))
  exact onVerb.append (onTarget.append (onPurpose.append (skipped_of_group isGroup)))

/-- The hints behind a table are skipped. -/
theorem skipped_of_hints (areHints : Hints next grammar tokens) : Skipped tokens := by
  induction areHints with
  | none => exact ⟨false, .nil⟩
  | index isHint _ inductionHypothesis => exact (skipped_of_hint isHint).append inductionHypothesis
  | @withGroup word _ isWord isGroup =>
    exact (skipped_of_word isWord (by decide)).append (skipped_of_group isGroup)

/-- A table of a query is skipped behind the place where the tables end: nothing of it ends the query.
-/
theorem skipped_of_factor {reference? : Option TableReference}
    (isFactor : Factor grammar next tokens reference?) : Skipped tokens := by
  cases isFactor with
  | table isName _ _ isAlias areHints =>
    exact (skipped_of_dottedName isName).append ((skipped_of_alias isAlias).append
      (skipped_of_hints areHints))
  | subquery isGroup isAlias => exact (skipped_of_group isGroup).append (skipped_of_alias isAlias)
  | dual isDual => exact skipped_of_words dualNames (by simpa using isDual) (by decide)

/-- What ends a query ends a join condition as well. -/
theorem skipped_of_endsAnyCondition (isRun : Run endsAnyCondition afterDot tokens endsInDot) :
    Skipped tokens := by
  refine (isRun.mono fun _ kind ends => ?_).skipped false
  have isEnd : kind ∈ Kind.symbol .semicolon :: setOperators := by simpa [endsQuery] using ends
  have conditionEnds : ∀ kind ∈ Kind.symbol .semicolon :: setOperators,
      endsAnyCondition false kind = true := by decide
  exact conditionEnds kind isEnd

/-- The condition of a join is skipped. -/
theorem skipped_of_condition (isCondition : JoinCondition next tokens) : Skipped tokens := by
  cases isCondition with
  | none => exact ⟨false, .nil⟩
  | @columns word _ isWord isGroup =>
    exact (skipped_of_word isWord (by decide)).append (skipped_of_group isGroup)
  | @condition word _ _ isWord isRun stopped =>
    refine (skipped_of_word isWord (by decide)).append
      (skipped_of_endsAnyCondition (isRun.mono fun afterDot kind ends => ?_))
    rw [endsCondition_eq, show endsAnyCondition afterDot kind = true from ends, Bool.true_or]

/-- A joined table begins with a word of a join. -/
theorem JoinedTable.IsWritten.kindAhead_mem {joined : JoinedTable}
    (isJoined : joined.IsWritten grammar next) (rest : List Token) (kind : Kind) :
    kindAhead (joined.tokens ++ rest) kind ∈ joinModifiers ++ joinKeywords := by
  rw [JoinedTable.tokens, List.mem_append]
  cases whole : joined.modifiers with
  | nil => exact .inr isJoined.isWord
  | cons modifier modifiers =>
    exact .inl (isJoined.areModifiers modifier (by rw [whole]; exact List.mem_cons_self))

/-- A joined table is skipped. -/
theorem JoinedTable.IsWritten.skipped {joined : JoinedTable} (isJoined : joined.IsWritten grammar next) :
    Skipped joined.tokens := by
  have onModifiers := skipped_of_words _ isJoined.areModifiers (by decide)
  have onWord : Skipped [joined.word] :=
    skipped_of_words _ (by simpa using isJoined.isWord) (by decide)
  exact onModifiers.append (onWord.append (skipped_of_factor isJoined.isFactor))

/-- Further tables are skipped. -/
theorem skipped_of_moreFactors {references : List TableReference}
    (areFactors : MoreFactors grammar next tokens references) : Skipped tokens := by
  induction areFactors with
  | nil => exact ⟨false, .nil⟩
  | @comma comma factor rest _ _ isComma isFactor _ inductionHypothesis =>
    exact (skipped_of_word isComma (by decide)).append
      ((skipped_of_factor isFactor).append inductionHypothesis)
  | @join modifiers factor condition rest word reference? _ areModifiers isWord isFactor isCondition _
      inductionHypothesis =>
    have isJoined : JoinedTable.IsWritten grammar _ ⟨modifiers, word, factor, reference?⟩ :=
      ⟨areModifiers, isWord, isFactor⟩
    have skipped :=
      isJoined.skipped.append ((skipped_of_condition isCondition).append inductionHypothesis)
    simpa only [JoinedTable.tokens, List.append_assoc, List.cons_append] using skipped

/-- Every link has an `ON` and a condition that ends in no dialect before its end. -/
theorem Links.of_mem {links : List Link} {link : Link} (areLinks : Links grammar next links)
    (isLink : link ∈ links) : link.word.kind = .reserved .ON ∧
      ∃ endsInDot, Run endsAnyCondition false link.condition endsInDot := by
  induction areLinks with
  | nil => cases isLink
  | cons isWord isCondition _ _ inductionHypothesis =>
    rcases List.mem_cons.mp isLink with rfl | isLater
    · exact ⟨isWord, _, isCondition⟩
    · exact inductionHypothesis isLater

/-- Links are skipped. -/
theorem Links.skipped {links : List Link} (areLinks : Links grammar next links) :
    Skipped (Link.allTokens links) := by
  induction areLinks with
  | nil => exact ⟨false, .nil⟩
  | @cons link _ _ isWord isCondition isJoined _ inductionHypothesis =>
    have onLink : Skipped link.tokens := (skipped_of_word isWord (by decide)).append
      ((skipped_of_endsAnyCondition isCondition).append isJoined.skipped)
    exact onLink.append inductionHypothesis

/-- What stands behind a joined table is skipped. -/
theorem QueryTail.skipped {references : List TableReference}
    (isTail : QueryTail grammar next tokens references) : Skipped tokens := by
  obtain ⟨isCondition, areMore, areClauses⟩ := isTail
  exact (skipped_of_condition isCondition).append
    ((skipped_of_moreFactors areMore).append ⟨_, areClauses⟩)

end Skipped

namespace Reading

open Cursor

variable {grammar : Grammar} {before after final : Cursor} {joined : JoinedTable} {links : List Link}
  {tail : List Token} {found references : List TableReference}

/-- The last table of a chain is found, and so are further tables behind it. -/
theorem referencesLoop_of_tail (settled : before.Settled)
    (isJoined : joined.IsWritten grammar (kindAhead tail final.current.kind))
    (isTail : QueryTail grammar final.current.kind tail references)
    (passed : before.Passes (joined.tokens ++ tail) final) :
    ∃ behind rest, repeatTurns (referencesTurn grammar) found before =
        .ok (found ++ (joined.reference?.toList ++ references)) behind ∧
      behind.Passes rest final ∧ Skipped rest := by
  obtain @⟨condition, more, clauses, references, _, isCondition, areMore, areClauses⟩ := isTail
  rw [← List.append_assoc, ← List.append_assoc] at passed
  obtain ⟨behind, toBehind, onward⟩ := passed.split
  rw [← onward.kindAhead] at areMore
  refine ⟨behind, clauses, ?_, onward, ⟨_, areClauses⟩⟩
  have factors : MoreFactors grammar behind.current.kind (joined.tokens ++ condition ++ more)
      (joined.reference?.toList ++ references) := by
    rw [JoinedTable.tokens, List.append_assoc, List.append_assoc]
    refine .join isJoined.areModifiers isJoined.isWord ?_ ?_ areMore
    · rw [onward.kindAhead, ← kindAhead_append, List.append_assoc]
      exact isJoined.isFactor
    · rwa [onward.kindAhead, ← kindAhead_append]
  exact referencesLoop_of_passes settled factors toBehind

/-- A joined table is added to those found so far, and its condition is passed. -/
theorem referencesLoop_of_join {middle : Cursor} (settled : before.Settled)
    (isJoined : joined.IsWritten grammar middle.current.kind)
    (passed : before.Passes joined.tokens middle)
    (conditioned : skipJoinCondition middle = .ok () after) :
    repeatTurns (referencesTurn grammar) found before =
      repeatTurns (referencesTurn grammar) (found ++ joined.reference?.toList) after :=
  repeatTurns_of_again (consumes_referencesTurn grammar) (referencesTurn_of_join settled
    isJoined.areModifiers isJoined.isWord isJoined.isFactor passed conditioned)

/-- At an unqualified dialect word the tables end, and the rest of the condition is skipped. -/
theorem referencesLoop_of_not_qualified {middle : Cursor} {word : Token} {condition : List Token}
    {endsInDot : Bool} (settled : before.Settled)
    (isJoined : joined.IsWritten grammar middle.current.kind)
    (toCondition : before.Passes joined.tokens middle) (isWord : word.kind = .reserved .ON)
    (isCondition : Run endsAnyCondition false condition endsInDot)
    (toNext : middle.Passes (word :: condition) after) (unqualified : ¬Qualified condition) :
    ∃ behind rest, repeatTurns (referencesTurn grammar) found before =
        .ok (found ++ joined.reference?.toList) behind ∧
      behind.Passes rest after ∧ Skipped rest := by
  have settledMiddle := toCondition.settled settled
  obtain ⟨front, back, atWord, toWord, toNext, -, onClause, isBack, conditioned⟩ :=
    exists_skipJoinCondition_of_not_qualified settledMiddle isWord isCondition toNext unqualified
  have notJoin : atWord.current.kind ∉ .symbol .comma :: (joinModifiers ++ joinKeywords) := by
    have others : ∀ kind ∈ dialectClauses,
        kind ∉ Kind.symbol .comma :: (joinModifiers ++ joinKeywords) := by decide
    exact others _ onClause
  refine ⟨atWord, back, ?_, toNext, skipped_of_endsAnyCondition isBack⟩
  rw [referencesLoop_of_join settled isJoined toCondition conditioned]
  exact referencesLoop_of_not_mem (toWord.settled settledMiddle) notJoin

/-- The tables of a chain are found up to the first condition with an unqualified dialect word, and the
rest is skipped. -/
theorem referencesLoop_of_links (settled : before.Settled)
    (isJoined : joined.IsWritten grammar (kindAhead (Link.allTokens links ++ tail) final.current.kind))
    (areLinks : Links grammar (kindAhead tail final.current.kind) links)
    (isTail : QueryTail grammar final.current.kind tail references)
    (passed : before.Passes (joined.tokens ++ (Link.allTokens links ++ tail)) final) :
    ∃ behind rest, repeatTurns (referencesTurn grammar) found before =
        .ok (found ++ (joined.reference?.toList ++ Link.tables links references)) behind ∧
      behind.Passes rest final ∧ Skipped rest := by
  generalize next : kindAhead tail final.current.kind = kind at areLinks
  induction areLinks generalizing before found joined with
  | nil => exact referencesLoop_of_tail settled isJoined isTail passed
  | @cons link rest endsInDot isWord isCondition isNext later inductionHypothesis =>
    subst next
    have whole : Link.allTokens (link :: rest) ++ tail =
        (link.word :: link.condition) ++ (link.joined.tokens ++ (Link.allTokens rest ++ tail)) := by
      simp [Link.allTokens, Link.tokens]
    rw [whole] at isJoined passed
    rw [← kindAhead_append] at isNext
    obtain ⟨behindJoined, toJoined, onward⟩ := passed.split
    obtain ⟨atNext, toNext, toRest⟩ := onward.split
    have settledJoined := toJoined.settled settled
    rw [← onward.kindAhead] at isJoined
    by_cases qualified : Qualified link.condition
    · have onJoin : atNext.current.kind ∈ joinModifiers ++ joinKeywords := by
        rw [toRest.kindAhead]
        exact isNext.kindAhead_mem _ _
      have stopped : endsAnyCondition endsInDot atNext.current.kind = true := by
        simpa [endsAnyCondition] using Or.inr (List.mem_append.mp onJoin)
      have conditioned :=
        (skipJoinCondition_iff settledJoined isWord isCondition toNext (.inr stopped)).mpr qualified
      obtain ⟨behind, skipped, read, toFinal, areSkipped⟩ :=
        inductionHypothesis (toNext.settled settledJoined) isNext toRest
      refine ⟨behind, skipped, ?_, toFinal, areSkipped⟩
      rw [referencesLoop_of_join settled isJoined toJoined conditioned, read,
        Link.tables_cons_of_qualified qualified, List.append_assoc]
    · obtain ⟨behind, skipped, read, toNext, areSkipped⟩ := referencesLoop_of_not_qualified settled
        isJoined toJoined isWord isCondition toNext qualified
      refine ⟨behind, _, ?_, toNext.trans toRest, ?_⟩
      · rw [read, Link.tables_cons_of_not_qualified qualified, List.append_nil]
      · exact areSkipped.append (isNext.skipped.append (later.skipped.append isTail.skipped))

/-- The tables of a chain are those of its first table and those of the joins behind it. -/
theorem tableReferences_of_links {first : List Token} {first? : Option TableReference}
    (settled : before.Settled)
    (isFirst : Factor grammar (kindAhead joined.tokens .endOfText) first first?)
    (isJoined : joined.IsWritten grammar (kindAhead (Link.allTokens links ++ tail) final.current.kind))
    (areLinks : Links grammar (kindAhead tail final.current.kind) links)
    (isTail : QueryTail grammar final.current.kind tail references)
    (passed : before.Passes (first ++ (joined.tokens ++ (Link.allTokens links ++ tail))) final) :
    ∃ behind rest, tableReferences grammar before = .ok (first?.toList ++
        (joined.reference?.toList ++ Link.tables links references)) behind ∧
      behind.Passes rest final ∧ Skipped rest := by
  obtain ⟨behindFirst, toFirst, onward⟩ := passed.split
  have same : kindAhead joined.tokens .endOfText = behindFirst.current.kind := by
    rw [onward.kindAhead, kindAhead_append, JoinedTable.tokens]
    cases joined.modifiers <;> rfl
  rw [same] at isFirst
  have read := tableFactor_of_passes settled isFirst toFirst
  obtain ⟨behind, rest, readMore, toFinal, skipped⟩ :=
    referencesLoop_of_links (toFirst.settled settled) isJoined areLinks isTail onward
  refine ⟨behind, rest, ?_, toFinal, skipped⟩
  rw [tableReferences_eq]
  exact bind_ok_iff.mpr ⟨first?, behindFirst, read, readMore⟩

/-- Behind its opening a query is read to the tables behind its `FROM`. -/
theorem queryBody_of_references {list rest : List Token} {word : Token} {listEndsInDot : Bool}
    {atTables behind : Cursor} (settled : before.Settled)
    (isList : Run endsSelectList false list listEndsInDot) (isFrom : word.kind = .reserved .FROM)
    (toTables : before.Passes (list ++ [word]) atTables)
    (read : tableReferences grammar atTables = .ok references behind)
    (toFinal : behind.Passes rest final) (skipped : Skipped rest)
    (terminates : final.current.kind = .endOfText ∨ final.current.kind = .symbol .semicolon) :
    queryBody grammar before = .ok ⟨references, []⟩ final := by
  obtain ⟨_, settledBehind, -⟩ := avoids_tableReferences grammar _ _ _ (toTables.settled settled) read
  obtain ⟨_, areClauses⟩ := skipped
  rw [queryBody_of_list settled isList isFrom toTables, bind_of_ok read]
  exact queryClauses_of_run settledBehind areClauses toFinal terminates references

end Reading

/-- A join condition is passed up to the token that ends it just if each of its dialect words stands
directly behind a dot. So a query that joins any number of tables is parsed to the tables up to the first
condition with another dialect word, in every dialect and with whatever clauses behind the tables. -/
theorem joined_up_to_unqualified (rule : ShardingRule) {dialect : Dialect} {text : String}
    {before : Cursor} {list first tail later : List Token} {word terminator : Token}
    {joined : JoinedTable} {links : List Link} {first? : Option TableReference}
    {references : List TableReference} {listEndsInDot : Bool}
    (opens : Family.select.OpensAt dialect text before)
    (clean : (Tape.ofText dialect text).isClean = true)
    (isList : Run endsSelectList false list listEndsInDot) (isFrom : word.kind = .reserved .FROM)
    (isFirst : Factor dialect.grammar (kindAhead joined.tokens .endOfText) first first?)
    (isJoined : joined.IsWritten dialect.grammar (kindAhead (Link.allTokens links ++ tail) terminator.kind))
    (areLinks : Links dialect.grammar (kindAhead tail terminator.kind) links)
    (isTail : QueryTail dialect.grammar terminator.kind tail references)
    (terminates : terminator.kind = .endOfText ∨ terminator.kind = .symbol .semicolon)
    (tokens : before.tokens = list ++ (word :: (first ++ (joined.tokens ++
      (Link.allTokens links ++ (tail ++ terminator :: later)))))) :
    parse dialect rule text = .ok (.ofReferences .select
      (first?.toList ++ (joined.reference?.toList ++ Link.tables links references))) ∧
    ∀ link ∈ links, ∀ atCondition atNext : Cursor, atCondition.Settled →
      atCondition.Passes (link.word :: link.condition) atNext →
      atNext.current.kind ∈ joinModifiers ++ joinKeywords →
      (skipJoinCondition atCondition = .ok () atNext ↔ Qualified link.condition) := by
  have settled := settled_of_opensAt opens
  constructor
  · have whole : before.tokens = (list ++ [word] ++ (first ++ (joined.tokens ++
        (Link.allTokens links ++ tail)))) ++ terminator :: later := by
      rw [tokens]
      simp only [List.append_assoc, List.cons_append, List.nil_append]
    obtain ⟨final, passed, rfl, -⟩ := Cursor.exists_passes whole
    obtain ⟨atTables, toTables, toFinal⟩ := passed.split
    obtain ⟨behind, rest, read, toEnd, skipped⟩ := tableReferences_of_links
      (toTables.settled settled) isFirst isJoined areLinks isTail toFinal
    have body : queryBody dialect.grammar before = .ok ⟨_, []⟩ final :=
      queryBody_of_references settled isList isFrom toTables read toEnd skipped terminates
    have ending : final.ahead.ending = .finished :=
      passed.ending.trans (finished_of_opensAt (.inl rfl) opens clean)
    exact parse_of_body (outline_select _) opens body (passed.settled settled) ending terminates
  · intro link isLink atCondition atNext settled passed onJoin
    obtain ⟨isWord, endsInDot, isCondition⟩ := areLinks.of_mem isLink
    refine skipJoinCondition_iff settled isWord isCondition passed (.inr ?_)
    simpa [endsAnyCondition] using Or.inr (List.mem_append.mp onJoin)

/-- A qualified word in the first condition, and the same word on its own in the second one, behind which
a further table is joined. -/
theorem joined_up_to_unqualified_limit :
    let text := "SELECT a FROM t JOIN u ON u.limit JOIN v ON limit JOIN w"
    (Tape.ofText .mySQL text).isClean = true ∧
      Qualified [⟨.literal .identifier, "u", 26, 27⟩, ⟨.symbol .dot, ".", 27, 28⟩,
        ⟨.mySQL .LIMIT, "limit", 28, 33⟩] ∧
      ¬Qualified [⟨.mySQL .LIMIT, "limit", 44, 49⟩] ∧
      parse .mySQL .empty text = .ok (.ofReferences .select
        [⟨⟨14, "t"⟩, none⟩, ⟨⟨21, "u"⟩, none⟩, ⟨⟨39, "v"⟩, none⟩]) := by
  intro text
  let table (start : Nat) (name : String) : JoinedTable :=
    ⟨[], ⟨.reserved .JOIN, "JOIN", start, start + 4⟩,
      [⟨.literal .identifier, name, start + 5, start + 6⟩], some ⟨⟨start + 5, name⟩, none⟩⟩
  let links : List Link := [
    ⟨⟨.reserved .ON, "ON", 23, 25⟩, [⟨.literal .identifier, "u", 26, 27⟩, ⟨.symbol .dot, ".", 27, 28⟩,
      ⟨.mySQL .LIMIT, "limit", 28, 33⟩], table 34 "v"⟩,
    ⟨⟨.reserved .ON, "ON", 41, 43⟩, [⟨.mySQL .LIMIT, "limit", 44, 49⟩], table 50 "w"⟩]
  let before : Cursor := ⟨.mySQL, text, ⟨.literal .identifier, "a", 7, 8⟩,
    ⟨⟨.reserved .FROM, "FROM", 9, 13⟩ :: ⟨.literal .identifier, "t", 14, 15⟩ ::
      ((table 16 "u").tokens ++ (Link.allTokens links ++ [.endAt 56])), .finished⟩⟩
  let start : Cursor := { before with
    current := ⟨.reserved .SELECT, "SELECT", 0, 6⟩, ahead := ⟨before.tokens, .finished⟩ }
  have tape : Tape.ofText .mySQL text = ⟨start.tokens, .finished⟩ := by decide +kernel
  have clean : (Tape.ofText .mySQL text).isClean = true := by rw [tape]; rfl
  have begins : start.Begins .mySQL text := ⟨rfl, rfl, by rw [tape], by rw [tape]⟩
  have opened : Family.select.opening .mySQL start = .ok () before := rfl
  have list : Run endsSelectList false [⟨.literal .identifier, "a", 7, 8⟩] false :=
    .token (by decide) (by decide) (by decide) .nil
  have factor {next : Kind} {start stop : Nat} {name : String}
      (onward : next ∈ [.reserved .JOIN, .reserved .ON, .endOfText]) :
      Factor .mySQL next [⟨.literal .identifier, name, start, stop⟩] (some ⟨⟨start, name⟩, none⟩) := by
    simp only [List.mem_cons, List.not_mem_nil, or_false] at onward
    rcases onward with rfl | rfl | rfl <;>
      exact .table (.mk rfl .nil) (by simp [dualNames]) (by decide)
        (.none (by decide) (by decide)) (.none (by decide))
  have written {next : Kind} {start : Nat} {name : String}
      (onward : next ∈ [.reserved .JOIN, .reserved .ON, .endOfText]) :
      (table start name).IsWritten .mySQL next :=
    ⟨List.forall_mem_nil _, List.mem_cons_self, factor onward⟩
  have first : Factor .mySQL (kindAhead (table 16 "u").tokens .endOfText)
      [⟨.literal .identifier, "t", 14, 15⟩] (some ⟨⟨14, "t"⟩, none⟩) := factor (by decide)
  have joined : (table 16 "u").IsWritten .mySQL
      (kindAhead (Link.allTokens links ++ []) (Token.endAt 56).kind) := written (by decide)
  have areLinks : Links .mySQL (kindAhead [] (Token.endAt 56).kind) links :=
    .cons rfl (run_of_forall rfl (by decide) (by decide)) (written (by decide))
      (.cons rfl (run_of_forall rfl (by decide) (by decide)) (written (by decide)) .nil)
  have tail : QueryTail .mySQL (Token.endAt 56).kind [] [] :=
    .mk (.none (by decide) (by decide)) (.nil (by decide)) .nil
  refine ⟨clean, by decide, by decide, ?_⟩
  exact (joined_up_to_unqualified .empty ⟨start, begins, opened⟩ clean list rfl first joined areLinks
    tail (.inl rfl) rfl).1

/-- A dialect word that is a column directly behind `ON` ends the condition and the tables with it: the
table of the second join is lost. -/
theorem exists_joined_table_lost :
    let text := "SELECT * FROM t_order o JOIN t_item i ON offset = i.id JOIN t_user u"
    ((Tape.ofText .mySQL text).tokens.drop 8).map (·.kind) = [.reserved .ON, .mySQL .OFFSET,
        .symbol .equals, .literal .identifier, .symbol .dot, .literal .identifier, .reserved .JOIN,
        .literal .identifier, .literal .identifier, .endOfText] ∧
      parse .mySQL .empty text = .ok (.ofReferences .select
        [⟨⟨14, "t_order"⟩, some "o"⟩, ⟨⟨29, "t_item"⟩, some "i"⟩]) :=
  ⟨by decide +kernel, parse_of_toOption (by decide +kernel)⟩

end SqlSharding
