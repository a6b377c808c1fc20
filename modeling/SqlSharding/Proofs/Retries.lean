import Mathlib.Logic.Function.Iterate
import SqlSharding.Proofs.Blame

/-!
# After a fault

What comes after a fault depends on its sort. Before a character that begins no token the lexer stays,
so that every later call and every parser that is run again fails. A quote that is not closed is passed
to the end of the text, so that every later call answers the end, and a parser that is run again finds a
statement that ends behind the token under its cursor.
-/

namespace SqlSharding

namespace Lexer

variable {rules : LexicalRules} {text : List Char} {lexer after : Lexer} {fault : IllegalInput}

/-- A call that answers a fault moves the lexer over blanks and comments only, or to the end. -/
theorem skipGap_of_fault (answer : lexer.next = (.error fault, after)) :
    after = lexer.skipGap ∨ after.rest = [] := by
  simp only [next] at answer
  split at answer
  · cases answer
  · split at answer
    · cases answer
    · cases answer
      exact .inr rfl
    · cases answer
      exact .inl rfl

/-- Calls behind the same blanks and comments answer the same. -/
theorem next_of_skipGap {other : Lexer} (same : other.skipGap = lexer.skipGap) :
    other.next = lexer.next := by
  simp only [next, same]

/-- A lexer that stands before no gap skips nothing. -/
theorem StandsIn.skipGap_eq (stands : lexer.StandsIn rules text)
    (notBegins : ¬BeginsGap rules (text.drop lexer.offset)) : lexer.skipGap = lexer := by
  have skips : Gap.betweenTokens.skip lexer.rules lexer.offset lexer.rest =
      (lexer.offset, lexer.rest) := by
    rw [stands.rules, stands.rest]
    exact Gap.skip_of_not_beginsGap notBegins
  simp only [skipGap, skips]

/-- The call behind a fault answers the end where a quote is not closed, and the fault again where a
character begins no token. Either way the lexer stays where it is. -/
theorem StandsIn.next_of_fault (stands : lexer.StandsIn rules text)
    (answer : lexer.next = (.error fault, after)) :
    (OpenQuote rules (text.drop fault.position) ∧ after.next = (.ok (.endAt text.length), after)) ∨
      (¬OpenQuote rules (text.drop fault.position) ∧ after.next = (.error fault, after)) := by
  obtain ⟨standsAfter, covers⟩ := stands.next
  rw [answer] at standsAfter covers
  by_cases isOpen : OpenQuote rules (text.drop fault.position)
  · have atEnd : after.offset = text.length := (covers.unclosed isOpen).2
    have nothing : after.rest = [] := by rw [standsAfter.rest, atEnd, List.drop_length]
    have skips : Gap.betweenTokens.skip after.rules after.offset after.rest = (text.length, []) := by
      rw [nothing, atEnd, Gap.skip]
    have stays : after.moveTo text.length [] = after := by
      rw [← atEnd, ← nothing]
      rfl
    exact .inl ⟨isOpen, by rw [next_of_skips_nil after skips, stays]⟩
  · have atFault : after.offset = fault.position := (covers.illegal isOpen).2
    have notEnd : after.rest ≠ [] := by
      have positionLt := covers.position_lt
      rw [standsAfter.rest, atFault]
      simpa using positionLt
    have behindGap := (skipGap_of_fault answer).resolve_right notEnd
    have stays := standsAfter.skipGap_eq (atFault ▸ covers.ignored.ends)
    exact .inr ⟨isOpen, (next_of_skipGap (stays.trans behindGap)).trans answer⟩

/-- Calls are made in two parts. -/
theorem afterCalls_add (lexer : Lexer) (calls later : Nat) :
    lexer.afterCalls (calls + later) = (lexer.afterCalls calls).afterCalls later := by
  induction calls generalizing lexer with
  | zero => rw [Nat.zero_add, afterCalls]
  | succ calls inductionHypothesis =>
    rw [Nat.succ_add]
    exact inductionHypothesis lexer.next.2

/-- A lexer that a call leaves where it is stays there. -/
theorem afterCalls_of_stays (stays : lexer.next.2 = lexer) (calls : Nat) :
    lexer.afterCalls calls = lexer := by
  induction calls with
  | zero => rfl
  | succ calls inductionHypothesis => rw [afterCalls_succ, inductionHypothesis, stays]

/-- Every call behind a fault answers alike. -/
theorem StandsIn.calls_of_fault (stands : lexer.StandsIn rules text) (calls later : Nat)
    (failed : (lexer.afterCalls calls).next.1 = .error fault) :
    (OpenQuote rules (text.drop fault.position) →
      (lexer.afterCalls (calls + 1 + later)).next.1 = .ok (.endAt text.length)) ∧
    (¬OpenQuote rules (text.drop fault.position) →
      (lexer.afterCalls (calls + 1 + later)).next.1 = .error fault) := by
  cases answered : (lexer.afterCalls calls).next with
  | mk answer after =>
    obtain rfl : answer = .error fault := by rw [← failed, answered]
    simp only [afterCalls_add, afterCalls_succ, answered]
    rcases (stands.afterCalls calls).next_of_fault answered with
      ⟨isOpen, behind⟩ | ⟨notOpen, behind⟩
    all_goals
      have stays : after.next.2 = after := congrArg Prod.snd behind
      rw [afterCalls_of_stays stays, behind]
    · exact ⟨fun _ => rfl, fun notOpen => absurd isOpen notOpen⟩
    · exact ⟨fun isOpen => absurd isOpen notOpen, fun _ => rfl⟩

end Lexer

/-- How an ending tells which sort of fault a text has, and that the text ends behind an open quote. -/
def Ending.Tells (rules : LexicalRules) (text : List Char) : Ending → Prop
  | finished => True
  | blocked fault => ¬OpenQuote rules (text.drop fault.position)
  | unclosed fault last => OpenQuote rules (text.drop fault.position) ∧ last = .endAt text.length

/-- The ending of a tape tells which sort of fault the text has. -/
theorem Lexer.StandsIn.ending_tells {rules : LexicalRules} {text : List Char} {lexer : Lexer}
    (stands : lexer.StandsIn rules text) : (Tape.ofLexer lexer).ending.Tells rules text := by
  obtain ⟨pieces, -, yields, -, -, isDone⟩ := stands.exists_pieces
  have standsLast := stands.afterCalls pieces.length
  generalize lexer.afterCalls pieces.length = last at yields isDone standsLast
  rw [Tape.ofLexer_of_yields stands.keywords yields]
  change (Tape.ofLexer last).ending.Tells rules text
  rcases isDone with ⟨place, answer⟩ | ⟨fault, answer⟩
  · rw [Tape.ofLexer_of_end (Prod.ext answer rfl)]
    trivial
  · have answer : last.next = (.error fault, last.next.2) := Prod.ext answer rfl
    rw [Tape.ofLexer, Tape.record, answer]
    rcases standsLast.next_of_fault answer with ⟨isOpen, behind⟩ | ⟨notOpen, behind⟩
    · simp only [behind]
      exact ⟨isOpen, rfl⟩
    · simp only [behind]
      exact notOpen

namespace Reading

open Cursor

variable {α β : Type} {reading : Reading α} {before after cursor : Cursor} {grammar : Grammar}
  {rule : ShardingRule} {family : Family} {fault : IllegalInput}

/-- The cursor as a reading leaves it, whether it succeeds or fails. -/
def leaves (reading : Reading α) (cursor : Cursor) : Cursor :=
  match reading cursor with
  | .ok _ after => after
  | .error _ after => after

/-- A sequence leaves the cursor where its second part does. -/
theorem leaves_bind {next : α → Reading β} {value : α} (passed : reading before = .ok value after) :
    leaves (reading >>= next) before = leaves (next value) after := by
  rw [leaves, bind_of_ok passed, leaves]

/-- Giving another value leaves the cursor where it was left. -/
theorem leaves_bind_pure (value : β) :
    leaves (reading >>= fun _ => pure value) cursor = leaves reading cursor := by
  simp only [leaves, bind, EStateM.bind]
  cases reading cursor <;> rfl

/-- The reading fails and leaves the cursor where it is. -/
def IsStuck (reading : Reading α) (cursor : Cursor) : Prop :=
  ∃ cause, reading cursor = .error cause cursor

/-- A reading that is stuck stays stuck, however often it is run. -/
theorem IsStuck.not_ok (stuck : IsStuck reading cursor) (runs : Nat) :
    ¬∃ value final, reading ((leaves reading)^[runs] cursor) = .ok value final := by
  obtain ⟨cause, failed⟩ := stuck
  have stays : leaves reading cursor = cursor := by rw [leaves, failed]
  rintro ⟨value, final, read⟩
  rw [Function.iterate_fixed stays, failed] at read
  cases read

/-- A parser demands the first word of its statement before all else. -/
theorem exists_rest_behind_keyword (grammar : Grammar) (rule : ShardingRule) (family : Family) :
    ∃ rest : Parser, family.parser grammar rule = (do
      discard <| accept (.reserved family.keyword)
      rest) := by
  rw [Family.parser_eq, Family.outline_eq_keyword]
  simp only [bind_assoc]
  exact ⟨_, rfl⟩

/-- A parser is stuck on any other token than the first word of its statement. -/
theorem isStuck_of_ne (notOn : cursor.current.kind ≠ .reserved family.keyword) :
    IsStuck (family.parser grammar rule) cursor := by
  obtain ⟨rest, parser_eq⟩ := exists_rest_behind_keyword grammar rule family
  refine ⟨.expectedToken (.reserved family.keyword) cursor.current, ?_⟩
  rw [parser_eq, bind_error_iff, discard_error_iff, accept_error_iff]
  exact .inl (.inr ⟨notOn, rfl, rfl⟩)

/-- A parser is stuck before a fault that is answered again and again. -/
theorem isStuck_of_blocked (blocked : cursor.ahead = ⟨[], .blocked fault⟩) :
    IsStuck (family.parser grammar rule) cursor := by
  by_cases onKeyword : cursor.current.kind = .reserved family.keyword
  · have failed : advance cursor = .error (.illegalInput fault) cursor := by
      simp only [advance, blocked]
    obtain ⟨rest, parser_eq⟩ := exists_rest_behind_keyword grammar rule family
    refine ⟨.illegalInput fault, ?_⟩
    rw [parser_eq, bind_error_iff, discard_error_iff, accept_error_iff]
    exact .inl (.inl ⟨onKeyword, failed⟩)
  · exact isStuck_of_ne onKeyword

/-- Where the text ends behind the first word, a query without a list is read, and a statement of any
other family fails at the end. -/
theorem parser_of_last (grammar : Grammar) (rule : ShardingRule) {place : Nat}
    (onKeyword : cursor.current.kind = .reserved family.keyword)
    (ahead : cursor.ahead = ⟨[.endAt place], .finished⟩) :
    (family = .select → ∃ final, family.parser grammar rule cursor =
      .ok (.ofReferences .select []) final ∧ final.current.kind = .endOfText) ∧
    (family ≠ .select → ∃ cause final, family.parser grammar rule cursor = .error cause final ∧
      final.current.kind = .endOfText) := by
  obtain ⟨dialect, text, ⟨kind, written, start, stop⟩, tape⟩ := cursor
  obtain rfl : kind = .reserved family.keyword := onKeyword
  obtain rfl : tape = ⟨[.endAt place], .finished⟩ := ahead
  cases family with
  | select =>
    refine ⟨fun _ => ⟨⟨dialect, text, .endAt place, ⟨[], .finished⟩⟩, ?_, rfl⟩, nofun⟩
    cases grammar <;> rfl
  | _ =>
    refine ⟨nofun, fun _ => ?_⟩
    cases grammar <;> exact ⟨_, _, rfl, rfl⟩

variable {dialect : Dialect} {text : String} {start : Cursor} {front : List Token}

/-- A parser that has failed for a fault of the text succeeds at most in its next run, namely where a
quote is not closed and the fault stands behind the word that begins a query. -/
theorem retry_ok_iff (begins : start.Begins dialect text) (passed : start.Passes front before)
    (failed : family.parser grammar rule before = .error (.illegalInput fault) after) (runs : Nat) :
    (∃ statement final, family.parser grammar rule
        ((leaves (family.parser grammar rule))^[runs] after) = .ok statement final) ↔
      runs = 0 ∧ OpenQuote (.ofGrammar dialect.grammar) (text.toList.drop fault.position) ∧
        family = .select ∧ after.current.kind = .reserved .SELECT := by
  have tells : before.ahead.ending.Tells (.ofGrammar dialect.grammar) text.toList := by
    rw [passed.ending, begins.ending]
    exact (Lexer.standsIn_ofText _ dialect text).ending_tells
  rcases ahead_of_illegalInput (moves_family grammar rule family) failed with
    ⟨blocked, ahead⟩ | ⟨last, unclosed, ahead⟩
  · rw [blocked] at tells
    exact iff_of_false ((isStuck_of_blocked ahead).not_ok runs) fun ⟨_, isOpen, _⟩ => tells isOpen
  · rw [unclosed] at tells
    obtain ⟨isOpen, rfl⟩ := tells
    by_cases onKeyword : after.current.kind = .reserved family.keyword
    · obtain ⟨ofSelect, ofOther⟩ := parser_of_last grammar rule onKeyword ahead
      cases runs with
      | zero =>
        by_cases isSelect : family = .select
        · obtain ⟨final, read, -⟩ := ofSelect isSelect
          rw [isSelect] at onKeyword
          exact iff_of_true ⟨_, final, read⟩ ⟨rfl, isOpen, isSelect, onKeyword⟩
        · obtain ⟨cause, final, failedAgain, -⟩ := ofOther isSelect
          refine iff_of_false ?_ fun ⟨_, _, isQuery, _⟩ => isSelect isQuery
          rintro ⟨statement, other, read⟩
          exact nomatch failedAgain.symm.trans read
      | succ runs =>
        -- The run before has left the cursor at the end of the text, where no statement begins.
        have atEnd : (leaves (family.parser grammar rule) after).current.kind = .endOfText := by
          by_cases isSelect : family = .select
          · obtain ⟨final, read, atEnd⟩ := ofSelect isSelect
            rwa [leaves, read]
          · obtain ⟨cause, final, failedAgain, atEnd⟩ := ofOther isSelect
            rwa [leaves, failedAgain]
        rw [Function.iterate_succ_apply]
        refine iff_of_false ((isStuck_of_ne ?_).not_ok runs) (fun ⟨isZero, _⟩ => nomatch isZero)
        rw [atEnd]
        nofun
    · refine iff_of_false ((isStuck_of_ne onKeyword).not_ok runs) ?_
      rintro ⟨-, -, rfl, onSelect⟩
      exact onKeyword onSelect

end Reading

/-- A fault that a character raises which begins no token is answered by every later call, and no parser
that has met it succeeds in a later run. A fault that a quote raises which is not closed is answered
once, and then every call answers the end of the text; a parser that has met it fails in every later run
as well, unless it reads queries and the fault stands directly behind the word that begins one: then its
next run, and only that, succeeds. -/
theorem faults_persist_unless_open (dialect : Dialect) (text : String) :
    (∀ (rules : LexicalRules) (calls later : Nat) (fault : IllegalInput),
      let lexer := Lexer.ofText rules (.ofDialect dialect) text
      (lexer.afterCalls calls).next.1 = .error fault →
        (OpenQuote rules (text.toList.drop fault.position) →
          (lexer.afterCalls (calls + 1 + later)).next.1 = .ok (.endAt text.toList.length)) ∧
        (¬OpenQuote rules (text.toList.drop fault.position) →
          (lexer.afterCalls (calls + 1 + later)).next.1 = .error fault)) ∧
    ∀ (grammar : Grammar) (rule : ShardingRule) (family : Family) (start before after : Cursor)
      (front : List Token) (fault : IllegalInput),
      let parser := family.parser grammar rule
      start.Begins dialect text → start.Passes front before →
        parser before = .error (.illegalInput fault) after →
          ∀ runs, (∃ statement final,
            parser ((Reading.leaves parser)^[runs] after) = .ok statement final) ↔
            runs = 0 ∧ OpenQuote (.ofGrammar dialect.grammar) (text.toList.drop fault.position) ∧
              family = .select ∧ after.current.kind = .reserved .SELECT := by
  constructor
  · intro rules calls later fault lexer failed
    exact (Lexer.standsIn_ofText rules dialect text).calls_of_fault calls later failed
  · intro grammar rule family start before after front fault parser begins passed failed runs
    exact Reading.retry_ok_iff begins passed failed runs

/-- A character that begins no token, behind a list: it is answered again and again, and no run of the
parser succeeds. -/
theorem faults_persist_unless_open_character :
    let text := "SELECT 1 ~"
    let fault : IllegalInput := ⟨9, "~"⟩
    let lexer := Lexer.ofDialect .mySQL text
    let parser := Family.select.parser .mySQL .empty
    ∃ start after : Cursor, start.Begins .mySQL text ∧
      parser start = .error (.illegalInput fault) after ∧
      (lexer.afterCalls 2).next.1 = .error fault ∧
      (∀ later, (lexer.afterCalls (3 + later)).next.1 = .error fault) ∧
      ∀ runs, ¬∃ statement final,
        parser ((Reading.leaves parser)^[runs] after) = .ok statement final := by
  intro text fault lexer parser
  let after : Cursor :=
    ⟨.mySQL, text, ⟨.literal .int, "1", 7, 8⟩, ⟨[], .blocked fault⟩⟩
  let start : Cursor := { after with
    current := ⟨.reserved .SELECT, "SELECT", 0, 6⟩
    ahead := ⟨[after.current], .blocked fault⟩ }
  have begins : start.Begins .mySQL text := ⟨rfl, rfl, by decide +kernel, by decide +kernel⟩
  have failed : parser start = .error (.illegalInput fault) after := rfl
  have answered : (lexer.afterCalls 2).next.1 = .error fault := by decide +kernel
  have notOpen : ¬OpenQuote (.ofGrammar .mySQL) (text.toList.drop fault.position) := by
    have atFault : text.toList.drop fault.position = ['~'] := by decide +kernel
    rw [atFault]
    generalize same : ['~'] = characters
    rintro (value | ⟨quotes, -⟩)
    · simp at same
    · cases quotes <;> simp at same
  have persist := faults_persist_unless_open .mySQL text
  refine ⟨start, after, begins, failed, answered, fun later => ?_, fun runs read => ?_⟩
  · exact (persist.1 _ 2 later fault answered).2 notOpen
  · have retried :=
      (persist.2 .mySQL .empty .select start start after [] fault begins (.refl _) failed runs).mp read
    exact notOpen retried.2.1

/-- A quote that is not closed behind the word that begins a query: the call behind the fault answers
the end, and the next run of the parser reads the query without its list. -/
theorem exists_truncated_query_read :
    let text := "SELECT 'abc"
    let fault : IllegalInput := ⟨7, "'abc"⟩
    let lexer := Lexer.ofDialect .mySQL text
    let parser := Family.select.parser .mySQL .empty
    ∃ start after final : Cursor, start.Begins .mySQL text ∧
      parser start = .error (.illegalInput fault) after ∧
      parser after = .ok (.ofReferences .select []) final ∧
      (lexer.afterCalls 1).next.1 = .error fault ∧
      (lexer.afterCalls 2).next.1 = .ok (.endAt 11) := by
  intro text fault lexer parser
  let start : Cursor := ⟨.mySQL, text, ⟨.reserved .SELECT, "SELECT", 0, 6⟩,
    ⟨[], .unclosed fault (.endAt 11)⟩⟩
  let after : Cursor := { start with ahead := ⟨[.endAt 11], .finished⟩ }
  let final : Cursor := { start with current := .endAt 11, ahead := ⟨[], .finished⟩ }
  have begins : start.Begins .mySQL text := ⟨rfl, rfl, by decide +kernel, by decide +kernel⟩
  exact ⟨start, after, final, begins, rfl, rfl, by decide +kernel, by decide +kernel⟩

end SqlSharding
