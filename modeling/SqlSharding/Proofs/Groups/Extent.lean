import SqlSharding.Proofs.Lexing.Parentheses
import SqlSharding.Proofs.Progress.Rounds

/-!
# How far a group extends

A group that is skipped ends with the first token behind which as many parentheses have closed as opened.
Its text is what stands between its first and its last character. Nothing else in a text counts as a
parenthesis: neither what stands in a string or in a quoted identifier nor what stands in a comment.
-/

namespace SqlSharding

/-- The number of parentheses that open. -/
def openings (tokens : List Token) : Nat :=
  tokens.countP (·.kind = .symbol .leftParen)

/-- The number of parentheses that close. -/
def closings (tokens : List Token) : Nat :=
  tokens.countP (·.kind = .symbol .rightParen)

/-- What opens in a text in two parts opens in its parts. -/
theorem openings_append (front behind : List Token) :
    openings (front ++ behind) = openings front + openings behind :=
  List.countP_append

/-- What closes in a text in two parts closes in its parts. -/
theorem closings_append (front behind : List Token) :
    closings (front ++ behind) = closings front + closings behind :=
  List.countP_append

/-- As many parentheses close in the group as open, and in no shorter front of it. -/
structure FirstBalance (group : List Token) : Prop where
  notEmpty : group ≠ []
  balances : openings group = closings group
  shortest : ∀ front behind, group = front ++ behind → front ≠ [] → behind ≠ [] →
    openings front ≠ closings front

/-- What a token that has been read has to do with parentheses, it has by its characters. -/
theorem Token.IsRead.parentheses {rules : LexicalRules} {text : List Char} {token : Token}
    (isRead : token.IsRead rules text) : token.kind.Parentheses rules token.text.toList := by
  obtain ⟨before, after, stands, reads⟩ := isRead
  exact stands.rules ▸ reads.parentheses stands.keywords

variable {token : Token} {group front behind taken : List Token} {depth : Nat}

/-- A token changes the depth by what it counts, unless it closes a group that is not open. -/
theorem depthAfter_eq (isCounted : 0 < depth ∨ token.kind ≠ .symbol .rightParen) :
    Reading.depthAfter depth token.kind + closings [token] = depth + openings [token] := by
  simp only [closings, openings, List.countP_singleton, decide_eq_true_eq]
  unfold Reading.depthAfter
  split
  · simp_all
  · rename_i isClosing
    have isOpen := isCounted.resolve_right (not_not_intro isClosing)
    simp only [isClosing, if_pos, Kind.symbol.injEq, reduceCtorEq, if_neg, not_false_eq_true]
    omega
  · rename_i notOpening notClosing
    rw [if_neg notClosing, if_neg notOpening]

/-- With a token in front, what is balanced is what is balanced behind it, from the depth after it. -/
theorem balances_cons_iff (isCounted : 0 < depth ∨ token.kind ≠ .symbol .rightParen) (more : List Token) :
    depth + openings (token :: more) = closings (token :: more) ↔
      Reading.depthAfter depth token.kind + openings more = closings more := by
  have step := depthAfter_eq isCounted
  rw [← List.singleton_append, openings_append, closings_append]
  omega

/-- Of tokens without an end, those that close so many groups are the front in which as many parentheses
close as open, with the groups that are open before. -/
theorem closesFrom_iff (isOpen : 0 < depth) (noEnd : ∀ token ∈ group, token.kind ≠ .endOfText) :
    ClosesFrom depth group ↔ depth + openings group = closings group ∧
      ∀ front behind, group = front ++ behind → behind ≠ [] → depth + openings front ≠ closings front := by
  induction group generalizing depth with
  | nil =>
    refine iff_of_false id ?_
    rintro ⟨balances, -⟩
    exact absurd balances (by simp [openings, closings]; omega)
  | cons token rest inductionHypothesis =>
    rw [List.forall_mem_cons] at noEnd
    have counts := @balances_cons_iff token depth (.inl isOpen)
    rw [ClosesFrom, and_iff_right noEnd.1, counts]
    split
    · rename_i closed
      constructor
      · rintro rfl
        refine ⟨by rw [closed]; rfl, fun front behind whole notEmpty => ?_⟩
        obtain ⟨rfl, -⟩ := (List.singleton_eq_append_iff.mp whole).resolve_right fun both => notEmpty both.2
        simpa [openings, closings] using Nat.ne_of_gt isOpen
      · rintro ⟨-, shortest⟩
        by_contra notEmpty
        exact shortest [token] rest rfl notEmpty ((counts []).mpr (by rw [closed]; rfl))
    · rename_i opened
      rw [inductionHypothesis (Nat.pos_of_ne_zero opened) noEnd.2]
      refine and_congr_right fun _ => ⟨fun shortest front behind whole notEmpty => ?_,
        fun shortest front behind whole notEmpty => ?_⟩
      · cases front with
        | nil => simpa [openings, closings] using Nat.ne_of_gt isOpen
        | cons first front =>
          obtain ⟨rfl, others⟩ := List.cons.inj whole
          rw [Ne, counts]
          exact shortest front behind others notEmpty
      · rw [Ne, ← counts]
        exact shortest (token :: front) behind (by rw [whole, List.cons_append]) notEmpty

/-- Of tokens without an end that begin with a parenthesis that opens, the first balance is the group of
this parenthesis. -/
theorem closesFrom_zero_iff (opens : token.kind = .symbol .leftParen)
    (noEnd : ∀ token ∈ group, token.kind ≠ .endOfText) :
    ClosesFrom 0 (token :: group) ↔ FirstBalance (token :: group) := by
  have counts (more : List Token) : openings (token :: more) = closings (token :: more) ↔
      1 + openings more = closings more := by
    have counted := @balances_cons_iff token 0 (.inr (by simp [opens])) more
    rwa [opens, Reading.depthAfter, Nat.zero_add] at counted
  rw [ClosesFrom, opens, Reading.depthAfter, if_neg (Nat.succ_ne_zero 0), and_iff_right (by simp),
    closesFrom_iff Nat.one_pos noEnd]
  constructor
  · rintro ⟨balances, shortest⟩
    refine ⟨List.cons_ne_nil _ _, (counts group).mpr balances, fun front behind whole notNil notEmpty => ?_⟩
    obtain ⟨first, front, rfl⟩ := List.exists_cons_of_ne_nil notNil
    obtain ⟨rfl, others⟩ := List.cons.inj whole
    rw [Ne, counts]
    exact shortest front behind others notEmpty
  · rintro ⟨-, balances, shortest⟩
    refine ⟨(counts group).mp balances, fun front behind whole notEmpty => ?_⟩
    rw [Ne, ← counts]
    exact shortest (token :: front) behind (by rw [whole, List.cons_append]) (List.cons_ne_nil _ _) notEmpty

namespace Reading

open Cursor

variable {before middle after cursor : Cursor} {progress found : GroupProgress} {count : Nat}
  {cause : ParseError}

/-- The tokens that are passed from a parenthesis on are a group just if they are a first balance. -/
theorem closesFrom_zero_iff_of_passes (settled : before.Settled)
    (opens : before.current.kind = .symbol .leftParen) (passes : before.Passes taken after) :
    ClosesFrom 0 taken ↔ FirstBalance taken := by
  have noEnd := passes.ne_end settled
  cases taken with
  | nil => exact iff_of_false id fun balance => balance.notEmpty rfl
  | cons token taken =>
    rw [passes.current_eq] at opens
    exact closesFrom_zero_iff opens (List.forall_mem_cons.mp noEnd).2

/-- While a group is passed, the depth is the number of parentheses that are open, and a parenthesis that
closes finds one of them. -/
theorem exists_passes_of_rounds (settled : before.Settled)
    (isCounted : 0 < progress.depth ∨ before.current.kind ≠ .symbol .rightParen)
    (rounds : Rounds groupTurn progress before count found middle) :
    ∃ taken, before.Passes taken middle ∧
      found.depth + closings taken = progress.depth + openings taken ∧
      (0 < found.depth ∨ middle.current.kind ≠ .symbol .rightParen) := by
  induction rounds with
  | none => exact ⟨[], .refl _, rfl, isCounted⟩
  | again taken _ inductionHypothesis =>
    obtain ⟨-, passes, decision⟩ := (groupTurn_ok_iff settled _).mp taken
    have step := depthAfter_eq isCounted
    split at decision
    · cases decision
    · rename_i opened
      obtain rfl := Turn.again.inj decision
      obtain ⟨more, toMiddle, depth, further⟩ :=
        inductionHypothesis (passes.settled settled) (.inl (Nat.pos_of_ne_zero opened))
      refine ⟨_, passes.trans toMiddle, ?_, further⟩
      rw [openings_append, closings_append]
      dsimp only at depth
      omega

/-- The place behind a group that has been passed is that of its last token. -/
theorem stop_of_groupLoop (settled : before.Settled)
    (passed : repeatTurns groupTurn progress before = .ok found after) :
    ∃ front last, before.Passes (front ++ [last]) after ∧ found.stop = last.stop := by
  replace passed := turns_of_repeatTurns consumes_groupTurn passed
  induction passed with
  | last done =>
    obtain ⟨-, passes, decision⟩ := (groupTurn_ok_iff settled _).mp done
    split at decision
    · obtain rfl := Turn.done.inj decision
      exact ⟨[], _, passes, rfl⟩
    · cases decision
  | again taken _ inductionHypothesis =>
    obtain ⟨-, passes, -⟩ := (groupTurn_ok_iff settled _).mp taken
    obtain ⟨front, last, toAfter, atStop⟩ := inductionHypothesis (passes.settled settled)
    exact ⟨_ :: front, last, passes.trans toAfter, atStop⟩

/-- Where a group opens, it is passed token by token, and its text is what has been passed. -/
theorem skipGroup_eq (opens : cursor.current.kind = .symbol .leftParen) :
    skipGroup cursor = (repeatTurns groupTurn ⟨0, cursor.current.start⟩ >>= fun progress => do
      return (← get).slice cursor.current.start progress.stop) cursor := by
  rw [skipGroup, isOn_bind, if_pos (by simp [isOn_iff, opens]), current_bind]

/-- Where no group opens, nothing is passed. -/
theorem skipGroup_of_ne (notOpen : cursor.current.kind ≠ .symbol .leftParen) :
    skipGroup cursor = .ok "" cursor := by
  rw [skipGroup, isOn_bind, if_neg (by simp [isOn_iff, notOpen])]
  rfl

/-- Skipping a group that is a first balance passes it and gives its text. -/
theorem skipGroup_of_firstBalance {last : Token} (settled : cursor.Settled)
    (opens : cursor.current.kind = .symbol .leftParen) (passes : cursor.Passes (group ++ [last]) after)
    (balance : FirstBalance (group ++ [last])) :
    skipGroup cursor = .ok (cursor.slice cursor.current.start last.stop) after := by
  obtain ⟨progress, passed⟩ := (groupLoop_ok_iff settled).mpr
    ⟨_, passes, (closesFrom_zero_iff_of_passes settled opens passes).mpr balance⟩
  obtain ⟨front, final, toAfter, atStop⟩ := stop_of_groupLoop settled passed
  obtain ⟨-, same⟩ := List.append_inj' (toAfter.taken_unique passes) rfl
  obtain rfl : final = last := (List.cons.inj same).1
  rw [skipGroup_eq opens, bind_of_ok passed, ← atStop]
  simp only [Cursor.slice, ← passes.text]
  rfl

/-- A group cannot be skipped where its tokens cannot be passed. -/
theorem skipGroup_of_failed (opens : cursor.current.kind = .symbol .leftParen)
    (failed : repeatTurns groupTurn ⟨0, cursor.current.start⟩ cursor = .error cause after) :
    skipGroup cursor = .error cause after := by
  rw [skipGroup_eq opens, bind_error_iff]
  exact .inl failed

/-- Tokens that are passed are a front of those that lead to the end. -/
theorem exists_append_of_end {stop : Cursor} (settled : cursor.Settled) (passes : cursor.Passes taken after)
    (toEnd : cursor.Passes front stop) (atEnd : stop.current.kind = .endOfText) :
    ∃ behind, front = taken ++ behind := by
  have whole : taken ++ after.tokens = front ++ stop.tokens := passes.tokens.symm.trans toEnd.tokens
  rcases List.append_eq_append_iff.mp whole with ⟨behind, within, -⟩ | ⟨more, beyond, same⟩
  · exact ⟨behind, within⟩
  · cases more with
    | nil => exact ⟨[], by rw [beyond, List.append_nil, List.append_nil]⟩
    | cons token more =>
      have isEnd : token = stop.current := (List.cons.inj same).1.symm
      exact absurd (isEnd ▸ atEnd) (passes.ne_end settled token (by simp [beyond]))

/-- Skipping passes a first balance, or fails on the end, or fails for a fault behind what it has passed. -/
theorem skipGroup_cases (settled : cursor.Settled) (opens : cursor.current.kind = .symbol .leftParen) :
    (∃ group after, cursor.Passes group after ∧ FirstBalance group) ∨
      (∃ taken after, cursor.Passes taken after ∧ after.current.kind = .endOfText ∧
        skipGroup cursor = .error (.unexpectedToken after.current) after) ∨
      ∃ taken middle fault after, cursor.Passes taken middle ∧ middle.ahead.ending ≠ .finished ∧
        skipGroup cursor = .error (.illegalInput fault) after := by
  obtain ⟨count, found, middle, rounds, concludes⟩ :=
    exists_rounds consumes_groupTurn ⟨0, cursor.current.start⟩ cursor
  obtain ⟨taken, toMiddle, -⟩ := exists_passes_of_rounds settled (.inr (by simp [opens])) rounds
  generalize outcome : repeatTurns groupTurn ⟨0, cursor.current.start⟩ cursor = result at concludes
  cases concludes with
  | done =>
    obtain ⟨group, passes, closes⟩ := (groupLoop_ok_iff settled).mp ⟨_, outcome⟩
    exact .inl ⟨group, _, passes, (closesFrom_zero_iff_of_passes settled opens passes).mp closes⟩
  | failed last =>
    rcases groupTurn_error_cases last with ⟨atEnd, rfl, rfl⟩ | failed
    · exact .inr (.inl ⟨taken, _, toMiddle, atEnd, skipGroup_of_failed opens outcome⟩)
    · obtain ⟨fault, rfl, faulty⟩ := exists_fault_of_advance failed
      refine .inr (.inr ⟨taken, middle, fault, _, toMiddle, ?_, skipGroup_of_failed opens outcome⟩)
      rcases faulty with ⟨blocked, -⟩ | ⟨_, unclosed, -⟩
      · simp [blocked]
      · simp [unclosed]

/-- Where the end comes before a first balance, skipping fails on it. -/
theorem skipGroup_of_end (settled : cursor.Settled) (opens : cursor.current.kind = .symbol .leftParen)
    (toEnd : cursor.Passes front after) (atEnd : after.current.kind = .endOfText)
    (noBalance : ∀ group behind, front = group ++ behind → ¬FirstBalance group) :
    skipGroup cursor = .error (.unexpectedToken after.current) after := by
  rcases skipGroup_cases settled opens with
    ⟨group, _, passes, balance⟩ | ⟨taken, final, toFinal, isEnd, failed⟩ | ⟨_, _, _, _, passes, faulty, -⟩
  · obtain ⟨behind, within⟩ := exists_append_of_end settled passes toEnd atEnd
    exact absurd balance (noBalance group behind within)
  · obtain ⟨behind, within⟩ := exists_append_of_end settled toFinal toEnd atEnd
    obtain ⟨further, beyond⟩ := exists_append_of_end settled toEnd toFinal isEnd
    obtain ⟨rfl, -⟩ : behind = [] ∧ further = [] := by
      rw [beyond, List.append_assoc, List.self_eq_append_right, List.append_eq_nil_iff] at within
      exact within.symm
    rw [List.append_nil] at within
    obtain rfl := toEnd.unique (within ▸ toFinal)
    exact failed
  · have nothing := (toEnd.settled settled).ahead_of_end atEnd
    rw [passes.ending, ← toEnd.ending, nothing] at faulty
    exact absurd rfl faulty

/-- Where neither a first balance with a token behind it nor the end is to come, skipping fails for a
fault in the text. -/
theorem skipGroup_of_fault (settled : cursor.Settled) (opens : cursor.current.kind = .symbol .leftParen)
    (noEnd : ∀ token ∈ cursor.tokens, token.kind ≠ .endOfText)
    (noBalance : ∀ group next later, cursor.tokens = group ++ next :: later → ¬FirstBalance group) :
    ∃ fault after, skipGroup cursor = .error (.illegalInput fault) after := by
  rcases skipGroup_cases settled opens with
    ⟨group, after, passes, balance⟩ | ⟨_, after, passes, isEnd, -⟩ | ⟨_, _, fault, after, -, -, failed⟩
  · exact absurd balance (noBalance _ _ _ passes.tokens)
  · refine absurd isEnd (noEnd _ ?_)
    rw [passes.tokens]
    exact List.mem_append_right _ List.mem_cons_self
  · exact ⟨fault, after, failed⟩

/-- How a group is skipped under a cursor in a text with these lexical rules. -/
structure SkipsGroup (rules : LexicalRules) (text : List Char) (cursor : Cursor) : Prop where
  /-- Where no group opens, nothing is skipped. -/
  elsewhere : cursor.current.kind ≠ .symbol .leftParen → skipGroup cursor = .ok "" cursor
  /-- A first balance with a token behind it is passed up to this token, and its text is given, which is
  made up of its tokens and of blanks and comments between them. -/
  closed : cursor.current.kind = .symbol .leftParen → ∀ group last next later,
    cursor.tokens = group ++ last :: next :: later → FirstBalance (group ++ [last]) →
      let written := text.extract cursor.current.start last.stop
      ∃ (after : Cursor) (pieces : List (List Char × Token)),
        skipGroup cursor = .ok (String.ofList written) after ∧
          cursor.Passes (group ++ [last]) after ∧ after.current = next ∧
          pieces.map Prod.snd = group ++ [last] ∧ (∀ piece ∈ pieces, Filler rules piece.1) ∧
          pieces.flatMap Lexer.pieceWritten = written
  /-- Where the end comes first, it is unexpected. -/
  unclosed : cursor.current.kind = .symbol .leftParen → ∀ front last,
    cursor.tokens = front ++ [last] → last.kind = .endOfText →
      (∀ group behind, front = group ++ behind → ¬FirstBalance group) →
        ∃ after, skipGroup cursor = .error (.unexpectedToken last) after ∧ cursor.Passes front after ∧
          after.current = last
  /-- Where a fault comes first, skipping fails for a fault. -/
  broken : cursor.current.kind = .symbol .leftParen →
    (∀ token ∈ cursor.tokens, token.kind ≠ .endOfText) →
      (∀ group next later, cursor.tokens = group ++ next :: later → ¬FirstBalance group) →
        ∃ fault after, skipGroup cursor = .error (.illegalInput fault) after
  /-- After any number of tokens the depth is the number of parentheses that are open. Where one closes it
  is not zero, and no token ends before the place where the group begins. -/
  depth : cursor.current.kind = .symbol .leftParen → ∀ count progress middle,
    Rounds groupTurn ⟨0, cursor.current.start⟩ cursor count progress middle →
      (∃ taken, cursor.Passes taken middle ∧ progress.depth + closings taken = openings taken) ∧
        (middle.current.kind = .symbol .rightParen → 0 < progress.depth) ∧
        cursor.current.start ≤ middle.current.stop
  /-- A token counts as a parenthesis just if it is written as one, outside of quotes. -/
  counted : ∀ token ∈ cursor.tokens, token.kind ≠ .endOfText →
    token.kind.Parentheses rules token.text.toList

/-- Wherever the cursor is in a text, skipping a group passes just what the parentheses of the group
enclose. -/
theorem skipGroup_extent (dialect : Dialect) (text : String) (moves : Nat) :
    SkipsGroup (.ofGrammar dialect.grammar) text.toList (movedInto dialect text moves) := by
  have inStep := inStep_movedInto dialect text moves
  have inText := (isInText_movedInto dialect text moves).here
  have sameText := text_movedInto dialect text moves
  generalize movedInto dialect text moves = cursor at *
  have notEnd (opens : cursor.current.kind = .symbol .leftParen) : cursor.current.kind ≠ .endOfText := by
    simp [opens]
  refine ⟨skipGroup_of_ne, fun opens group last next later tokens balance => ?_,
    fun opens front last tokens isEnd noBalance => ?_, fun opens => ?_,
    fun opens count progress middle rounds => ?_, fun token isIn notEnd => ?_⟩
  · have settled := inText.resolve_left (notEnd opens)
    obtain ⟨pieces, areTokens, fillers, whole⟩ := inStep.exists_pieces (notEnd opens) tokens
    have behind : cursor.tokens = (group ++ [last]) ++ next :: later := by
      rw [tokens, List.append_assoc]
      rfl
    obtain ⟨after, passes, atNext, -⟩ := exists_passes behind
    refine ⟨after, pieces, ?_, passes, atNext, areTokens, fillers, whole⟩
    rw [skipGroup_of_firstBalance settled opens passes balance, Cursor.slice, sameText,
      List.extract_eq_take_drop]
  · have settled := inText.resolve_left (notEnd opens)
    obtain ⟨after, passes, rfl, -⟩ := exists_passes tokens
    exact ⟨after, skipGroup_of_end settled opens passes isEnd noBalance, passes, rfl⟩
  · exact skipGroup_of_fault (inText.resolve_left (notEnd opens)) opens
  · have settled := inText.resolve_left (notEnd opens)
    obtain ⟨taken, passes, depth, isCounted⟩ :=
      exists_passes_of_rounds settled (.inr (by simp [opens])) rounds
    refine ⟨⟨taken, passes, depth.trans (Nat.zero_add _)⟩, fun closes => isCounted.resolve_right (not_not_intro closes), ?_⟩
    refine inStep.start_le_of_mem (notEnd opens) ?_
    rw [passes.tokens]
    exact List.mem_append_right _ List.mem_cons_self
  · exact ((inStep.isRead_of_mem isIn).resolve_left notEnd).parentheses

example : skipGroup.run' (movedInto .mySQL "f(')', `)` /* ) */ (1)) g" 2) =
    some "(')', `)` /* ) */ (1))" := by
  decide +kernel

end Reading

end SqlSharding
