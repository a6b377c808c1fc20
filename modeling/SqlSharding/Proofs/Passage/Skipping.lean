import SqlSharding.Proofs.Passage

/-!
# What is skipped

The shapes of the tokens that are skipped: groups between parentheses, and runs of items up to an
item that stops the skipping. The shapes know nothing of cursors and depths; the theorems say that
each skipping reading gets past its shape and stops just behind it.
-/

namespace SqlSharding

/-- Tokens in which every parenthesis has its counterpart. -/
inductive Balanced : List Token → Prop
  | nil : Balanced []
  | token {token : Token} {rest : List Token} (notEnd : token.kind ≠ .endOfText)
      (notOpen : token.kind ≠ .symbol .leftParen) (notClose : token.kind ≠ .symbol .rightParen)
      (later : Balanced rest) : Balanced (token :: rest)
  | group {opening closing : Token} {inner rest : List Token}
      (opens : opening.kind = .symbol .leftParen) (inside : Balanced inner)
      (closes : closing.kind = .symbol .rightParen) (later : Balanced rest) :
      Balanced (opening :: (inner ++ closing :: rest))

/-- With so many parentheses open before them, the tokens end with the one that closes the last. -/
def ClosesFrom : (depth : Nat) → List Token → Prop
  | _, [] => False
  | depth, token :: rest =>
    token.kind ≠ .endOfText ∧
      if Reading.depthAfter depth token.kind = 0 then rest = []
      else ClosesFrom (Reading.depthAfter depth token.kind) rest

/-- A group between parentheses. -/
inductive Group : List Token → Prop
  | mk {opening closing : Token} {inner : List Token} (opens : opening.kind = .symbol .leftParen)
      (inside : Balanced inner) (closes : closing.kind = .symbol .rightParen) :
      Group (opening :: (inner ++ [closing]))

/-- Items none of which stops the skipping: groups, and tokens outside of groups. The flags tell
whether a dot stands just before the items and whether a dot is the last of them. -/
inductive Run (stops : (afterDot : Bool) → Kind → Bool) : Bool → List Token → Bool → Prop
  | nil {afterDot : Bool} : Run stops afterDot [] afterDot
  | token {afterDot endsInDot : Bool} {token : Token} {rest : List Token}
      (notEnd : token.kind ≠ .endOfText) (notOpen : token.kind ≠ .symbol .leftParen)
      (goesOn : stops afterDot token.kind = false)
      (later : Run stops (token.kind = .symbol .dot) rest endsInDot) :
      Run stops afterDot (token :: rest) endsInDot
  | group {afterDot endsInDot : Bool} {group rest : List Token} (isGroup : Group group)
      (goesOn : stops afterDot (.symbol .leftParen) = false)
      (later : Run stops false rest endsInDot) : Run stops afterDot (group ++ rest) endsInDot

/-- Tokens none of which stops the skipping are a run, and if the last of them is no dot, the run ends in
no dot. -/
theorem run_of_forall {stops : (afterDot : Bool) → Kind → Bool} {tokens : List Token} {last : Token}
    {afterDot : Bool} (isLast : tokens.getLast? = some last) (notDot : last.kind ≠ .symbol .dot)
    (goesOn : ∀ token ∈ tokens, token.kind ≠ .endOfText ∧ token.kind ≠ .symbol .leftParen ∧
      ∀ afterDot, stops afterDot token.kind = false) : Run stops afterDot tokens false := by
  induction tokens generalizing afterDot with
  | nil => cases isLast
  | cons token tokens inductionHypothesis =>
    rw [List.forall_mem_cons] at goesOn
    obtain ⟨⟨notEnd, notOpen, onward⟩, goesOn⟩ := goesOn
    refine .token notEnd notOpen (onward afterDot) ?_
    cases tokens with
    | nil =>
      obtain rfl : token = last := Option.some.inj isLast
      rw [decide_eq_false notDot]
      exact .nil
    | cons other tokens =>
      rw [List.getLast?_cons_cons] at isLast
      exact inductionHypothesis isLast goesOn

/-- Tokens without parentheses are balanced. -/
theorem balanced_of_forall {tokens : List Token} (plain : ∀ token ∈ tokens,
    token.kind ∉ [.endOfText, .symbol .leftParen, .symbol .rightParen]) : Balanced tokens := by
  induction tokens with
  | nil => exact .nil
  | cons token tokens inductionHypothesis =>
    rw [List.forall_mem_cons] at plain
    obtain ⟨notMark, plain⟩ := plain
    simp only [List.mem_cons, List.not_mem_nil, or_false, not_or] at notMark
    exact .token notMark.1 notMark.2.1 notMark.2.2 (inductionHypothesis plain)

/-- Balanced tokens change nothing inside of a parenthesis. -/
theorem Balanced.closesFrom_append {inner : List Token} (balanced : Balanced inner)
    (depth : Nat) (rest : List Token) :
    ClosesFrom (depth + 1) (inner ++ rest) ↔ ClosesFrom (depth + 1) rest := by
  induction balanced generalizing depth rest with
  | nil => rfl
  | @token token later notEnd notOpen notClose _ inductionHypothesis =>
    have same : Reading.depthAfter (depth + 1) token.kind = depth + 1 := by
      unfold Reading.depthAfter
      split
      · exact absurd ‹_› notOpen
      · exact absurd ‹_› notClose
      · rfl
    rw [List.cons_append, ClosesFrom, same, if_neg (Nat.succ_ne_zero depth), inductionHypothesis]
    exact and_iff_right notEnd
  | @group opening closing inner later opens _ closes _ insideHypothesis laterHypothesis =>
    rw [List.cons_append, List.append_assoc, List.cons_append, ClosesFrom, opens,
      Reading.depthAfter, if_neg (Nat.succ_ne_zero _), insideHypothesis, ClosesFrom, closes,
      Reading.depthAfter, Nat.add_sub_cancel, if_neg (Nat.succ_ne_zero depth), laterHypothesis]
    simp

/-- A group closes with its last token, and not before. -/
theorem Group.closesFrom {group : List Token} (isGroup : Group group) : ClosesFrom 0 group := by
  obtain @⟨opening, closing, inner, opens, inside, closes⟩ := isGroup
  rw [ClosesFrom, opens, Reading.depthAfter, if_neg (Nat.succ_ne_zero 0), inside.closesFrom_append,
    ClosesFrom, closes, Reading.depthAfter, Nat.add_sub_cancel, if_pos rfl]
  simp

/-- The end of the text is not among balanced tokens. -/
theorem Balanced.ne_end {tokens : List Token} (balanced : Balanced tokens) :
    ∀ token ∈ tokens, token.kind ≠ .endOfText := by
  induction balanced with
  | nil => exact nofun
  | token notEnd _ _ _ inductionHypothesis =>
    exact List.forall_mem_cons.mpr ⟨notEnd, inductionHypothesis⟩
  | group opens _ closes _ insideHypothesis laterHypothesis =>
    rw [List.forall_mem_cons, List.forall_mem_append, List.forall_mem_cons, opens, closes]
    exact ⟨nofun, insideHypothesis, nofun, laterHypothesis⟩

/-- The end of the text is not in a group. -/
theorem Group.ne_end {group : List Token} (isGroup : Group group) :
    ∀ token ∈ group, token.kind ≠ .endOfText := by
  obtain ⟨opens, inside, closes⟩ := isGroup
  exact (Balanced.group opens inside closes .nil).ne_end

/-- What is left of a run without its leading words is a run: the words are single tokens, and what is
left stands behind no dot. -/
theorem Run.dropWhile {stops : (afterDot : Bool) → Kind → Bool} {tokens : List Token}
    {endsInDot : Bool} {kinds : List Kind} (isRun : Run stops false tokens endsInDot)
    (noDot : .symbol .dot ∉ kinds) (noOpen : .symbol .leftParen ∉ kinds) :
    Run stops false (tokens.dropWhile fun token => kinds.contains token.kind) endsInDot := by
  generalize start : false = afterDot at isRun
  induction isRun with
  | nil => exact start ▸ .nil
  | @token afterDot endsInDot token rest notEnd notOpen goesOn later inductionHypothesis =>
    rw [List.dropWhile_cons]
    split
    · rename_i isLeading
      have notDot : token.kind ≠ .symbol .dot := fun isDot =>
        noDot (by simpa [isDot] using isLeading)
      have shorter := inductionHypothesis (by simp [notDot])
      rwa [decide_eq_false notDot, start] at shorter
    · exact start ▸ .token notEnd notOpen (start ▸ goesOn) later
  | @group afterDot endsInDot group rest isGroup goesOn later inductionHypothesis =>
    have kept : (group ++ rest).dropWhile (fun token => kinds.contains token.kind) =
        group ++ rest := by
      obtain ⟨opens, -, -⟩ := isGroup
      rw [List.cons_append, List.dropWhile_cons_of_neg (by simpa [opens] using noOpen)]
    rw [kept]
    exact start ▸ .group isGroup (start ▸ goesOn) later

/-- The kind of the first of the tokens, or of the token behind them. -/
def kindAhead : (tokens : List Token) → (next : Kind) → Kind
  | [], next => next
  | token :: _, _ => token.kind

/-- A group has an opening parenthesis ahead. -/
theorem Group.kindAhead_eq {group rest : List Token} {next : Kind} (isGroup : Group group) :
    kindAhead (group ++ rest) next = .symbol .leftParen := by
  obtain ⟨opens, -, -⟩ := isGroup
  exact opens

namespace Cursor

variable {before after : Cursor} {taken first second : List Token}

/-- The cursor is on the first of the tokens it passes, or where it stops if there is none. -/
theorem Passes.kindAhead (passed : before.Passes taken after) :
    before.current.kind = kindAhead taken after.current.kind := by
  cases taken with
  | nil => rw [passes_nil_iff.mp passed]; rfl
  | cons token taken => rw [passed.current_eq]; rfl

end Cursor

namespace Reading

open Cursor

variable {α : Type} {before after : Cursor} {kinds : List Kind}

/-- A loop whose turn goes on is the loop from there. -/
theorem repeatTurns_of_again {turn : α → Reading (Turn α)} (consumes : Consumes turn)
    {value next : α} (taken : turn value before = .ok (.again next) after) :
    repeatTurns turn value before = repeatTurns turn next after := by
  rw [repeatTurns_eq consumes, bind_of_ok taken]

/-- A loop whose turn is done is done. -/
theorem repeatTurns_of_done {turn : α → Reading (Turn α)} (consumes : Consumes turn)
    {value result : α} (taken : turn value before = .ok (.done result) after) :
    repeatTurns turn value before = .ok result after :=
  (repeatTurns_ok_iff consumes).mpr (.inl taken)

/-- Skipping tokens of the kinds takes all of them. -/
theorem skipAll_of_passes {taken : List Token} (settled : before.Settled) (noEnd : .endOfText ∉ kinds)
    (passed : before.Passes taken after) (allOn : ∀ token ∈ taken, token.kind ∈ kinds)
    (stopped : after.current.kind ∉ kinds) : skipAll kinds before = .ok () after := by
  have consumes : Consumes (turnAfter kinds fun _ : Unit => pure ()) :=
    consumes_turnAfter noEnd fun _ => .pure ()
  rw [skipAll_eq]
  induction taken generalizing before with
  | nil =>
    rw [passes_nil_iff] at passed
    subst passed
    refine repeatTurns_of_done consumes (turnAfter_done_iff.mpr ⟨?_, rfl⟩)
    exact (skipIf_false_iff settled noEnd).mpr ⟨stopped, rfl⟩
  | cons token taken inductionHypothesis =>
    obtain ⟨middle, first, rest⟩ := passed.uncons
    obtain rfl := first.current_eq
    have skipped := (skipIf_true_iff settled noEnd).mpr ⟨allOn _ List.mem_cons_self, first⟩
    rw [repeatTurns_of_again consumes (turnAfter_again_iff.mpr ⟨middle, skipped, rfl⟩)]
    refine inductionHypothesis (first.settled settled) rest fun token isTaken => ?_
    exact allOn token (List.mem_cons_of_mem _ isTaken)

/-- What is skipped are all tokens of the kinds that stand there. -/
theorem exists_passes_of_skipAll (settled : before.Settled) (noEnd : .endOfText ∉ kinds)
    (skipped : skipAll kinds before = .ok () after) :
    ∃ taken, before.Passes taken after ∧ (∀ token ∈ taken, token.kind ∈ kinds) ∧
      after.current.kind ∉ kinds := by
  rw [skipAll_eq] at skipped
  obtain ⟨_, turns⟩ : ∃ start, Turns (turnAfter kinds fun _ => pure ()) () after start before :=
    ⟨_, turns_of_repeatTurns (consumes_turnAfter noEnd fun _ => .pure ()) skipped⟩
  clear skipped
  induction turns with
  | last done =>
    obtain ⟨stopped, rfl⟩ := (skipIf_false_iff settled noEnd).mp (turnAfter_done_iff.mp done).1
    exact ⟨[], .refl _, by simp, stopped⟩
  | again taken _ inductionHypothesis =>
    obtain ⟨middle, skipped, rest⟩ := turnAfter_again_iff.mp taken
    obtain ⟨-, rfl⟩ := pure_ok_iff.mp rest
    obtain ⟨onKind, first⟩ := (skipIf_true_iff settled noEnd).mp skipped
    obtain ⟨taken, toAfter, areKinds, stopped⟩ := inductionHypothesis (first.settled settled)
    exact ⟨_, first.trans toAfter, by simpa using ⟨onKind, areKinds⟩, stopped⟩

/-- A token of a group is passed unless it is the end, and the group is done where no parenthesis stays
open. -/
theorem groupTurn_ok_iff (settled : before.Settled) (progress : GroupProgress)
    {decision : Turn GroupProgress} :
    groupTurn progress before = .ok decision after ↔
      before.current.kind ≠ .endOfText ∧ before.Passes [before.current] after ∧
        decision =
          if depthAfter progress.depth before.current.kind = 0 then
            .done ⟨depthAfter progress.depth before.current.kind, before.current.stop⟩
          else .again ⟨depthAfter progress.depth before.current.kind, before.current.stop⟩ := by
  rw [groupTurn, current_bind]
  split
  · rename_i atEnd
    exact iff_of_false (fun passed => by cases passed) fun inGroup => inGroup.1 atEnd
  · rename_i notEnd
    rw [bind_ok_iff]
    simp only [advance_ok_iff_of_ne settled notEnd]
    constructor
    · rintro ⟨_, middle, passed, rest⟩
      split at rest <;> obtain ⟨rfl, rfl⟩ := pure_ok_iff.mp rest <;>
        simp_all
    · rintro ⟨-, passed, rfl⟩
      refine ⟨(), after, passed, ?_⟩
      split <;> exact pure_ok_iff.mpr ⟨rfl, rfl⟩

/-- The tokens of a group are passed up to the one that closes it. -/
theorem groupLoop_ok_iff (settled : before.Settled) {depth stop : Nat} :
    (∃ progress, repeatTurns groupTurn ⟨depth, stop⟩ before = .ok progress after) ↔
      ∃ taken, before.Passes taken after ∧ ClosesFrom depth taken := by
  constructor
  · rintro ⟨progress, passed⟩
    generalize from_eq : (⟨depth, stop⟩ : GroupProgress) = start at passed
    replace passed := turns_of_repeatTurns consumes_groupTurn passed
    induction passed generalizing depth stop with
    | last done =>
      obtain ⟨notEnd, passes, decision⟩ := (groupTurn_ok_iff settled _).mp done
      subst from_eq
      split at decision
      · rename_i closed
        exact ⟨_, passes, notEnd, by rw [if_pos closed]⟩
      · cases decision
    | again taken _ inductionHypothesis =>
      obtain ⟨notEnd, passes, decision⟩ := (groupTurn_ok_iff settled _).mp taken
      subst from_eq
      split at decision
      · cases decision
      · rename_i opened
        obtain ⟨later, toAfter, closes⟩ :=
          inductionHypothesis (passes.settled settled) (Turn.again.inj decision).symm
        exact ⟨_, passes.trans toAfter, notEnd, by rwa [if_neg opened]⟩
  · rintro ⟨taken, passed, closes⟩
    induction taken generalizing before depth stop with
    | nil => exact closes.elim
    | cons token taken inductionHypothesis =>
      obtain ⟨middle, first, more⟩ := passed.uncons
      obtain rfl := first.current_eq
      obtain ⟨notEnd, closes⟩ := closes
      have turn := (groupTurn_ok_iff settled ⟨depth, stop⟩).mpr ⟨notEnd, first, rfl⟩
      split at closes
      · rename_i closed
        subst closes
        obtain rfl := passes_nil_iff.mp more
        rw [if_pos closed] at turn
        exact ⟨_, repeatTurns_of_done consumes_groupTurn turn⟩
      · rename_i opened
        rw [if_neg opened] at turn
        rw [repeatTurns_of_again consumes_groupTurn turn]
        exact inductionHypothesis (first.settled settled) more closes

/-- Skipping a group passes the group, or nothing where none opens. -/
theorem skipGroup_ok_iff (settled : before.Settled) :
    (discard skipGroup) before = .ok PUnit.unit after ↔
      if before.current.kind = .symbol .leftParen then
        ∃ taken, before.Passes taken after ∧ ClosesFrom 0 taken
      else after = before := by
  rw [discard_ok_iff, skipGroup]
  simp only [isOn_bind, isOn_iff, List.mem_singleton]
  split
  · simp only [current_bind]
    rw [← groupLoop_ok_iff settled]
    constructor
    · rintro ⟨value, passed⟩
      obtain ⟨progress, middle, loop, rest⟩ := bind_ok_iff.mp passed
      obtain rfl : after = middle := by cases rest; rfl
      exact ⟨progress, loop⟩
    · rintro ⟨progress, loop⟩
      exact ⟨_, bind_ok_iff.mpr ⟨progress, after, loop, rfl⟩⟩
  · simp only [pure_ok_iff]
    constructor
    · rintro ⟨_, -, rfl⟩
      rfl
    · rintro rfl
      exact ⟨"", rfl, rfl⟩

/-- A group is skipped whole. -/
theorem skipGroup_of_passes {group : List Token} (settled : before.Settled) (isGroup : Group group)
    (passed : before.Passes group after) : (discard skipGroup) before = .ok PUnit.unit after := by
  have onOpening : before.current.kind = .symbol .leftParen := by
    rw [passed.kindAhead, ← List.append_nil group, isGroup.kindAhead_eq]
  rw [skipGroup_ok_iff settled, if_pos onOpening]
  exact ⟨group, passed, isGroup.closesFrom⟩

/-- A token that opens no group and does not stop the skipping is passed. -/
theorem itemTurn_of_token {stops : (afterDot : Bool) → Kind → Bool} {afterDot : Bool} {token : Token}
    (notEnd : token.kind ≠ .endOfText) (notOpen : token.kind ≠ .symbol .leftParen)
    (goesOn : stops afterDot token.kind = false) (passed : before.Passes [token] after) :
    itemTurn stops afterDot before = .ok (.again (token.kind = .symbol .dot)) after := by
  have moved := advance_of_passes passed
  obtain rfl := passed.current_eq
  have notOn : ¬ before.isOn [.symbol .leftParen] = true := by
    simpa [isOn_iff] using notOpen
  rw [itemTurn, current_bind, if_neg (by simp [notEnd, goesOn]), skipItem]
  simp only [bind_assoc, isOn_bind, if_neg notOn]
  exact bind_ok_iff.mpr ⟨(), after, moved, rfl⟩

/-- A group that does not stop the skipping is passed whole. -/
theorem itemTurn_of_group {stops : (afterDot : Bool) → Kind → Bool} {afterDot : Bool}
    {group : List Token} (settled : before.Settled) (isGroup : Group group)
    (goesOn : stops afterDot (.symbol .leftParen) = false) (passed : before.Passes group after) :
    itemTurn stops afterDot before = .ok (.again false) after := by
  have skipped := skipGroup_of_passes settled isGroup passed
  have onOpening : before.current.kind = .symbol .leftParen := by
    rw [passed.kindAhead, ← List.append_nil group, isGroup.kindAhead_eq]
  have isOn : before.isOn [.symbol .leftParen] = true := by
    simp [isOn_iff, onOpening]
  rw [itemTurn, current_bind, if_neg (by simp [onOpening, goesOn]), skipItem]
  simp only [bind_assoc, isOn_bind, if_pos isOn]
  exact bind_ok_iff.mpr ⟨_, after, skipped, by simp [onOpening, pure, EStateM.pure]⟩

/-- A run of items is skipped, and the skipping goes on behind it. -/
theorem itemsLoop_of_run {stops : (afterDot : Bool) → Kind → Bool} {run : List Token}
    {afterDot endsInDot : Bool} (settled : before.Settled) (isRun : Run stops afterDot run endsInDot)
    (passed : before.Passes run after) :
    repeatTurns (itemTurn stops) afterDot before = repeatTurns (itemTurn stops) endsInDot after := by
  induction isRun generalizing before with
  | nil => rw [passes_nil_iff.mp passed]
  | @token afterDot endsInDot token rest notEnd notOpen goesOn later inductionHypothesis =>
    obtain ⟨middle, first, more⟩ := passed.uncons
    rw [repeatTurns_of_again (consumes_itemTurn stops)
      (itemTurn_of_token notEnd notOpen goesOn first)]
    exact inductionHypothesis (first.settled settled) more
  | group isGroup goesOn later inductionHypothesis =>
    obtain ⟨middle, first, more⟩ := passed.split
    rw [repeatTurns_of_again (consumes_itemTurn stops) (itemTurn_of_group settled isGroup goesOn first)]
    exact inductionHypothesis (first.settled settled) more

/-- A run of items is skipped up to the token that stops the skipping. -/
theorem skipItems_of_run {stops : (afterDot : Bool) → Kind → Bool} {run : List Token}
    {endsInDot : Bool} (settled : before.Settled) (isRun : Run stops false run endsInDot)
    (passed : before.Passes run after)
    (stopped : after.current.kind = .endOfText ∨ stops endsInDot after.current.kind = true) :
    skipItems stops before = .ok () after := by
  rw [skipItems_eq]
  refine discard_ok_iff.mpr ⟨endsInDot, ?_⟩
  rw [itemsLoop_of_run settled isRun passed]
  refine repeatTurns_of_done (consumes_itemTurn stops) ?_
  rw [itemTurn, current_bind, if_pos (by simpa using stopped)]
  rfl

/-- Behind items that end in no dot the skipping goes on as it has begun. -/
theorem skipItems_eq_of_run {stops : (afterDot : Bool) → Kind → Bool} {run : List Token}
    (settled : before.Settled) (isRun : Run stops false run false) (passed : before.Passes run after) :
    skipItems stops before = skipItems stops after := by
  rw [skipItems_eq, discard_eq]
  exact bind_congr_of_eq (itemsLoop_of_run settled isRun passed) _

/-- Where a token to stop at is under the cursor, nothing is skipped. -/
theorem skipUntil_of_stop (stopped : before.current.kind = .endOfText ∨ before.current.kind ∈ kinds) :
    skipUntil kinds before = .ok () before := by
  rw [skipUntil_eq]
  refine repeatTurns_of_done (consumes_untilTurn kinds) ?_
  rw [untilTurn_eq, if_pos (by simpa only [isAtEnd_iff, isOn_iff] using stopped)]

/-- Any other token is skipped. -/
theorem skipUntil_of_passes
    (goesOn : ¬(before.current.kind = .endOfText ∨ before.current.kind ∈ kinds))
    (passed : before.Passes [before.current] after) : skipUntil kinds before = skipUntil kinds after := by
  have turn : untilTurn kinds () before = .ok (.again ()) after := by
    rw [untilTurn_eq, if_neg (by simpa only [isAtEnd_iff, isOn_iff] using goesOn)]
    exact bind_ok_iff.mpr ⟨(), after, advance_of_passes passed, rfl⟩
  rw [skipUntil_eq, repeatTurns_of_again (consumes_untilTurn kinds) turn]

/-- What is skipped are tokens up to one to stop at. -/
theorem exists_passes_of_skipUntil (settled : before.Settled)
    (skipped : skipUntil kinds before = .ok () after) : ∃ taken, before.Passes taken after := by
  rw [skipUntil_eq] at skipped
  obtain ⟨_, turns⟩ : ∃ start, Turns (untilTurn kinds) () after start before :=
    ⟨_, turns_of_repeatTurns (consumes_untilTurn kinds) skipped⟩
  clear skipped
  induction turns with
  | last done =>
    rw [untilTurn_eq] at done
    split at done
    · cases done
      exact ⟨[], .refl _⟩
    · obtain ⟨_, _, -, ends⟩ := bind_ok_iff.mp done
      cases ends
  | again taken _ inductionHypothesis =>
    rw [untilTurn_eq] at taken
    split at taken
    · cases taken
    · rename_i goesOn
      obtain ⟨_, _, moved, ends⟩ := bind_ok_iff.mp taken
      obtain ⟨-, rfl⟩ := pure_ok_iff.mp ends
      simp only [isAtEnd_iff, not_or] at goesOn
      have passes := (advance_ok_iff_of_ne settled goesOn.1).mp moved
      obtain ⟨later, toAfter⟩ := inductionHypothesis (passes.settled settled)
      exact ⟨_, passes.trans toAfter⟩

end Reading

end SqlSharding
