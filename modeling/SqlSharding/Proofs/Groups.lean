import SqlSharding.Proofs.Retrace

/-!
# Groups are opaque

Nothing inside a group between parentheses is looked at by a query or by an update. Two texts whose
tokens outside of groups are the same are parsed to the same statement, whatever the groups hold. The
proof runs the readings on both texts at once: whenever one succeeds, the other one succeeds alike and
the cursors are again before the same tokens outside of groups.
-/

namespace SqlSharding

open Reading (depthAfter)

/-- Whether the tokens close all of so many open groups. The end of the text closes none. -/
def closesAll : (depth : Nat) → List Token → Bool
  | _, [] => false
  | depth, token :: rest =>
    token.kind ≠ .endOfText &&
      (depthAfter depth token.kind = 0 || closesAll (depthAfter depth token.kind) rest)

/-- The kinds and texts of the tokens, of which so many groups are open, without what stands inside of
groups: of a group only the outermost parentheses are left. A parenthesis that nothing closes opens no
group. -/
def outside : (depth : Nat) → List Token → List (Kind × String)
  | _, [] => []
  | 0, token :: rest =>
    let opens := token.kind = .symbol .leftParen ∧ closesAll 1 rest = true
    (token.kind, token.text) :: outside (if opens then 1 else 0) rest
  | depth + 1, token :: rest =>
    if depthAfter (depth + 1) token.kind = 0 then (token.kind, token.text) :: outside 0 rest
    else outside (depthAfter (depth + 1) token.kind) rest

variable {token : Token} {tokens group rest : List Token} {depth : Nat}

/-- Tokens close groups just when they begin with a piece that ends where the last group does. -/
theorem closesAll_iff : closesAll depth tokens = true ↔
    ∃ group rest, tokens = group ++ rest ∧ ClosesFrom depth group := by
  induction tokens generalizing depth with
  | nil =>
    refine iff_of_false (by simp [closesAll]) ?_
    rintro ⟨group, rest, whole, closes⟩
    obtain ⟨rfl, -⟩ := List.append_eq_nil_iff.mp whole.symm
    exact closes
  | cons token tokens inductionHypothesis =>
    simp only [closesAll, Bool.and_eq_true, Bool.or_eq_true, decide_eq_true_eq, inductionHypothesis]
    constructor
    · rintro ⟨notEnd, closed | ⟨group, rest, rfl, closes⟩⟩
      · exact ⟨[token], tokens, rfl, notEnd, by rw [if_pos closed]⟩
      · by_cases closed : depthAfter depth token.kind = 0
        · exact ⟨[token], group ++ rest, rfl, notEnd, by rw [if_pos closed]⟩
        · exact ⟨token :: group, rest, rfl, notEnd, by rwa [if_neg closed]⟩
    · rintro ⟨group, rest, whole, closes⟩
      cases group with
      | nil => exact closes.elim
      | cons first group =>
        obtain ⟨rfl, rfl⟩ := List.cons.inj whole
        obtain ⟨notEnd, closes⟩ := closes
        refine ⟨notEnd, ?_⟩
        split at closes
        · exact .inl ‹_›
        · exact .inr ⟨group, rest, rfl, closes⟩

/-- A token that opens no group stands outside, and so does what follows it. -/
theorem outside_cons_of_ne (notOpen : token.kind ≠ .symbol .leftParen) (rest : List Token) :
    outside 0 (token :: rest) = (token.kind, token.text) :: outside 0 rest := by
  rw [outside, if_neg fun opens => notOpen opens.1]

/-- The first token is never left out. -/
theorem head?_outside (tokens : List Token) :
    (outside 0 tokens).head? = tokens.head?.map fun token => (token.kind, token.text) := by
  cases tokens with
  | nil => rfl
  | cons token rest => rw [outside]; rfl

/-- Of the rest of a group only the parenthesis that closes it is left. -/
theorem outside_of_closesFrom (closes : ClosesFrom (depth + 1) group) (rest : List Token) :
    ∃ text, outside (depth + 1) (group ++ rest) = (.symbol .rightParen, text) :: outside 0 rest := by
  induction group generalizing depth with
  | nil => exact closes.elim
  | cons token group inductionHypothesis =>
    obtain ⟨notEnd, closes⟩ := closes
    rw [List.cons_append, outside]
    split at closes
    · rename_i closed
      subst closes
      have isClosing : token.kind = .symbol .rightParen := by
        unfold depthAfter at closed
        split at closed
        · cases closed
        · assumption
        · cases closed
      rw [if_pos closed, isClosing]
      exact ⟨token.text, rfl⟩
    · rename_i opened
      obtain ⟨open_, isOpen⟩ := Nat.exists_eq_succ_of_ne_zero opened
      rw [if_neg opened, isOpen]
      rw [isOpen] at closes
      exact inductionHypothesis closes

/-- Of a group its parentheses are left. -/
theorem outside_of_group (opens : token.kind = .symbol .leftParen) (closes : ClosesFrom 1 group)
    (rest : List Token) :
    ∃ text, outside 0 (token :: (group ++ rest)) =
      (token.kind, token.text) :: (.symbol .rightParen, text) :: outside 0 rest := by
  obtain ⟨text, inner⟩ := @outside_of_closesFrom group 0 closes rest
  have closed : closesAll 1 (group ++ rest) = true := closesAll_iff.mpr ⟨group, rest, rfl, closes⟩
  refine ⟨text, ?_⟩
  rw [outside, if_pos ⟨opens, closed⟩, inner]

/-- A parenthesis that opens no group is left as any other token. -/
theorem outside_cons_of_open (opened : closesAll 1 rest = false) :
    outside 0 (token :: rest) = (token.kind, token.text) :: outside 0 rest := by
  rw [outside, if_neg fun opens => by simp [opened] at opens]

/-- A parenthesis closes the group that stands open before it. -/
theorem closesAll_of_head?_outside {text : String}
    (closing : (outside 0 tokens).head? = some (.symbol .rightParen, text)) :
    closesAll 1 tokens = true := by
  cases tokens with
  | nil => cases closing
  | cons token rest =>
    rw [head?_outside, List.head?_cons, Option.map_some, Option.some.injEq, Prod.mk.injEq] at closing
    simp [closesAll, closing.1, depthAfter]

/-- Where a parenthesis that closes a group is left behind one that opens a group, they are those of
one group. -/
theorem exists_group_of_outside {text : String} {later : List (Kind × String)}
    (opens : token.kind = .symbol .leftParen)
    (left : outside 0 (token :: tokens) =
      (token.kind, token.text) :: (.symbol .rightParen, text) :: later) :
    ∃ group rest, tokens = group ++ rest ∧ ClosesFrom 1 group ∧ outside 0 rest = later := by
  -- Behind a parenthesis that opens no group, the next one to be left would be a token of its own,
  -- and a parenthesis that closes cannot follow one that stays open.
  have closed : closesAll 1 tokens = true := by
    by_contra opened
    rw [outside_cons_of_open (by simpa using opened)] at left
    exact opened (closesAll_of_head?_outside (by rw [(List.cons.inj left).2]; rfl))
  obtain ⟨group, rest, rfl, closes⟩ := closesAll_iff.mp closed
  obtain ⟨closing, whole⟩ := outside_of_group opens closes rest
  rw [whole] at left
  exact ⟨group, rest, rfl, closes, (List.cons.inj (List.cons.inj left).2).2⟩

namespace Cursor

/-- The cursors are in texts without a fault, before the same tokens outside of groups. -/
structure SameOutside (left right : Cursor) : Prop where
  settledLeft : left.Settled
  settledRight : right.Settled
  cleanLeft : left.ahead.ending = .finished
  cleanRight : right.ahead.ending = .finished
  outside : outside 0 right.tokens = outside 0 left.tokens

variable {left right after after' : Cursor} {taken taken' : List Token}

/-- In a text without a fault there is a token behind each token but the end. -/
theorem Settled.exists_passes_current (settled : left.Settled)
    (clean : left.ahead.ending = .finished) (notEnd : left.current.kind ≠ .endOfText) :
    ∃ after, left.Passes [left.current] after := by
  cases ahead : left.ahead.tokens with
  | nil =>
    obtain ⟨place, isEnd⟩ := settled.last clean
    simp only [Cursor.tokens, ahead, List.getLast?_singleton, Option.some.injEq] at isEnd
    exact absurd (by rw [isEnd]; rfl) notEnd
  | cons token later =>
    have tokens : left.tokens = [left.current] ++ token :: later := by
      rw [Cursor.tokens, ahead]
      rfl
    obtain ⟨after, passed, -⟩ := exists_passes tokens
    exact ⟨after, passed⟩

/-- A token that is passed in a text is not the end. -/
theorem Settled.ne_end_of_passes (settled : left.Settled)
    (passed : left.Passes [left.current] after) : left.current.kind ≠ .endOfText := by
  intro atEnd
  have tokens := passed.tokens
  simp [Cursor.tokens, settled.ahead_of_end atEnd] at tokens

/-- Passing a token that opens no group passes it outside of groups, too. -/
theorem Passes.outside_token (passed : left.Passes [left.current] after)
    (notOpen : left.current.kind ≠ .symbol .leftParen) :
    outside 0 left.tokens = (left.current.kind, left.current.text) :: outside 0 after.tokens := by
  rw [passed.tokens, List.singleton_append, outside_cons_of_ne notOpen]

/-- Passing a group passes two parentheses outside of groups. -/
theorem Passes.outside_group (passed : left.Passes taken after)
    (onOpening : left.current.kind = .symbol .leftParen) (closes : ClosesFrom 0 taken) :
    ∃ text, outside 0 left.tokens =
      (left.current.kind, left.current.text) :: (.symbol .rightParen, text) ::
        outside 0 after.tokens := by
  cases taken with
  | nil => exact closes.elim
  | cons opening inner =>
    obtain rfl := passed.current_eq
    rw [passed.tokens]
    refine outside_of_group onOpening ?_ after.tokens
    simpa [ClosesFrom, onOpening, depthAfter] using closes

namespace SameOutside

/-- Being before the same tokens outside of groups goes both ways. -/
theorem symm (same : left.SameOutside right) : right.SameOutside left :=
  ⟨same.settledRight, same.settledLeft, same.cleanRight, same.cleanLeft, same.outside.symm⟩

/-- The tokens under the cursors are the same but for their places. -/
theorem current (same : left.SameOutside right) :
    right.current.kind = left.current.kind ∧ right.current.text = left.current.text := by
  have heads := congrArg List.head? same.outside
  rw [head?_outside, head?_outside] at heads
  simpa [Cursor.tokens] using heads

/-- Before the same tokens outside of groups, cursors are on the same kinds. -/
theorem isOn (same : left.SameOutside right) (kinds : List Kind) :
    right.isOn kinds = left.isOn kinds := by
  rw [Cursor.isOn, Cursor.isOn, same.current.1]

/-- Behind tokens that are passed the cursors have to be before the same tokens again. -/
theorem passes (same : left.SameOutside right) (passed : left.Passes taken after)
    (passed' : right.Passes taken' after')
    (outside : SqlSharding.outside 0 after'.tokens = SqlSharding.outside 0 after.tokens) :
    after.SameOutside after' where
  settledLeft := passed.settled same.settledLeft
  settledRight := passed'.settled same.settledRight
  cleanLeft := passed.ending.trans same.cleanLeft
  cleanRight := passed'.ending.trans same.cleanRight
  outside := outside

/-- A move away from a token that opens no group. -/
theorem advance (same : left.SameOutside right) (notOpen : left.current.kind ≠ .symbol .leftParen)
    (moved : Reading.advance left = .ok () after) :
    ∃ after', Reading.advance right = .ok () after' ∧ after.SameOutside after' := by
  rcases (Reading.advance_ok_iff same.settledLeft).mp moved with passed | ⟨ahead, rfl⟩
  · have notEnd := same.settledLeft.ne_end_of_passes passed
    obtain ⟨after', passed'⟩ :=
      same.settledRight.exists_passes_current same.cleanRight (same.current.1 ▸ notEnd)
    refine ⟨after', Reading.advance_of_passes passed', same.passes passed passed' ?_⟩
    have outside := same.outside
    rw [passed.outside_token notOpen, passed'.outside_token (same.current.1 ▸ notOpen)] at outside
    exact (List.cons.inj outside).2
  -- At the end of the one text the other one is at its end, too, and both cursors rest.
  · obtain ⟨place, isEnd⟩ := same.settledLeft.current_of_ahead ahead
    have atEnd : right.current.kind = .endOfText := by
      rw [same.current.1, isEnd]
      rfl
    have ahead' := same.settledRight.ahead_of_end atEnd
    exact ⟨right, (Reading.advance_ok_iff same.settledRight).mpr (.inr ⟨ahead', rfl⟩), same⟩

/-- A group is passed as one, whatever it holds. -/
theorem exists_group (same : left.SameOutside right) (onOpening : left.current.kind = .symbol .leftParen)
    (passed : left.Passes taken after) (closes : ClosesFrom 0 taken) :
    ∃ group after', right.Passes group after' ∧ ClosesFrom 0 group ∧ after.SameOutside after' := by
  obtain ⟨text, whole⟩ := passed.outside_group onOpening closes
  have onOpening' := same.current.1.trans onOpening
  have whole' : SqlSharding.outside 0 (right.current :: right.ahead.tokens) =
      (right.current.kind, right.current.text) :: (.symbol .rightParen, text) ::
        SqlSharding.outside 0 after.tokens := by
    rw [same.current.1, same.current.2, ← whole]
    exact same.outside
  obtain ⟨inner, rest, ahead, closesInner, outside⟩ := exists_group_of_outside onOpening' whole'
  cases rest with
  | nil => simp [SqlSharding.outside, Cursor.tokens] at outside
  | cons token later =>
    have tokens : right.tokens = (right.current :: inner) ++ token :: later := by
      rw [Cursor.tokens, ahead]
      rfl
    obtain ⟨after', passed', rfl, rfl⟩ := exists_passes tokens
    refine ⟨_, after', passed', ?_, same.passes passed passed' outside⟩
    simpa [ClosesFrom, onOpening', depthAfter] using closesInner

end SameOutside

end Cursor

namespace Reading

open Cursor Marked

variable {α β : Type} {alike : α → α → Prop} {kinds : List Kind}

/-- Whenever the first reading succeeds, the second one succeeds in a text with the same tokens outside
of groups. They give values that are alike, and stop before the same tokens outside of groups. -/
def Agree (alike : α → α → Prop) (reading reading' : Reading α) : Prop :=
  ∀ value left right after, left.SameOutside right → reading left = .ok value after →
    ∃ value' after', alike value value' ∧ reading' right = .ok value' after' ∧
      after.SameOutside after'

namespace Agree

/-- Values that are alike agree. -/
theorem pure {value value' : α} (isAlike : alike value value') :
    Agree alike (pure value) (pure value') := by
  intro found left right after same passed
  obtain ⟨rfl, rfl⟩ := pure_ok_iff.mp passed
  exact ⟨value', right, isAlike, rfl, same⟩

/-- What always fails agrees with itself. -/
theorem unexpected : Agree alike (unexpected : Reading α) unexpected := by
  rintro value left right after same ⟨⟩

/-- Sequences agree if their parts do, the second parts for values that are alike. -/
theorem bind {alike' : β → β → Prop} {first first' : Reading α} {next next' : α → Reading β}
    (starts : Agree alike first first')
    (goesOn : ∀ value value', alike value value' → Agree alike' (next value) (next' value')) :
    Agree alike' (first >>= next) (first' >>= next') := by
  intro value left right after same passed
  obtain ⟨found, middle, start, rest⟩ := bind_ok_iff.mp passed
  obtain ⟨found', middle', foundAlike, start', sameMiddle⟩ := starts _ _ _ _ same start
  obtain ⟨value', after', valueAlike, rest', sameAfter⟩ :=
    goesOn found found' foundAlike _ _ _ _ sameMiddle rest
  exact ⟨value', after', valueAlike, bind_ok_iff.mpr ⟨found', middle', start', rest'⟩, sameAfter⟩

/-- A reading whose value is the same, before a reading. -/
theorem andThen {first : Reading β} {next next' : β → Reading α} (starts : Agree Eq first first)
    (goesOn : ∀ value, Agree alike (next value) (next' value)) :
    Agree alike (first >>= next) (first >>= next') :=
  starts.bind fun value _ same => same ▸ goesOn value

/-- Choices on the same condition agree if their ways do. -/
theorem ite {condition : Prop} [Decidable condition] {first first' second second' : Reading α}
    (whenTrue : Agree alike first first') (whenFalse : Agree alike second second') :
    Agree alike (if condition then first else second) (if condition then first' else second') := by
  split
  · exact whenTrue
  · exact whenFalse

/-- A reading that agrees with itself does so without its value, too. -/
theorem discard {reading : Reading α} (agree : Agree alike reading reading) :
    Agree Eq (discard reading) (discard reading) := by
  intro value left right after same passed
  obtain ⟨found, passed⟩ := discard_ok_iff.mp passed
  obtain ⟨found', after', -, passed', sameAfter⟩ := agree _ _ _ _ same passed
  exact ⟨value, after', rfl, discard_ok_iff.mpr ⟨found', passed'⟩, sameAfter⟩

/-- The loops of turns that agree agree. -/
theorem repeatTurns {turn turn' : α → Reading (Turn α)} (consumes : Consumes turn)
    (consumes' : Consumes turn')
    (turns : ∀ value value', alike value value' →
      Agree (TurnsAlike alike) (turn value) (turn' value'))
    {value value' : α} (isAlike : alike value value') :
    Agree alike (repeatTurns turn value) (repeatTurns turn' value') := by
  intro result left right after same passed
  -- The induction is on the turns in the first text; of the second one any number of tokens may
  -- remain, since its groups have any length.
  replace passed := turns_of_repeatTurns consumes passed
  induction passed generalizing right value' with
  | last done =>
    obtain ⟨decision', after', decisionAlike, done', sameAfter⟩ := turns _ _ isAlike _ _ _ _ same done
    cases decisionAlike with
    | done resultAlike =>
      exact ⟨_, after', resultAlike, (repeatTurns_ok_iff consumes').mpr (.inl done'), sameAfter⟩
  | again taken _ inductionHypothesis =>
    obtain ⟨decision', middle', decisionAlike, taken', sameMiddle⟩ :=
      turns _ _ isAlike _ _ _ _ same taken
    cases decisionAlike with
    | again nextAlike =>
      obtain ⟨result', after', resultAlike, rest', sameAfter⟩ :=
        inductionHypothesis nextAlike _ sameMiddle
      refine ⟨result', after', resultAlike, (repeatTurns_ok_iff consumes').mpr (.inr ?_), sameAfter⟩
      exact ⟨_, middle', taken', rest'⟩

end Agree

/-- Whether a token has one of the kinds is seen alike in both texts. -/
theorem agree_isOn (kinds : List Kind) : Agree Eq (isOn kinds) (isOn kinds) := by
  rintro value left right after same ⟨⟩
  refine ⟨_, right, rfl, ?_, same⟩
  rw [isOn, same.isOn]

/-- The tokens are the same but for their places. -/
def SameWord (token token' : Token) : Prop :=
  token'.kind = token.kind ∧ token'.text = token.text

/-- The tokens under both cursors are the same but for their places. -/
theorem agree_current : Agree SameWord current current := by
  rintro value left right after same ⟨⟩
  exact ⟨_, right, same.current, rfl, same⟩

/-- A token that is refused in one text is refused in the other. -/
theorem agree_refuse (kinds : List Kind) : Agree Eq (refuse kinds) (refuse kinds) := by
  intro value left right after same passed
  obtain ⟨notOn, rfl⟩ := refuse_ok_iff.mp passed
  exact ⟨(), right, rfl, refuse_ok_iff.mpr ⟨by rwa [same.current.1], rfl⟩, same⟩

/-- A token is skipped in both texts, if it opens no group. -/
theorem agree_skipIf (notOpen : .symbol .leftParen ∉ kinds) :
    Agree Eq (skipIf kinds) (skipIf kinds) := by
  intro value left right after same passed
  simp only [skipIf, isOn_bind, same.isOn] at passed ⊢
  split at passed
  · rename_i onKind
    obtain ⟨_, middle, moved, rest⟩ := bind_ok_iff.mp passed
    obtain ⟨rfl, rfl⟩ := pure_ok_iff.mp rest
    obtain ⟨after', moved', sameAfter⟩ :=
      same.advance (fun isOpen => notOpen (isOpen ▸ isOn_iff.mp onKind)) moved
    rw [if_pos onKind]
    exact ⟨true, after', rfl, bind_ok_iff.mpr ⟨(), after', moved', rfl⟩, sameAfter⟩
  · rename_i notOn
    obtain ⟨rfl, rfl⟩ := pure_ok_iff.mp passed
    rw [if_neg notOn]
    exact ⟨false, right, rfl, rfl, same⟩

/-- Moves past a token whose kind is as asked for and gives it; fails on any other token. -/
def takeIf (condition : Kind → Prop) [DecidablePred condition] (failure : Token → Reading Token) :
    Reading Token := do
  let token ← current
  if condition token.kind then
    advance
    return token
  else
    failure token

/-- A token whose kind is as asked for is taken in both texts, if it opens no group. -/
theorem agree_takeIf {condition : Kind → Prop} [DecidablePred condition]
    (notOpen : ¬condition (.symbol .leftParen)) {failure : Token → Reading Token}
    (fails : ∀ token value before after, failure token before ≠ .ok value after) :
    Agree SameWord (takeIf condition failure) (takeIf condition failure) := by
  intro value left right after same passed
  rw [takeIf, current_bind] at passed ⊢
  split at passed
  · rename_i holds
    obtain ⟨_, middle, moved, rest⟩ := bind_ok_iff.mp passed
    obtain ⟨rfl, rfl⟩ := pure_ok_iff.mp rest
    obtain ⟨after', moved', sameAfter⟩ := same.advance (fun isOpen => notOpen (isOpen ▸ holds)) moved
    rw [if_pos (same.current.1.symm ▸ holds)]
    exact ⟨_, after', same.current, bind_ok_iff.mpr ⟨(), after', moved', rfl⟩, sameAfter⟩
  · exact absurd passed (fails _ _ _ _)

/-- A token that is demanded is taken in both texts, if it opens no group. -/
theorem agree_accept {expected : Kind} (notOpen : expected ≠ .symbol .leftParen) :
    Agree SameWord (accept expected) (accept expected) :=
  @agree_takeIf (· = expected) _ notOpen.symm _ fun _ _ _ _ => throw_not_ok

/-- A part of a name has the same text in both texts. -/
theorem agree_namePart : Agree SameWord namePart namePart :=
  @agree_takeIf (·.isName = true) _ (by decide) _ fun _ _ _ _ => by rintro ⟨⟩

/-- A group is skipped in both texts, whatever it holds. -/
theorem agree_skipGroup : Agree Eq (discard skipGroup) (discard skipGroup) := by
  intro value left right after same passed
  rw [skipGroup_ok_iff same.settledLeft] at passed
  split at passed
  · rename_i onOpening
    obtain ⟨taken, passed, closes⟩ := passed
    obtain ⟨group, after', passed', closes', sameAfter⟩ := same.exists_group onOpening passed closes
    refine ⟨_, after', rfl, (skipGroup_ok_iff same.settledRight).mpr ?_, sameAfter⟩
    rw [if_pos (same.current.1.trans onOpening)]
    exact ⟨group, passed', closes'⟩
  · rename_i notOpen
    subst passed
    refine ⟨_, right, rfl, (skipGroup_ok_iff same.settledRight).mpr ?_, same⟩
    rw [if_neg (by rwa [same.current.1])]

/-- An item is a group or a token that opens none, so no item begins inside of a group. -/
theorem agree_skipItem : Agree Eq skipItem skipItem := by
  intro value left right after same passed
  rw [skipItem, isOn_bind] at passed ⊢
  rw [same.isOn]
  split at passed
  · rename_i onOpening
    rw [if_pos onOpening]
    exact agree_skipGroup _ _ _ _ same passed
  · rename_i notOpen
    rw [if_neg notOpen]
    obtain ⟨after', moved', sameAfter⟩ :=
      same.advance (by simpa [isOn_iff] using notOpen) passed
    exact ⟨(), after', rfl, moved', sameAfter⟩

/-- A turn of the skipping of items passes a token, or a group with whatever it holds. -/
theorem agree_itemTurn (stops : (afterDot : Bool) → Kind → Bool) (afterDot : Bool) :
    Agree (TurnsAlike Eq) (itemTurn stops afterDot) (itemTurn stops afterDot) :=
  agree_current.bind fun _ _ same => by
    rw [same.1]
    exact .ite (.pure (.done rfl)) (agree_skipItem.andThen fun _ => .pure (.again rfl))

/-- Items are skipped up to the same token outside of groups. -/
theorem agree_skipItems (stops : (afterDot : Bool) → Kind → Bool) :
    Agree Eq (skipItems stops) (skipItems stops) := by
  rw [skipItems_eq]
  exact .discard (.repeatTurns (consumes_itemTurn stops) (consumes_itemTurn stops)
    (fun afterDot _ same => same ▸ agree_itemTurn stops afterDot) rfl)

/-- A turn that skips a token of kinds that open no group. -/
theorem Agree.turnAfter (notOpen : .symbol .leftParen ∉ kinds) {body body' : α → Reading α}
    (bodies : ∀ value value', alike value value' → Agree alike (body value) (body' value'))
    {value value' : α} (isAlike : alike value value') :
    Agree (TurnsAlike alike) (turnAfter kinds body value) (turnAfter kinds body' value') :=
  (agree_skipIf notOpen).andThen fun _ =>
    .ite ((bodies _ _ isAlike).bind fun _ _ nextAlike => .pure (.again nextAlike))
      (.pure (.done isAlike))

/-- None of the kinds ends a text or opens a group. -/
def Ordinary (kinds : List Kind) : Prop :=
  .endOfText ∉ kinds ∧ .symbol .leftParen ∉ kinds

instance : DecidablePred Ordinary := fun _ => inferInstanceAs (Decidable (_ ∧ _))

/-- All tokens of some kinds are skipped in both texts, if none opens a group. -/
theorem agree_skipAll (ordinary : Ordinary kinds) : Agree Eq (skipAll kinds) (skipAll kinds) := by
  have consumes : Consumes (turnAfter kinds fun _ : Unit => pure ()) :=
    consumes_turnAfter ordinary.1 fun _ => .pure ()
  rw [skipAll_eq]
  exact .repeatTurns consumes consumes
    (fun _ _ same => .turnAfter ordinary.2 (fun _ _ _ => .pure rfl) same) rfl

/-- A name ends in the same last part in both texts. -/
theorem agree_qualifiedName : Agree SameWord qualifiedName qualifiedName := by
  rw [qualifiedName_eq]
  exact agree_namePart.bind fun _ _ => .repeatTurns consumes_partTurn consumes_partTurn
    fun _ _ => .turnAfter (by decide) fun _ _ _ => agree_namePart

/-- The mark of a table is the same in both texts, but for its place. -/
theorem agree_tableMark : Agree TableMark.SameName tableMark tableMark :=
  agree_qualifiedName.bind fun _ _ same => .pure (by
    rw [TableMark.SameName, TableMark.withoutPlace, TableMark.withoutPlace, same.2])

/-- The alias is the same in both texts. -/
theorem agree_alias? : Agree Eq Reading.alias? Reading.alias? := by
  have name : Agree Eq (do return some (unquote (← namePart).text))
      (do return some (unquote (← namePart).text)) :=
    agree_namePart.bind fun _ _ same => .pure (by rw [same.2])
  exact (agree_skipIf (by decide)).andThen fun _ => .ite name
    ((agree_isOn _).andThen fun _ => .ite name (.pure rfl))

/-- A table and its alias are the same in both texts, but for the place of the table. -/
theorem agree_aliasedTable : Agree (Alike TableMark.SameName) aliasedTable aliasedTable :=
  agree_tableMark.bind fun _ _ same => agree_alias?.andThen fun _ => .pure ⟨same, rfl⟩

end Reading

end SqlSharding
