import SqlSharding.Dispatch

/-!
# Progress of readings

A reading that succeeds never gives back what it has passed (`Proceeds`), and a turn of a loop that
asks for another one has passed a token (`Consumes`). The bound of `repeatTurns` is therefore never
met, and every loop is its first turn followed by the loop. That law is stated here for each loop of
the readings; no later proof opens a bound.
-/

namespace SqlSharding

namespace Cursor

/-- A cursor is at the end exactly if it is on an end token. -/
theorem isAtEnd_iff {cursor : Cursor} : cursor.isAtEnd = true ↔ cursor.current.kind = .endOfText := by
  simp [isAtEnd]

/-- A cursor is on some kinds exactly if its token has one of them. -/
theorem isOn_iff {cursor : Cursor} {kinds : List Kind} :
    cursor.isOn kinds = true ↔ cursor.current.kind ∈ kinds := by
  simp [isOn]

/-- At the end only the tokens ahead are left. -/
theorem remaining_of_isAtEnd {cursor : Cursor} (atEnd : cursor.isAtEnd = true) :
    cursor.remaining = 2 * cursor.ahead.tokens.length := by
  simp [remaining, atEnd]

/-- Before the end the token under the cursor is left, too. -/
theorem remaining_of_not_isAtEnd {cursor : Cursor} (notAtEnd : cursor.isAtEnd = false) :
    cursor.remaining = 2 * cursor.ahead.tokens.length + 1 := by
  simp [remaining, notAtEnd]

/-- What is left is at most twice the tokens ahead, and one more. -/
theorem remaining_le (cursor : Cursor) :
    cursor.remaining ≤ 2 * cursor.ahead.tokens.length + 1 := by
  cases atEnd : cursor.isAtEnd with
  | true => simp [remaining_of_isAtEnd atEnd]
  | false => simp [remaining_of_not_isAtEnd atEnd]

/-- What is left is at least twice the tokens ahead. -/
theorem le_remaining (cursor : Cursor) :
    2 * cursor.ahead.tokens.length ≤ cursor.remaining := by
  simp [remaining]

end Cursor

namespace Reading

variable {α β : Type}

instance [DecidableEq α] (result : EStateM.Result ParseError Cursor α) (value : α) (after : Cursor) :
    Decidable (result = .ok value after) :=
  match result with
  | .ok found stop => decidable_of_iff (found = value ∧ stop = after) (by simp)
  | .error _ _ => isFalse nofun

/-- A sequence succeeds when its parts do, the second from where the first stopped. -/
theorem bind_ok_iff {first : Reading α} {next : α → Reading β} {before final : Cursor} {value : β} :
    (first >>= next) before = .ok value final ↔
      ∃ found middle, first before = .ok found middle ∧ next found middle = .ok value final := by
  simp only [bind, EStateM.bind]
  constructor
  · intro passed
    cases result : first before with
    | ok found middle => exact ⟨found, middle, rfl, by simpa [result] using passed⟩
    | error cause middle => simp [result] at passed
  · rintro ⟨found, middle, start, rest⟩
    simpa [start] using rest

/-- A sequence fails when a part of it does. -/
theorem bind_error_iff {first : Reading α} {next : α → Reading β} {before after : Cursor}
    {cause : ParseError} :
    (first >>= next) before = .error cause after ↔
      first before = .error cause after ∨
        ∃ value middle, first before = .ok value middle ∧ next value middle = .error cause after := by
  simp only [bind, EStateM.bind]
  cases first before with
  | error => simp
  | ok found middle =>
    refine ⟨fun failed => .inr ⟨found, middle, rfl, failed⟩, ?_⟩
    rintro (failed | ⟨_, _, ⟨⟩, failed⟩)
    · cases failed
    · exact failed

/-- Behind what is read, a sequence goes on with what is next. -/
theorem bind_of_ok {first : Reading α} {next : α → Reading β} {before middle : Cursor} {found : α}
    (passed : first before = .ok found middle) : (first >>= next) before = next found middle := by
  simp only [bind, EStateM.bind, passed]

/-- A sequence goes on alike from where two readings have come to the same. -/
theorem bind_congr_of_eq {first first' : Reading α} {before before' : Cursor}
    (same : first before = first' before') (next : α → Reading β) :
    (first >>= next) before = (first' >>= next) before' := by
  simp only [bind, EStateM.bind, same]

/-- A value is given as it is, and the cursor stays. -/
theorem pure_ok_iff {given value : α} {before after : Cursor} :
    (pure given : Reading α) before = .ok value after ↔ value = given ∧ after = before := by
  simp only [pure, EStateM.pure, EStateM.Result.ok.injEq]
  constructor <;> rintro ⟨rfl, rfl⟩ <;> exact ⟨rfl, rfl⟩

/-- A reading succeeds without its value exactly if it succeeds with some value. -/
theorem discard_ok_iff {reading : Reading α} {before after : Cursor} :
    (discard reading) before = .ok PUnit.unit after ↔ ∃ value, reading before = .ok value after := by
  simp only [discard, Functor.discard, Functor.mapConst, EStateM.map, Function.comp, Function.const]
  cases reading before <;> simp

/-- Leaving out the value of a reading is reading on with nothing. -/
theorem discard_eq (reading : Reading α) :
    (discard reading : Reading PUnit) = reading >>= fun _ => pure () := by
  funext cursor
  simp only [discard, Functor.discard, Functor.mapConst, EStateM.map, Function.comp, Function.const,
    bind, EStateM.bind]
  cases reading cursor <;> rfl

/-- What is thrown never succeeds. -/
theorem throw_not_ok {cause : ParseError} {before after : Cursor} {value : α} :
    (throw cause : Reading α) before ≠ .ok value after := by
  intro passed
  cases passed

/-- A choice goes on in each of its ways. -/
theorem ite_bind {condition : Prop} [Decidable condition] (left right : Reading α)
    (next : α → Reading β) :
    (if condition then left else right) >>= next =
      if condition then left >>= next else right >>= next := by
  split <;> rfl

/-- A question about the cursor is answered where the cursor stands. -/
theorem isOn_bind (kinds : List Kind) (next : Bool → Reading α) (cursor : Cursor) :
    (isOn kinds >>= next) cursor = next (cursor.isOn kinds) cursor := rfl

/-- What is read behind a look for the end depends on whether the cursor is there. -/
theorem isAtEnd_bind (next : Bool → Reading α) (cursor : Cursor) :
    (isAtEnd >>= next) cursor = next cursor.isAtEnd cursor := rfl

/-- What is read behind a look at a token depends on the token under the cursor. -/
theorem current_bind (next : Token → Reading α) (cursor : Cursor) :
    (current >>= next) cursor = next cursor.current cursor := rfl

/-- The reading never gives back what it has passed. -/
def Proceeds (reading : Reading α) : Prop :=
  ∀ value before after, reading before = .ok value after → after.remaining ≤ before.remaining

/-- A move comes to the first token ahead, or to the end of the text. -/
theorem ahead_of_advance {value : Unit} {before after : Cursor}
    (moved : advance before = .ok value after) :
    before.ahead.tokens = after.current :: after.ahead.tokens ∨
      after.isAtEnd = true ∧ after.ahead.tokens = [] := by
  obtain ⟨dialect, text, current, ⟨tokens, ending⟩⟩ := before
  cases tokens with
  | cons token later =>
    simp only [advance, EStateM.Result.ok.injEq] at moved
    obtain ⟨-, rfl⟩ := moved
    exact .inl rfl
  | nil =>
    cases ending with
    | finished =>
      simp only [advance, EStateM.Result.ok.injEq] at moved
      obtain ⟨-, rfl⟩ := moved
      exact .inr ⟨rfl, rfl⟩
    | blocked fault => simp [advance] at moved
    | unclosed fault last => simp [advance] at moved

/-- A move gives nothing back. -/
theorem proceeds_advance : Proceeds advance := by
  intro value before after moved
  rcases ahead_of_advance moved with ahead | ⟨atEnd, nothing⟩
  · have upper := after.remaining_le
    have lower := before.le_remaining
    rw [ahead, List.length_cons] at lower
    omega
  · rw [Cursor.remaining_of_isAtEnd atEnd, nothing, List.length_nil]
    omega

/-- A move away from a token other than the end makes less remain. -/
theorem advance_remaining_lt {value : Unit} {before after : Cursor}
    (onToken : before.isAtEnd = false) (moved : advance before = .ok value after) :
    after.remaining < before.remaining := by
  have start := Cursor.remaining_of_not_isAtEnd onToken
  rcases ahead_of_advance moved with ahead | ⟨atEnd, nothing⟩
  · have upper := after.remaining_le
    rw [ahead, List.length_cons] at start
    omega
  · rw [start, Cursor.remaining_of_isAtEnd atEnd, nothing, List.length_nil]
    omega

/-- A value gives nothing back. -/
theorem Proceeds.pure (value : α) : Proceeds (pure value) := by
  intro found before after passed
  obtain ⟨-, rfl⟩ := pure_ok_iff.mp passed
  exact Nat.le_refl _

/-- What is thrown gives nothing back. -/
theorem Proceeds.throw (cause : ParseError) : Proceeds (throw cause : Reading α) := by
  intro value before after passed
  exact absurd passed throw_not_ok

/-- A sequence gives nothing back if its parts do not. -/
theorem Proceeds.bind {first : Reading α} {next : α → Reading β} (starts : Proceeds first)
    (goesOn : ∀ value, Proceeds (next value)) : Proceeds (first >>= next) := by
  intro value before final passed
  obtain ⟨found, middle, start, rest⟩ := bind_ok_iff.mp passed
  exact Nat.le_trans (goesOn found _ _ _ rest) (starts _ _ _ start)

/-- A choice gives nothing back if its ways do not. -/
theorem Proceeds.ite {condition : Prop} [Decidable condition] {left right : Reading α}
    (whenTrue : Proceeds left) (whenFalse : Proceeds right) :
    Proceeds (if condition then left else right) := by
  split
  · exact whenTrue
  · exact whenFalse

/-- Leaving out its value, a reading gives back as little as before. -/
theorem Proceeds.discard {reading : Reading α} (proceeds : Proceeds reading) :
    Proceeds (discard reading) := by
  intro value before after passed
  obtain ⟨found, start⟩ := discard_ok_iff.mp passed
  exact proceeds _ _ _ start

/-- A loop gives nothing back if its turns do not. -/
theorem Proceeds.repeatTurns {turn : α → Reading (Turn α)} (turns : ∀ value, Proceeds (turn value))
    (value : α) : Proceeds (repeatTurns turn value) := by
  have within : ∀ bound value, Proceeds (repeatWithin turn bound value) := by
    intro bound
    induction bound with
    | zero => exact fun value => .pure value
    | succ bound inductionHypothesis =>
      intro value
      refine .bind (turns value) fun decision => ?_
      cases decision with
      | done result => exact .pure result
      | again next => exact inductionHypothesis next
  intro result before after passed
  exact within _ _ _ _ _ passed

/-- A look at the token under the cursor gives nothing back. -/
theorem proceeds_isOn (kinds : List Kind) : Proceeds (isOn kinds) := by
  rintro value before after ⟨⟩
  exact Nat.le_refl _

/-- Taking the token under the cursor gives nothing back. -/
theorem proceeds_current : Proceeds current := by
  rintro value before after ⟨⟩
  exact Nat.le_refl _

/-- What always fails gives nothing back. -/
theorem proceeds_unexpected : Proceeds (unexpected : Reading α) := by
  rintro value before after ⟨⟩

/-- Skipping a token gives nothing back. -/
theorem proceeds_skipIf (kinds : List Kind) : Proceeds (skipIf kinds) :=
  .bind (proceeds_isOn kinds) fun _ => .ite (.bind proceeds_advance fun _ => .pure _) (.pure _)

/-- Demanding a token gives nothing back. -/
theorem proceeds_accept (expected : Kind) : Proceeds (accept expected) :=
  .bind proceeds_current fun _ => .ite (.bind proceeds_advance fun _ => .pure _) (.throw _)

/-- A token that is skipped has been passed. -/
theorem skipIf_remaining_lt {kinds : List Kind} (noEnd : .endOfText ∉ kinds) {before after : Cursor}
    (skipped : skipIf kinds before = .ok true after) : after.remaining < before.remaining := by
  rw [skipIf, isOn_bind] at skipped
  split at skipped
  · rename_i onKind
    obtain ⟨_, middle, moved, rest⟩ := bind_ok_iff.mp skipped
    obtain ⟨-, rfl⟩ := pure_ok_iff.mp rest
    refine advance_remaining_lt ?_ moved
    cases atEnd : before.isAtEnd with
    | false => rfl
    | true => exact absurd (Cursor.isAtEnd_iff.mp atEnd ▸ Cursor.isOn_iff.mp onKind) noEnd
  · cases skipped

/-- A loop over turns that consume, as far as the turns ask for it. -/
theorem repeatTurns_ok_iff {turn : α → Reading (Turn α)} (consumes : Consumes turn) {value result : α}
    {before after : Cursor} :
    repeatTurns turn value before = .ok result after ↔
      turn value before = .ok (.done result) after ∨
        ∃ next middle, turn value before = .ok (.again next) middle ∧
          repeatTurns turn next middle = .ok result after := by
  rw [repeatTurns_eq consumes, bind_ok_iff]
  constructor
  · rintro ⟨decision, middle, taken, rest⟩
    cases decision with
    | done found =>
      obtain ⟨rfl, rfl⟩ := pure_ok_iff.mp rest
      exact .inl taken
    | again next => exact .inr ⟨next, middle, taken, rest⟩
  · rintro (taken | ⟨next, middle, taken, rest⟩)
    · exact ⟨_, _, taken, pure_ok_iff.mpr ⟨rfl, rfl⟩⟩
    · exact ⟨_, _, taken, rest⟩

/-- The turns of a loop from a value and a cursor to the result and the cursor behind it. Each of them
asks for another one, up to the last. -/
inductive Turns (turn : α → Reading (Turn α)) (result : α) (after : Cursor) : α → Cursor → Prop
  | last {value : α} {before : Cursor} (taken : turn value before = .ok (.done result) after) :
      Turns turn result after value before
  | again {value next : α} {before middle : Cursor}
      (taken : turn value before = .ok (.again next) middle)
      (later : Turns turn result after next middle) : Turns turn result after value before

/-- A loop is made up of its turns. Whatever a loop is to keep follows by induction on them. -/
theorem turns_of_repeatTurns {turn : α → Reading (Turn α)} (consumes : Consumes turn)
    {value result : α} {before after : Cursor}
    (passed : repeatTurns turn value before = .ok result after) :
    Turns turn result after value before := by
  induction bound : before.remaining using Nat.strongRecOn generalizing before value with
  | _ bound inductionHypothesis =>
    rcases (repeatTurns_ok_iff consumes).mp passed with done | ⟨next, middle, taken, rest⟩
    · exact .last done
    · exact .again taken (inductionHypothesis _ (bound ▸ consumes _ _ _ _ taken) rest rfl)

/-- A turn that goes on as long as a token of the kinds can be skipped, and then reads on. -/
def turnAfter (kinds : List Kind) (body : α → Reading α) (value : α) : Reading (Turn α) := do
  if ← skipIf kinds then
    return .again (← body value)
  else
    return .done value

/-- A turn asks for another one exactly if a token was skipped and the body was read. -/
theorem turnAfter_again_iff {kinds : List Kind} {body : α → Reading α} {value next : α}
    {before after : Cursor} :
    turnAfter kinds body value before = .ok (.again next) after ↔
      ∃ middle, skipIf kinds before = .ok true middle ∧ body value middle = .ok next after := by
  rw [turnAfter, bind_ok_iff]
  constructor
  · rintro ⟨skipped, middle, start, rest⟩
    cases skipped with
    | true =>
      obtain ⟨found, final, bodyPassed, ends⟩ := bind_ok_iff.mp rest
      obtain ⟨same, rfl⟩ := pure_ok_iff.mp ends
      obtain rfl : next = found := by simpa using same
      exact ⟨middle, start, bodyPassed⟩
    | false => cases rest
  · rintro ⟨middle, start, bodyPassed⟩
    refine ⟨true, middle, start, ?_⟩
    exact bind_ok_iff.mpr ⟨next, after, bodyPassed, pure_ok_iff.mpr ⟨rfl, rfl⟩⟩

/-- A turn is done exactly if no token was skipped, and its value stays. -/
theorem turnAfter_done_iff {kinds : List Kind} {body : α → Reading α} {value result : α}
    {before after : Cursor} :
    turnAfter kinds body value before = .ok (.done result) after ↔
      skipIf kinds before = .ok false after ∧ result = value := by
  rw [turnAfter, bind_ok_iff]
  constructor
  · rintro ⟨skipped, middle, start, rest⟩
    cases skipped with
    | true =>
      obtain ⟨found, final, bodyPassed, ends⟩ := bind_ok_iff.mp rest
      obtain ⟨same, -⟩ := pure_ok_iff.mp ends
      cases same
    | false =>
      obtain ⟨same, rfl⟩ := pure_ok_iff.mp rest
      exact ⟨start, by simpa using same⟩
  · rintro ⟨start, rfl⟩
    exact ⟨false, after, start, pure_ok_iff.mpr ⟨rfl, rfl⟩⟩

/-- A turn that skips a token takes it from what is left. -/
theorem consumes_turnAfter {kinds : List Kind} (noEnd : .endOfText ∉ kinds) {body : α → Reading α}
    (proceeds : ∀ value, Proceeds (body value)) : Consumes (turnAfter kinds body) := by
  intro value next before after taken
  obtain ⟨middle, skipped, passed⟩ := turnAfter_again_iff.mp taken
  exact Nat.lt_of_le_of_lt (proceeds _ _ _ _ passed) (skipIf_remaining_lt noEnd skipped)

/-- A turn that skips a token gives nothing back if its body does not. -/
theorem proceeds_turnAfter {kinds : List Kind} {body : α → Reading α}
    (proceeds : ∀ value, Proceeds (body value)) (value : α) :
    Proceeds (turnAfter kinds body value) :=
  .bind (proceeds_skipIf kinds) fun _ =>
    .ite (.bind (proceeds value) fun _ => .pure _) (.pure _)

/-- Skipping all tokens of some kinds is a loop of turns that skip one. -/
theorem skipAll_eq (kinds : List Kind) :
    skipAll kinds = repeatTurns (turnAfter kinds fun _ => pure ()) () := by
  have turn_eq : (fun _ : Unit => do
      if ← isOn kinds then
        advance
        return Turn.again ()
      else
        return .done ()) = turnAfter kinds fun _ => pure () := by
    funext _ cursor
    simp only [turnAfter, skipIf, bind_assoc, isOn_bind]
    split <;> simp
  rw [skipAll, turn_eq]

/-- Skipping all tokens of some kinds gives nothing back. -/
theorem proceeds_skipAll (kinds : List Kind) : Proceeds (skipAll kinds) := by
  rw [skipAll_eq]
  exact .repeatTurns (proceeds_turnAfter fun _ => .pure ()) ()

/-- A turn of `skipUntil`. -/
def untilTurn (kinds : List Kind) (_ : Unit) : Reading (Turn Unit) := do
  if ← isAtEnd then
    return .done ()
  else if ← isOn kinds then
    return .done ()
  else
    advance
    return .again ()

/-- Skipping up to some kinds is a loop. -/
theorem skipUntil_eq (kinds : List Kind) : skipUntil kinds = repeatTurns (untilTurn kinds) () := rfl

/-- A turn of skipping up to some kinds is done at the end or on one of them, and moves on elsewhere. -/
theorem untilTurn_eq (kinds : List Kind) (cursor : Cursor) :
    untilTurn kinds () cursor =
      if cursor.isAtEnd = true ∨ cursor.isOn kinds = true then .ok (.done ()) cursor
      else (advance >>= fun _ => pure (.again ())) cursor := by
  rw [untilTurn, isAtEnd_bind]
  cases cursor.isAtEnd with
  | true => simp [pure, EStateM.pure]
  | false =>
    simp only [Bool.false_eq_true, if_false, isOn_bind, false_or]
    split <;> rfl

/-- A turn of skipping up to some kinds takes a token if it asks for another turn. -/
theorem consumes_untilTurn (kinds : List Kind) : Consumes (untilTurn kinds) := by
  intro value next before after taken
  rw [untilTurn_eq] at taken
  split at taken
  · cases taken
  · rename_i notStopped
    obtain ⟨_, middle, moved, rest⟩ := bind_ok_iff.mp taken
    obtain ⟨-, rfl⟩ := pure_ok_iff.mp rest
    exact advance_remaining_lt (by simpa using fun atEnd => notStopped (.inl atEnd)) moved

/-- A turn in a group takes a token. -/
theorem consumes_groupTurn : Consumes groupTurn := by
  intro value next before after taken
  rw [groupTurn, current_bind] at taken
  split at taken
  · cases taken
  · rename_i notEnd
    obtain ⟨_, middle, moved, rest⟩ := bind_ok_iff.mp taken
    have landed : after = middle := by
      split at rest <;> exact (pure_ok_iff.mp rest).2
    have onToken : before.isAtEnd = false := by
      simpa [Cursor.isAtEnd] using notEnd
    exact landed ▸ advance_remaining_lt onToken moved

/-- A turn in a group gives nothing back. -/
theorem proceeds_groupTurn (progress : GroupProgress) : Proceeds (groupTurn progress) :=
  .bind proceeds_current fun _ => .ite proceeds_unexpected
    (.bind proceeds_advance fun _ => .ite (.pure _) (.pure _))

/-- Skipping a group gives nothing back. -/
theorem proceeds_skipGroup : Proceeds skipGroup := by
  refine .bind (proceeds_isOn _) fun _ => .ite ?_ (.pure _)
  refine .bind proceeds_current fun _ => .bind (.repeatTurns proceeds_groupTurn _) fun _ => ?_
  rintro value before after ⟨⟩
  exact Nat.le_refl _

/-- Skipping an item gives nothing back. -/
theorem proceeds_skipItem : Proceeds skipItem :=
  .bind (proceeds_isOn _) fun _ => .ite (.discard proceeds_skipGroup) proceeds_advance

/-- A turn of `skipItems`. -/
def itemTurn (stops : (afterDot : Bool) → Kind → Bool) (afterDot : Bool) : Reading (Turn Bool) := do
  let token ← current
  if token.kind = .endOfText || stops afterDot token.kind then
    return .done afterDot
  else
    skipItem
    return .again (token.kind = .symbol .dot)

/-- Skipping items is a loop whose value does not matter. -/
theorem skipItems_eq (stops : (afterDot : Bool) → Kind → Bool) :
    skipItems stops = discard (repeatTurns (itemTurn stops) false) := rfl

/-- A group takes its parenthesis at least, so an item is never empty. -/
theorem skipItem_remaining_lt {value : Unit} {before after : Cursor}
    (onToken : before.isAtEnd = false) (passed : skipItem before = .ok value after) :
    after.remaining < before.remaining := by
  rw [skipItem, isOn_bind] at passed
  split at passed
  · rename_i onGroup
    obtain ⟨_, group⟩ := discard_ok_iff.mp passed
    rw [skipGroup, isOn_bind, if_pos onGroup, current_bind] at group
    obtain ⟨progress, middle, loop, rest⟩ := bind_ok_iff.mp group
    obtain rfl : after = middle := by cases rest; rfl
    rcases (repeatTurns_ok_iff consumes_groupTurn).mp loop with ended | ⟨next, inside, taken, more⟩
    · rw [groupTurn, current_bind] at ended
      split at ended
      · cases ended
      · obtain ⟨_, final, moved, rest⟩ := bind_ok_iff.mp ended
        have landed : after = final := by
          split at rest <;> exact (pure_ok_iff.mp rest).2
        exact landed ▸ advance_remaining_lt onToken moved
    · exact Nat.lt_of_le_of_lt (Proceeds.repeatTurns proceeds_groupTurn next _ _ _ more)
        (consumes_groupTurn _ _ _ _ taken)
  · exact advance_remaining_lt onToken passed

/-- A turn over items takes one if it asks for another turn. -/
theorem consumes_itemTurn (stops : (afterDot : Bool) → Kind → Bool) : Consumes (itemTurn stops) := by
  intro value next before after taken
  rw [itemTurn, current_bind] at taken
  split at taken
  · cases taken
  · rename_i notStopped
    obtain ⟨_, middle, passed, rest⟩ := bind_ok_iff.mp taken
    obtain ⟨-, rfl⟩ := pure_ok_iff.mp rest
    refine skipItem_remaining_lt ?_ passed
    simp only [Cursor.isAtEnd]
    grind

/-- Skipping items gives nothing back. -/
theorem proceeds_skipItems (stops : (afterDot : Bool) → Kind → Bool) : Proceeds (skipItems stops) :=
  .discard (.repeatTurns (fun _ => .bind proceeds_current fun _ => .ite (.pure _)
    (.bind proceeds_skipItem fun _ => .pure _)) false)

/-- A part of a name gives nothing back. -/
theorem proceeds_namePart : Proceeds namePart :=
  .bind proceeds_current fun _ => .ite (.bind proceeds_advance fun _ => .pure _) proceeds_unexpected

/-- A name is a first part, and a loop over parts behind dots. -/
theorem qualifiedName_eq :
    qualifiedName = namePart >>= repeatTurns (turnAfter [.symbol .dot] fun _ => namePart) := rfl

/-- A name gives nothing back. -/
theorem proceeds_qualifiedName : Proceeds qualifiedName :=
  .bind proceeds_namePart fun _ => .repeatTurns (proceeds_turnAfter fun _ => proceeds_namePart) _

/-- The name of a table gives nothing back. -/
theorem proceeds_tableMark : Proceeds tableMark :=
  .bind proceeds_qualifiedName fun _ => .pure _

/-- The name of a column gives nothing back. -/
theorem proceeds_columnName : Proceeds columnName :=
  .bind proceeds_qualifiedName fun _ => .pure _

/-- An alias gives nothing back. -/
theorem proceeds_alias? : Proceeds alias? :=
  .bind (proceeds_skipIf _) fun _ => .ite (.bind proceeds_namePart fun _ => .pure _)
    (.bind (proceeds_isOn _) fun _ => .ite (.bind proceeds_namePart fun _ => .pure _) (.pure _))

/-- A table without an alias gives nothing back. -/
theorem proceeds_plainTable : Proceeds plainTable :=
  .bind proceeds_tableMark fun _ => .pure _

/-- A table with an alias gives nothing back. -/
theorem proceeds_aliasedTable : Proceeds aliasedTable :=
  .bind proceeds_tableMark fun _ => .bind proceeds_alias? fun _ => .pure _

end Reading

end SqlSharding
