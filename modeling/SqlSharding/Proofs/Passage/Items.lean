import SqlSharding.Proofs.Passage.Naming
import SqlSharding.Proofs.Progress.Statements

/-!
# Items between commas

Tables, columns and assignments stand in lists with commas between them. The shape of a list follows
from the shape of its items, and a loop that reads an item behind each comma passes a list just when
its reading passes an item.
-/

namespace SqlSharding

variable {α β : Type} {shape : List Token → α → Prop}

/-- Items behind another one, each behind a comma, and what is kept of them. The shape tells what an
item is made of and what is kept of it. -/
inductive BehindCommas (shape : List Token → α → Prop) : List Token → List α → Prop
  | nil : BehindCommas shape [] []
  | item {comma : Token} {item rest : List Token} {value : α} {values : List α}
      (isComma : comma.kind = .symbol .comma) (isItem : shape item value)
      (more : BehindCommas shape rest values) :
      BehindCommas shape (comma :: (item ++ rest)) (value :: values)

/-- Items with commas between them. -/
inductive Separated (shape : List Token → α → Prop) : List Token → List α → Prop
  | mk {item rest : List Token} {value : α} {values : List α} (isItem : shape item value)
      (more : BehindCommas shape rest values) : Separated shape (item ++ rest) (value :: values)

/-- An item may stand before what may follow the last one, and before a comma. -/
theorem BehindCommas.follows {follows : Kind → Prop} {rest : List Token} {values : List α} {next : Kind}
    (more : BehindCommas shape rest values) (beforeComma : follows (.symbol .comma))
    (beforeNext : follows next) : follows (kindAhead rest next) := by
  cases more with
  | nil => exact beforeNext
  | item isComma =>
    rw [kindAhead, isComma]
    exact beforeComma

/-- An item by itself is a list of one item. -/
theorem Separated.single {tokens : List Token} {value : α} (isItem : shape tokens value) :
    Separated shape tokens [value] := by
  rw [← List.append_nil tokens]
  exact .mk isItem .nil

/-- Several items have a comma behind the first one. -/
theorem Separated.cases_length {tokens : List Token} {values : List α}
    (separated : Separated shape tokens values) :
    (∃ value, shape tokens value ∧ values = [value]) ∨
      1 < values.length ∧ ∃ first value comma later, shape first value ∧
        comma.kind = .symbol .comma ∧ tokens = first ++ comma :: later := by
  obtain ⟨isItem, more⟩ := separated
  cases more with
  | nil =>
    rw [List.append_nil]
    exact .inl ⟨_, isItem, rfl⟩
  | item isComma =>
    exact .inr ⟨Nat.succ_lt_succ (Nat.succ_pos _), _, _, _, _, isItem, isComma, rfl⟩

section

variable {holds : Token → Prop}
  (ofItems : ∀ item value, shape item value → ∀ token ∈ item, holds token)
  (ofCommas : ∀ token : Token, token.kind = .symbol .comma → holds token)
include ofItems ofCommas

/-- What holds of commas and of the tokens of items holds of every token of a list. -/
theorem BehindCommas.forall_mem {rest : List Token} {values : List α}
    (more : BehindCommas shape rest values) : ∀ token ∈ rest, holds token := by
  induction more with
  | nil => exact nofun
  | item isComma isItem _ inductionHypothesis =>
    rw [List.forall_mem_cons, List.forall_mem_append]
    exact ⟨ofCommas _ isComma, ofItems _ _ isItem, inductionHypothesis⟩

/-- What holds of the items and of commas holds of the list. -/
theorem Separated.forall_mem {tokens : List Token} {values : List α}
    (separated : Separated shape tokens values) : ∀ token ∈ tokens, holds token := by
  obtain ⟨isItem, more⟩ := separated
  exact List.forall_mem_append.mpr ⟨ofItems _ _ isItem, more.forall_mem ofItems ofCommas⟩

end

/-- The number of commas among the tokens. -/
def commas (tokens : List Token) : Nat :=
  tokens.countP (·.kind = .symbol .comma)

/-- The commas of tokens in two parts are those of the parts. -/
theorem commas_append (front rest : List Token) : commas (front ++ rest) = commas front + commas rest :=
  List.countP_append

/-- Tokens without a comma have no commas. -/
theorem commas_eq_zero {tokens : List Token} (noComma : ∀ token ∈ tokens, token.kind ≠ .symbol .comma) :
    commas tokens = 0 :=
  List.countP_eq_zero.mpr (by simpa using noComma)

section

variable (noComma : ∀ item value, shape item value → ∀ token ∈ item, token.kind ≠ .symbol .comma)
include noComma

/-- There are as many commas as items behind them, if no item holds one. -/
theorem BehindCommas.commas_eq {rest : List Token} {values : List α}
    (more : BehindCommas shape rest values) : commas rest = values.length := by
  induction more with
  | nil => rfl
  | item isComma isItem _ inductionHypothesis =>
    have noneInItem := commas_eq_zero (noComma _ _ isItem)
    rw [commas, List.countP_cons_of_pos (by simpa using isComma), ← commas, commas_append, noneInItem,
      Nat.zero_add, inductionHypothesis, List.length_cons]

/-- Items without commas are one more than the commas between them. -/
theorem Separated.commas_eq {tokens : List Token} {values : List α}
    (separated : Separated shape tokens values) : commas tokens + 1 = values.length := by
  obtain ⟨isItem, more⟩ := separated
  rw [commas_append, commas_eq_zero (noComma _ _ isItem), Nat.zero_add, more.commas_eq noComma,
    List.length_cons]

end

namespace Reading

open Cursor

/-- Wherever an item stands before what may follow it, it is read. -/
def ReadsEvery (item : Reading β) (shape : List Token → α → Prop) (follows : Kind → Prop)
    (made : α → β) : Prop :=
  ∀ before after tokens value, before.Settled → before.Passes tokens after → shape tokens value →
    follows after.current.kind → item before = .ok (made value) after

/-- Whenever something is read, it is an item before what may follow it. -/
def ReadsOnly (item : Reading β) (shape : List Token → α → Prop) (follows : Kind → Prop)
    (made : α → β) : Prop :=
  ∀ before after found, before.Settled → item before = .ok found after →
    ∃ tokens value, before.Passes tokens after ∧ shape tokens value ∧ follows after.current.kind ∧
      found = made value

section

variable {item : Reading β} {follows : Kind → Prop} {made : α → β} {before after : Cursor}
  (proceeds : Proceeds item)
include proceeds

/-- Items behind commas are read one in each turn. -/
theorem itemsAfter_of_passes (every : ReadsEvery item shape follows made)
    (beforeComma : follows (.symbol .comma)) (settled : before.Settled) {rest : List Token}
    {values : List α} (more : BehindCommas shape rest values) (passed : before.Passes rest after)
    (beforeNext : follows after.current.kind) (notComma : after.current.kind ≠ .symbol .comma)
    (found : List β) :
    repeatTurns (itemAfter (.symbol .comma) item) found before =
      .ok (found ++ values.map made) after := by
  have noEnd : Kind.endOfText ∉ [Kind.symbol .comma] := by simp
  have consumes : Consumes (itemAfter (.symbol .comma) item) := consumes_itemAfter nofun proceeds
  induction more generalizing before found with
  | nil =>
    obtain rfl := passes_nil_iff.mp passed
    rw [List.map_nil, List.append_nil]
    refine repeatTurns_of_done consumes (turnAfter_done_iff.mpr ⟨?_, rfl⟩)
    exact skipIf_of_not_mem settled noEnd (by simpa using notComma)
  | @item comma tokens rest value values isComma isItem more inductionHypothesis =>
    obtain ⟨behindComma, toComma, onward⟩ := passed.uncons
    obtain ⟨behindItem, toItem, onward⟩ := onward.split
    have skipped := skipIf_of_passes settled noEnd (by simp [isComma]) toComma
    have settledItem := toComma.settled settled
    have read : item behindComma = .ok (made value) behindItem := by
      refine every _ _ _ _ settledItem toItem isItem ?_
      rw [onward.kindAhead]
      exact more.follows beforeComma beforeNext
    rw [repeatTurns_of_again consumes (turnAfter_again_iff.mpr
      ⟨behindComma, skipped, bind_ok_iff.mpr ⟨_, behindItem, read, rfl⟩⟩),
      inductionHypothesis (toItem.settled settledItem) onward, List.append_assoc, List.map_cons,
      List.singleton_append]

/-- What is read in the turns are items behind commas, and no comma follows them. -/
theorem exists_behindCommas (only : ReadsOnly item shape follows made) (settled : before.Settled)
    (beforeCurrent : follows before.current.kind) {found items : List β}
    (read : repeatTurns (itemAfter (.symbol .comma) item) found before = .ok items after) :
    ∃ rest values, before.Passes rest after ∧ BehindCommas shape rest values ∧
      follows after.current.kind ∧ after.current.kind ≠ .symbol .comma ∧
      items = found ++ values.map made := by
  have noEnd : Kind.endOfText ∉ [Kind.symbol .comma] := by simp
  have consumes : Consumes (itemAfter (.symbol .comma) item) := consumes_itemAfter nofun proceeds
  replace read := turns_of_repeatTurns consumes read
  -- Each turn starts behind an item, so what stands there may follow one.
  induction read with
  | last done =>
    obtain ⟨skipped, rfl⟩ := turnAfter_done_iff.mp done
    obtain ⟨notComma, rfl⟩ := (skipIf_false_iff settled noEnd).mp skipped
    exact ⟨[], [], .refl _, .nil, beforeCurrent, by simpa using notComma, (List.append_nil _).symm⟩
  | again taken _ inductionHypothesis =>
    obtain ⟨behindComma, skipped, rest⟩ := turnAfter_again_iff.mp taken
    obtain ⟨onComma, toComma⟩ := (skipIf_true_iff settled noEnd).mp skipped
    obtain ⟨_, _, read, added⟩ := bind_ok_iff.mp rest
    obtain ⟨rfl, rfl⟩ := pure_ok_iff.mp added
    obtain ⟨tokens, value, toItem, isItem, beforeItem, rfl⟩ := only _ _ _ (toComma.settled settled) read
    have toMiddle := toComma.trans toItem
    obtain ⟨rest, values, toAfter, more, beforeNext, notComma, rfl⟩ :=
      inductionHypothesis (toMiddle.settled settled) beforeItem
    refine ⟨_, _, toMiddle.trans toAfter, .item (by simpa using onComma) isItem more, beforeNext,
      notComma, ?_⟩
    rw [List.map_cons, List.append_assoc, List.singleton_append]

/-- Items with commas between them are read as a list. -/
theorem items_of_passes (every : ReadsEvery item shape follows made)
    (beforeComma : follows (.symbol .comma)) (settled : before.Settled) {tokens : List Token}
    {values : List α} (separated : Separated shape tokens values)
    (passed : before.Passes tokens after) (beforeNext : follows after.current.kind)
    (notComma : after.current.kind ≠ .symbol .comma) :
    (item >>= fun first => repeatTurns (itemAfter (.symbol .comma) item) [first]) before =
      .ok (values.map made) after := by
  obtain ⟨isItem, more⟩ := separated
  obtain ⟨behindItem, toItem, onward⟩ := passed.split
  have read := every _ _ _ _ settled toItem isItem (by
    rw [onward.kindAhead]
    exact more.follows beforeComma beforeNext)
  rw [bind_of_ok read, itemsAfter_of_passes proceeds every beforeComma (toItem.settled settled) more
    onward beforeNext notComma, List.map_cons, List.singleton_append]

/-- A list is read just where items stand with commas between them and no comma follows. -/
theorem items_ok_iff (every : ReadsEvery item shape follows made)
    (only : ReadsOnly item shape follows made) (beforeComma : follows (.symbol .comma))
    (settled : before.Settled) {items : List β} :
    (item >>= fun first => repeatTurns (itemAfter (.symbol .comma) item) [first]) before =
        .ok items after ↔
      ∃ tokens values, before.Passes tokens after ∧ Separated shape tokens values ∧
        follows after.current.kind ∧ after.current.kind ≠ .symbol .comma ∧
        items = values.map made := by
  constructor
  · intro read
    obtain ⟨_, behindItem, first, loop⟩ := bind_ok_iff.mp read
    obtain ⟨tokens, value, toItem, isItem, beforeItem, rfl⟩ := only _ _ _ settled first
    obtain ⟨rest, values, toAfter, more, beforeNext, notComma, rfl⟩ :=
      exists_behindCommas proceeds only (toItem.settled settled) beforeItem loop
    exact ⟨_, _, toItem.trans toAfter, .mk isItem more, beforeNext, notComma, rfl⟩
  · rintro ⟨tokens, values, passed, separated, beforeNext, notComma, rfl⟩
    exact items_of_passes proceeds every beforeComma settled separated passed beforeNext notComma

end

end Reading

end SqlSharding
