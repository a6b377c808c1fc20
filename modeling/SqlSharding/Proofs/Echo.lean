import Mathlib.Data.List.Forall2
import SqlSharding.Proofs.Passage.Naming
import SqlSharding.Proofs.Progress.Statements

/-!
# Readings of echoed tokens

Two texts may hold the same tokens up to their places, up to the texts of tokens that are no names,
and up to some names that are written anew. An `Echo` says when a token of the second text answers one
of the first. A reading that succeeds on the
first text, and looks at nothing but kinds and the texts of names, succeeds on the second one too and
passes the tokens that answer (`Keeps`). Readings that mark tables are left to a later module.
-/

namespace SqlSharding

/-- How the tokens of one text answer the tokens of another. -/
structure Echo where
  /-- The token is kept, perhaps in another place. -/
  kept : Token → Token → Prop
  /-- The token is answered where it is marked as the name of a table. -/
  marked : Token → Token → Prop
  /-- A semicolon may answer the end token. -/
  semicolonEnds : Prop
  kind_of_kept : ∀ {token answer}, kept token answer → answer.kind = token.kind
  text_of_kept : ∀ {token answer}, kept token answer → token.kind.isName = true →
    answer.text = token.text
  kind_of_marked : ∀ {token answer}, marked token answer → token.kind.isName = true →
    answer.kind = token.kind ∨ answer.kind = .literal .identifier

namespace Echo

/-- The second token answers the first one where both are looked at but not passed. Unless the looking
is strict, a name may be answered by an identifier. -/
inductive Ahead (echo : Echo) (strict : Bool) (token answer : Token) : Prop
  | same (kind : answer.kind = token.kind)
  | renamed (loose : strict = false) (isName : token.kind.isName = true)
      (isIdentifier : answer.kind = .literal .identifier)
  | ended (allowed : echo.semicolonEnds) (atEnd : token.kind = .endOfText)
      (onSemicolon : answer.kind = .symbol .semicolon)

/-- Kinds among which neither the end nor an answer to it is, nor what a name is answered by. -/
def Blind (kinds : List Kind) : Prop :=
  .endOfText ∉ kinds ∧ .symbol .semicolon ∉ kinds ∧ .literal .identifier ∉ kinds

instance (kinds : List Kind) : Decidable (Blind kinds) :=
  inferInstanceAs (Decidable (_ ∧ _ ∧ _))

/-- Kinds whose answers are among them too: where the looking is not strict, no name is one. -/
structure Fixed (strict : Bool) (kinds : List Kind) : Prop where
  noEnd : .endOfText ∉ kinds
  noSemicolon : .symbol .semicolon ∉ kinds
  noName : strict = false → ∀ kind ∈ kinds, kind.isName = false

variable {echo : Echo} {strict : Bool} {token answer : Token} {kinds : List Kind}

/-- What answers a token in a strict look answers it in any look. -/
theorem Ahead.loosen (ahead : echo.Ahead strict token answer) : echo.Ahead false token answer := by
  cases ahead with
  | same kind => exact .same kind
  | renamed _ isName isIdentifier => exact .renamed rfl isName isIdentifier
  | ended allowed atEnd onSemicolon => exact .ended allowed atEnd onSemicolon

/-- What answers a token that is not among some kinds is not among them, where a look cannot tell an end
or a name. -/
theorem Ahead.not_mem (ahead : echo.Ahead strict token answer) (blind : Blind kinds)
    (notOn : token.kind ∉ kinds) : answer.kind ∉ kinds := by
  obtain ⟨-, noSemicolon, noIdentifier⟩ := blind
  cases ahead with
  | same kind => rwa [kind]
  | renamed _ _ isIdentifier => rwa [isIdentifier]
  | ended _ _ onSemicolon => rwa [onSemicolon]

/-- A reserved word is no name and not the end, so only itself answers it. -/
theorem Ahead.onReserved (ahead : echo.Ahead strict token answer) {word : ReservedWord}
    (kind : token.kind = .reserved word) : answer.kind = .reserved word := by
  cases ahead with
  | same same => rw [same, kind]
  | renamed _ isName _ => simp [kind, Kind.isName, Kind.isDialectKeyword] at isName
  | ended _ atEnd _ => simp [kind] at atEnd

/-- What answers a token is among fixed kinds exactly when the token is. -/
theorem Ahead.mem_iff (ahead : echo.Ahead strict token answer) (fixed : Fixed strict kinds) :
    answer.kind ∈ kinds ↔ token.kind ∈ kinds := by
  cases ahead with
  | same kind => rw [kind]
  | renamed loose isName isIdentifier =>
    refine iff_of_false (fun onAnswer => ?_) fun onKind => ?_
    · have notName := fixed.noName loose _ onAnswer
      rw [isIdentifier] at notName
      cases notName
    · rw [fixed.noName loose _ onKind] at isName
      cases isName
  | ended _ atEnd onSemicolon =>
    rw [atEnd, onSemicolon]
    exact iff_of_false fixed.noSemicolon fixed.noEnd

end Echo

/-- What answers a list in two parts is a list in two parts that answer them. -/
theorem exists_of_forall₂_append {α β : Type} {related : α → β → Prop} {first second : List α}
    {answers : List β} (all : List.Forall₂ related (first ++ second) answers) :
    ∃ left right, answers = left ++ right ∧ List.Forall₂ related first left ∧
      List.Forall₂ related second right := by
  induction first generalizing answers with
  | nil => exact ⟨[], answers, rfl, .nil, all⟩
  | cons a first inductionHypothesis =>
    rw [List.cons_append] at all
    cases all with
    | cons isRelated later =>
      obtain ⟨left, right, rfl, leftAll, rightAll⟩ := inductionHypothesis later
      exact ⟨_ :: left, right, rfl, .cons isRelated leftAll, rightAll⟩

namespace Reading

open Cursor

variable {α β : Type} {echo : Echo} {strict : Bool} {reading : Reading α} {kinds : List Kind}

/-- Whenever the reading succeeds, it passes tokens, and it succeeds with the same value where tokens
answer these and the token behind them. -/
def Keeps (echo : Echo) (strict : Bool) (reading : Reading α) : Prop :=
  ∀ value before after, before.Settled → reading before = .ok value after →
    ∃ taken, before.Passes taken after ∧
      ∀ before' after' taken', before'.Settled → List.Forall₂ echo.kept taken taken' →
        before'.Passes taken' after' → echo.Ahead strict after.current after'.current →
        reading before' = .ok value after'

/-- Between two passages the token ahead is a token of the second one, or the one behind both. -/
theorem ahead_of_passes {middle after middle' after' : Cursor} {taken taken' : List Token}
    (passed : middle.Passes taken after) (passed' : middle'.Passes taken' after')
    (answers : List.Forall₂ echo.kept taken taken')
    (ahead : echo.Ahead strict after.current after'.current) :
    echo.Ahead strict middle.current middle'.current := by
  cases answers with
  | nil =>
    rw [← passes_nil_iff.mp passed, ← passes_nil_iff.mp passed']
    exact ahead
  | cons isKept later =>
    rw [passed.current_eq, passed'.current_eq]
    exact .same (echo.kind_of_kept isKept)

/-- Where nothing is passed, only the token ahead is answered. -/
theorem exists_nothing_kept {value : α} {cursor : Cursor}
    (again : ∀ cursor' : Cursor, cursor'.Settled → echo.Ahead strict cursor.current cursor'.current →
      reading cursor' = .ok value cursor') :
    ∃ taken, cursor.Passes taken cursor ∧
      ∀ before' after' taken', before'.Settled → List.Forall₂ echo.kept taken taken' →
        before'.Passes taken' after' → echo.Ahead strict cursor.current after'.current →
        reading before' = .ok value after' := by
  refine ⟨[], .refl _, fun before' after' taken' settled' answers passed' ahead => ?_⟩
  cases answers
  obtain rfl := passes_nil_iff.mp passed'
  exact again after' settled' ahead

/-- Where one token is passed, the token under the other cursor answers it. -/
theorem exists_token_kept {value : α} {before after : Cursor}
    (passes : before.Passes [before.current] after)
    (again : ∀ before' after' : Cursor, before'.Settled → echo.kept before.current before'.current →
      before'.Passes [before'.current] after' → reading before' = .ok value after') :
    ∃ taken, before.Passes taken after ∧
      ∀ before' after' taken', before'.Settled → List.Forall₂ echo.kept taken taken' →
        before'.Passes taken' after' → echo.Ahead strict after.current after'.current →
        reading before' = .ok value after' := by
  refine ⟨_, passes, fun before' after' taken' settled' answers passed' _ => ?_⟩
  cases answers with
  | cons isKept later =>
    cases later
    obtain rfl := passed'.current_eq
    exact again before' after' settled' isKept passed'

/-- A value is kept as it is. -/
theorem Keeps.pure (value : α) : Keeps echo strict (pure value) := by
  intro found before after settled passed
  obtain ⟨rfl, rfl⟩ := pure_ok_iff.mp passed
  exact exists_nothing_kept fun _ _ _ => rfl

/-- A sequence keeps tokens if its parts do. -/
theorem Keeps.bind {next : α → Reading β} (starts : Keeps echo strict reading)
    (goesOn : ∀ value, Keeps echo strict (next value)) : Keeps echo strict (reading >>= next) := by
  intro value before after settled passed
  obtain ⟨found, middle, start, rest⟩ := bind_ok_iff.mp passed
  obtain ⟨taken, toMiddle, again⟩ := starts _ _ _ settled start
  obtain ⟨later, toAfter, onward⟩ := goesOn found _ _ _ (toMiddle.settled settled) rest
  refine ⟨taken ++ later, toMiddle.trans toAfter,
    fun before' after' taken' settled' answers passed' ahead => ?_⟩
  obtain ⟨left, right, rfl, leftAnswers, rightAnswers⟩ := exists_of_forall₂_append answers
  obtain ⟨middle', toMiddle', toAfter'⟩ := passed'.split
  refine bind_ok_iff.mpr ⟨found, middle', ?_, ?_⟩
  · exact again _ _ _ settled' leftAnswers toMiddle'
      (ahead_of_passes toAfter toAfter' rightAnswers ahead)
  · exact onward _ _ _ (toMiddle'.settled settled') rightAnswers toAfter' ahead

/-- A choice keeps tokens if both of its ways do. -/
theorem Keeps.ite {condition : Prop} [Decidable condition] {left right : Reading α}
    (whenTrue : Keeps echo strict left) (whenFalse : Keeps echo strict right) :
    Keeps echo strict (if condition then left else right) := by
  split
  · exact whenTrue
  · exact whenFalse

/-- Leaving out its value, a reading keeps what it keeps. -/
theorem Keeps.discard (keeps : Keeps echo strict reading) : Keeps echo strict (discard reading) := by
  intro value before after settled passed
  obtain ⟨found, passed⟩ := discard_ok_iff.mp passed
  obtain ⟨taken, passes, again⟩ := keeps _ _ _ settled passed
  refine ⟨taken, passes, fun before' after' taken' settled' answers passed' ahead => ?_⟩
  exact discard_ok_iff.mpr ⟨found, again _ _ _ settled' answers passed' ahead⟩

/-- A loop keeps what its turns keep. -/
theorem Keeps.repeatTurns {turn : α → Reading (Turn α)} (consumes : Consumes turn)
    (turns : ∀ value, Keeps echo strict (turn value)) (value : α) :
    Keeps echo strict (repeatTurns turn value) := by
  intro result before after settled passed
  replace passed := turns_of_repeatTurns consumes passed
  induction passed with
  | last done =>
    obtain ⟨tokens, passes, again⟩ := turns _ _ _ _ settled done
    refine ⟨tokens, passes, fun before' after' taken' settled' answers passed' ahead => ?_⟩
    exact (repeatTurns_ok_iff consumes).mpr (.inl (again _ _ _ settled' answers passed' ahead))
  | @again value next before middle taken _ inductionHypothesis =>
    obtain ⟨tokens, toMiddle, again⟩ := turns _ _ _ _ settled taken
    obtain ⟨later, toAfter, onward⟩ := inductionHypothesis (toMiddle.settled settled)
    refine ⟨tokens ++ later, toMiddle.trans toAfter,
      fun before' after' taken' settled' answers passed' ahead => ?_⟩
    obtain ⟨left, right, rfl, leftAnswers, rightAnswers⟩ := exists_of_forall₂_append answers
    obtain ⟨middle', toMiddle', toAfter'⟩ := passed'.split
    refine (repeatTurns_ok_iff consumes).mpr (.inr ⟨next, middle', ?_, ?_⟩)
    · exact again _ _ _ settled' leftAnswers toMiddle'
        (ahead_of_passes toAfter toAfter' rightAnswers ahead)
    · exact onward _ _ _ (toMiddle'.settled settled') rightAnswers toAfter' ahead

/-- The reading passes exactly the token under the cursor, whenever that has a certain kind. Its value
depends on the text of names only. -/
theorem Keeps.of_token (accepts : Kind → Prop) (value : String → α)
    (ofName : (∀ kind, accepts kind → kind.isName = true) ∨ ∀ text other, value text = value other)
    (exact : ∀ {before after found}, before.Settled → (reading before = .ok found after ↔
      accepts before.current.kind ∧ found = value before.current.text ∧
        before.Passes [before.current] after)) : Keeps echo strict reading := by
  intro found before after settled passed
  obtain ⟨accepted, rfl, passes⟩ := (exact settled).mp passed
  refine exists_token_kept passes fun before' after' settled' isKept passed' => ?_
  have same := ofName.elim
    (fun named => congrArg value (echo.text_of_kept isKept (named _ accepted)))
    fun constant => constant _ _
  rw [exact settled', echo.kind_of_kept isKept, same]
  exact ⟨accepted, rfl, passed'⟩

/-- Skipping is kept where it is not begun before the answer to a token that is not skipped. -/
theorem keeps_skipIf_of_ahead (notEnd : .endOfText ∉ kinds)
    (stays : ∀ token answer, echo.Ahead strict token answer → token.kind ∉ kinds →
      answer.kind ∉ kinds) : Keeps echo strict (skipIf kinds) := by
  intro skipped before after settled passed
  rcases (skipIf_ok_iff settled notEnd).mp passed with ⟨rfl, onKind, passes⟩ | ⟨rfl, notOn, rfl⟩
  · refine exists_token_kept passes fun before' after' settled' isKept passed' => ?_
    exact skipIf_of_passes settled' notEnd (by rwa [echo.kind_of_kept isKept]) passed'
  · exact exists_nothing_kept fun cursor settled' ahead =>
      skipIf_of_not_mem settled' notEnd (stays _ _ ahead notOn)

/-- Skipping a token keeps it, if no end and no identifier may be skipped. -/
theorem keeps_skipIf (blind : Echo.Blind kinds) : Keeps echo strict (skipIf kinds) :=
  keeps_skipIf_of_ahead blind.1 fun _ _ ahead => ahead.not_mem blind

/-- A token that is demanded is kept. -/
theorem keeps_accept {expected : Kind} (notEnd : expected ≠ .endOfText) :
    Keeps echo strict (discard <| accept expected) := by
  refine Keeps.of_token (· = expected) (fun _ => PUnit.unit) (.inr fun _ _ => rfl) ?_
  intro before after found settled
  rw [discard_ok_iff]
  constructor
  · rintro ⟨token, passed⟩
    obtain ⟨rfl, isExpected, passes⟩ := (accept_ok_iff settled notEnd).mp passed
    exact ⟨isExpected, rfl, passes⟩
  · rintro ⟨isExpected, -, passes⟩
    exact ⟨before.current, (accept_ok_iff settled notEnd).mpr ⟨rfl, isExpected, passes⟩⟩

/-- Whether a token has one of some fixed kinds is kept. -/
theorem keeps_isOn (fixed : Echo.Fixed strict kinds) : Keeps echo strict (isOn kinds) := by
  rintro value before after settled ⟨⟩
  refine exists_nothing_kept fun cursor _ ahead => ?_
  have same : cursor.isOn kinds = before.isOn kinds := by
    rw [Bool.eq_iff_iff, isOn_iff, isOn_iff, ahead.mem_iff fixed]
  rw [isOn, same]

/-- A token that is not refused is kept. -/
theorem keeps_refuse (blind : Echo.Blind kinds) : Keeps echo strict (refuse kinds) := by
  intro value before after settled passed
  obtain ⟨notOn, rfl⟩ := refuse_ok_iff.mp passed
  exact exists_nothing_kept fun cursor _ ahead =>
    refuse_ok_iff.mpr ⟨ahead.not_mem blind notOn, rfl⟩

/-- A turn that begins with a token to skip keeps tokens if its body does. -/
theorem keeps_turnAfter (blind : Echo.Blind kinds) {body : α → Reading α}
    (keeps : ∀ value, Keeps echo strict (body value)) (value : α) :
    Keeps echo strict (turnAfter kinds body value) :=
  .bind (keeps_skipIf blind) fun _ => .ite (.bind (keeps value) fun _ => .pure _) (.pure _)

/-- Skipping all tokens of some kinds keeps them. -/
theorem keeps_skipAll (blind : Echo.Blind kinds) : Keeps echo strict (skipAll kinds) := by
  rw [skipAll_eq]
  exact .repeatTurns (consumes_turnAfter blind.1 fun _ => .pure ())
    (keeps_turnAfter blind fun _ => .pure ()) ()

/-- The end and a semicolon stop this skipping alike. -/
theorem keeps_skipUntil_semicolon : Keeps echo strict (skipUntil [.symbol .semicolon]) := by
  rw [skipUntil_eq]
  refine .repeatTurns (consumes_untilTurn _) (fun _ => ?_) ()
  intro decision before after settled taken
  rw [untilTurn_eq] at taken
  split at taken
  · rename_i stopped
    obtain ⟨rfl, rfl⟩ := pure_ok_iff.mp taken
    rw [isAtEnd_iff, isOn_iff, List.mem_singleton] at stopped
    refine exists_nothing_kept fun cursor _ ahead => ?_
    have stopped' : cursor.isAtEnd = true ∨ cursor.isOn [.symbol .semicolon] = true := by
      rw [isAtEnd_iff, isOn_iff, List.mem_singleton]
      cases ahead with
      | same kind => rwa [kind]
      | renamed _ isName _ =>
        rcases stopped with atEnd | onSemicolon
        · simp [atEnd, Kind.isName, Kind.isDialectKeyword] at isName
        · simp [onSemicolon, Kind.isName, Kind.isDialectKeyword] at isName
      | ended _ _ onSemicolon => exact .inr onSemicolon
    rw [untilTurn_eq, if_pos stopped']
  · rename_i goesOn
    rw [isAtEnd_iff, isOn_iff, List.mem_singleton, not_or] at goesOn
    obtain ⟨_, middle, moved, rest⟩ := bind_ok_iff.mp taken
    obtain ⟨rfl, rfl⟩ := pure_ok_iff.mp rest
    have passes := (advance_ok_iff_of_ne settled goesOn.1).mp moved
    refine exists_token_kept passes fun before' after' _ isKept passed' => ?_
    have kind := echo.kind_of_kept isKept
    rw [untilTurn_eq, if_neg (by simpa [isAtEnd_iff, isOn_iff, kind] using goesOn)]
    exact bind_ok_iff.mpr ⟨(), after', advance_of_passes passed', rfl⟩

/-- What answers tokens that close a group closes the group. -/
theorem closesFrom_of_answers {depth : Nat} {taken taken' : List Token}
    (answers : List.Forall₂ echo.kept taken taken') (closes : ClosesFrom depth taken) :
    ClosesFrom depth taken' := by
  induction answers generalizing depth with
  | nil => exact closes
  | @cons token answer rest rest' isKept later inductionHypothesis =>
    rw [ClosesFrom] at closes ⊢
    rw [echo.kind_of_kept isKept]
    refine ⟨closes.1, ?_⟩
    have closes := closes.2
    split at closes
    · rename_i closed
      subst closes
      cases later
      rw [if_pos closed]
    · rename_i opened
      rw [if_neg opened]
      exact inductionHypothesis closes

/-- A group that is skipped is kept. -/
theorem keeps_skipGroup : Keeps echo strict (discard skipGroup) := by
  rintro ⟨⟩ before after settled passed
  rw [skipGroup_ok_iff settled] at passed
  split at passed
  · rename_i onOpening
    obtain ⟨taken, passes, closes⟩ := passed
    refine ⟨taken, passes, fun before' after' taken' settled' answers passed' _ => ?_⟩
    have onOpening' : before'.current.kind = .symbol .leftParen := by
      cases answers with
      | nil => exact closes.elim
      | cons isKept later =>
        rw [passed'.current_eq, echo.kind_of_kept isKept, ← passes.current_eq, onOpening]
    rw [skipGroup_ok_iff settled', if_pos onOpening']
    exact ⟨taken', passed', closesFrom_of_answers answers closes⟩
  · rename_i notOpening
    obtain rfl := passed
    refine exists_nothing_kept fun cursor settled' ahead => ?_
    have notOpening' : cursor.current.kind ≠ .symbol .leftParen := by
      have notOn : cursor.current.kind ∉ [Kind.symbol .leftParen] :=
        ahead.not_mem (by decide) (by simpa using notOpening)
      simpa using notOn
    rw [skipGroup_ok_iff settled', if_neg notOpening']

/-- An item that is skipped begins with the token under the cursor. -/
theorem skipItem_passes {before after : Cursor} (settled : before.Settled)
    (notEnd : before.current.kind ≠ .endOfText) (passed : skipItem before = .ok () after) :
    ∃ token later, before.Passes (token :: later) after ∧
      ∀ before' after' taken', before'.Settled → List.Forall₂ echo.kept (token :: later) taken' →
        before'.Passes taken' after' → skipItem before' = .ok () after' := by
  by_cases onOpening : before.current.kind = .symbol .leftParen
  · rw [skipItem, isOn_bind, if_pos (by simp [isOn_iff, onOpening]), skipGroup_ok_iff settled,
      if_pos onOpening] at passed
    obtain ⟨taken, passes, closes⟩ := passed
    cases taken with
    | nil => exact closes.elim
    | cons token later =>
      refine ⟨token, later, passes, fun before' after' taken' settled' answers passed' => ?_⟩
      have closes' := closesFrom_of_answers answers closes
      cases answers with
      | cons isKept _ =>
        have onOpening' : before'.current.kind = .symbol .leftParen := by
          rw [passed'.current_eq, echo.kind_of_kept isKept, ← passes.current_eq, onOpening]
        rw [skipItem, isOn_bind, if_pos (by simp [isOn_iff, onOpening']), skipGroup_ok_iff settled',
          if_pos onOpening']
        exact ⟨_, passed', closes'⟩
  · rw [skipItem, isOn_bind, if_neg (by simpa [isOn_iff] using onOpening),
      advance_ok_iff_of_ne settled notEnd] at passed
    refine ⟨_, [], passed, fun before' after' taken' settled' answers passed' => ?_⟩
    cases answers with
    | cons isKept later =>
      cases later
      have notOpening' : before'.current.kind ≠ .symbol .leftParen := by
        rwa [passed'.current_eq, echo.kind_of_kept isKept]
      rw [skipItem, isOn_bind, if_neg (by simpa [isOn_iff] using notOpening')]
      exact advance_of_passes passed'

/-- Whether the stopping of a skipping can be told from what answers a token. -/
structure StopsAlike (strict : Bool) (stops : (afterDot : Bool) → Kind → Bool) : Prop where
  atSemicolon : ∀ afterDot, stops afterDot (.symbol .semicolon) = true
  noName : strict = false → ∀ afterDot kind, stops afterDot kind = true → kind.isName = false

/-- A turn of the skipping of items keeps the item. -/
theorem keeps_itemTurn {stops : (afterDot : Bool) → Kind → Bool} (alike : StopsAlike strict stops)
    (afterDot : Bool) : Keeps echo strict (itemTurn stops afterDot) := by
  intro decision before after settled taken
  rw [itemTurn, current_bind] at taken
  split at taken
  · rename_i stopped
    obtain ⟨rfl, rfl⟩ := pure_ok_iff.mp taken
    refine exists_nothing_kept fun cursor _ ahead => ?_
    have stopped' : cursor.current.kind = .endOfText ∨ stops afterDot cursor.current.kind = true := by
      have stopped : after.current.kind = .endOfText ∨ stops afterDot after.current.kind = true := by
        simpa using stopped
      cases ahead with
      | same kind => rwa [kind]
      | renamed loose isName _ =>
        rcases stopped with atEnd | onStop
        · simp [atEnd, Kind.isName, Kind.isDialectKeyword] at isName
        · rw [alike.noName loose _ _ onStop] at isName
          cases isName
      | ended _ _ onSemicolon => exact .inr (onSemicolon ▸ alike.atSemicolon afterDot)
    rw [itemTurn, current_bind, if_pos (by simpa using stopped')]
    rfl
  · rename_i goesOn
    have goesOn : before.current.kind ≠ .endOfText ∧ stops afterDot before.current.kind = false := by
      simpa using goesOn
    obtain ⟨_, middle, item, rest⟩ := bind_ok_iff.mp taken
    obtain ⟨rfl, rfl⟩ := pure_ok_iff.mp rest
    -- An item has a token, so the kind under the cursor is the same in both texts.
    obtain ⟨token, later, passes, again⟩ := skipItem_passes settled goesOn.1 item
    refine ⟨token :: later, passes, fun before' after' taken' settled' answers passed' _ => ?_⟩
    have item' := again _ _ _ settled' answers passed'
    cases answers with
    | cons isKept _ =>
      have kind : before'.current.kind = before.current.kind := by
        rw [passed'.current_eq, passes.current_eq, echo.kind_of_kept isKept]
      rw [itemTurn, current_bind, kind, if_neg (by simpa using goesOn)]
      exact bind_ok_iff.mpr ⟨(), after', item', rfl⟩

/-- Skipping items keeps them, if the stopping can be told from what answers. -/
theorem keeps_skipItems {stops : (afterDot : Bool) → Kind → Bool} (alike : StopsAlike strict stops) :
    Keeps echo strict (skipItems stops) :=
  .discard (.repeatTurns (consumes_itemTurn stops) (keeps_itemTurn alike) false)

/-- A part of a name is kept with its text. -/
theorem keeps_namePart (value : String → α) :
    Keeps echo strict (namePart >>= fun token => pure (value token.text)) := by
  refine Keeps.of_token (·.isName = true) value (.inl fun _ isName => isName) ?_
  intro before after found settled
  rw [bind_ok_iff]
  simp only [pure_ok_iff]
  constructor
  · rintro ⟨token, middle, read, rfl, rfl⟩
    obtain ⟨rfl, isName, passes⟩ := (namePart_ok_iff settled).mp read
    exact ⟨isName, rfl, passes⟩
  · rintro ⟨isName, rfl, passes⟩
    exact ⟨_, after, (namePart_ok_iff settled).mpr ⟨rfl, isName, passes⟩, rfl, rfl⟩

/-- What answers further parts of a name are further parts, of which the last has the same text. -/
theorem exists_moreParts_of_answers {part part' last : Token} {rest rest' : List Token}
    (more : MoreParts part rest last) (text : part'.text = part.text)
    (kept : List.Forall₂ echo.kept rest rest') :
    ∃ last', last'.text = last.text ∧ MoreParts part' rest' last' := by
  induction more generalizing part' rest' with
  | nil =>
    cases kept
    exact ⟨part', text, .nil⟩
  | part isDot isName _ inductionHypothesis =>
    cases kept with
    | cons dotKept kept =>
      cases kept with
      | cons partKept kept =>
        obtain ⟨last', text, more'⟩ := inductionHypothesis (echo.text_of_kept partKept isName) kept
        refine ⟨last', text, .part ?_ ?_ more'⟩
        · rwa [echo.kind_of_kept dotKept]
        · rwa [echo.kind_of_kept partKept]

/-- A name that is kept has the same last part. -/
theorem exists_dottedName_of_answers {tokens tokens' : List Token} {last : Token}
    (isName : DottedName tokens last) (kept : List.Forall₂ echo.kept tokens tokens') :
    ∃ last', last'.text = last.text ∧ DottedName tokens' last' := by
  obtain ⟨isName, more⟩ := isName
  cases kept with
  | cons firstKept kept =>
    obtain ⟨last', text, more'⟩ :=
      exists_moreParts_of_answers more (echo.text_of_kept firstKept isName) kept
    exact ⟨last', text, .mk (by rwa [echo.kind_of_kept firstKept]) more'⟩

/-- The name of a column is kept. -/
theorem keeps_columnName : Keeps echo strict columnName := by
  intro value before after settled passed
  obtain ⟨last, middle, read, rest⟩ := bind_ok_iff.mp passed
  obtain ⟨rfl, rfl⟩ := pure_ok_iff.mp rest
  obtain ⟨taken, passes, isName, notDot⟩ := (qualifiedName_ok_iff settled).mp read
  refine ⟨taken, passes, fun before' after' taken' settled' answers passed' ahead => ?_⟩
  obtain ⟨last', text, isName'⟩ := exists_dottedName_of_answers isName answers
  have notDot' : after'.current.kind ∉ [Kind.symbol .dot] :=
    ahead.not_mem (by decide) (by simpa using notDot)
  have read' := (qualifiedName_ok_iff settled').mpr ⟨taken', passed', isName', by simpa using notDot'⟩
  exact bind_ok_iff.mpr ⟨last', after', read', by rw [text]; rfl⟩

/-- Whether a name is an alias has to be looked at strictly. -/
theorem keeps_alias? : Keeps echo true Reading.alias? := by
  refine .bind (keeps_skipIf (by decide)) fun _ =>
    .ite (keeps_namePart fun text => some (unquote text)) ?_
  refine .bind (keeps_isOn ⟨by decide, by decide, by simp⟩) fun _ => .ite ?_ (.pure _)
  exact keeps_namePart fun text => some (unquote text)

/-- A move past any token, or at the end, is kept if the end is answered by the end. -/
theorem keeps_advance (endStays : ¬echo.semicolonEnds) : Keeps echo strict advance := by
  rintro ⟨⟩ before after settled passed
  rcases (advance_ok_iff settled).mp passed with passes | ⟨ahead, rfl⟩
  · exact exists_token_kept passes fun _ _ _ _ passed' => advance_of_passes passed'
  · obtain ⟨place, atEnd⟩ := settled.current_of_ahead ahead
    refine exists_nothing_kept fun cursor settled' ahead' => ?_
    have atEnd' : cursor.current.kind = .endOfText := by
      cases ahead' with
      | same kind => rw [kind, atEnd]; rfl
      | renamed _ isName _ => rw [atEnd] at isName; cases isName
      | ended allowed _ _ => exact absurd allowed endStays
    exact (advance_ok_iff settled').mpr (.inr ⟨settled'.ahead_of_end atEnd', rfl⟩)

end Reading

end SqlSharding
