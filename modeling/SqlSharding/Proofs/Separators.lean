import Mathlib.Data.List.Chain
import SqlSharding.Proofs.Groups

/-!
# Separators between tables

What the readings of the tables of a `FROM` pass outside of groups, piece by piece, and how many
separators stand in each piece: none in a table, in its alias and hints or in the condition of a join,
and one in the words that join two tables.
-/

namespace SqlSharding

open Reading (joinKeywords)

/-- The tokens from the cursor on by their kinds, without what stands inside of groups. -/
def Cursor.kindsOutside (cursor : Cursor) : List Kind :=
  (outside 0 cursor.tokens).map (·.1)

/-- The tokens between two tables. -/
def separators : List Kind := .symbol .comma :: joinKeywords

/-- What is left of a group, without what stands inside of it. -/
def groupMarks : List Kind := [.symbol .leftParen, .symbol .rightParen]

/-- The tokens behind which a name must stand. -/
def namers : List Kind := [.reserved .FROM, .reserved .AS, .symbol .dot] ++ separators

/-- A word that joins tables does not stand where a name must stand. -/
def JoinsNoName (first second : Kind) : Prop :=
  first ∈ namers → second ≠ .mySQL .STRAIGHT_JOIN

instance : DecidableRel JoinsNoName := fun _ _ => inferInstanceAs (Decidable (_ → _))

/-- The piece has so many separators, if no word in it stands for something else: a word of a join may
be a name, or what an index hint is for. -/
def Separates (count : Nat) (piece : List Kind) : Prop :=
  .reserved .FOR ∉ piece → piece.IsChain JoinsNoName → piece.countP (· ∈ separators) = count

/-- The piece has so many separators behind a token that a name must follow. -/
def SeparatesNamed (count : Nat) (piece : List Kind) : Prop :=
  ∀ namer ∈ namers, .reserved .FOR ∉ piece → (namer :: piece).IsChain JoinsNoName →
    piece.countP (· ∈ separators) = count

section Separates

variable {piece later : List Kind} {count countLater : Nat} {kind : Kind}

/-- A piece without a separator has none. -/
theorem separates_zero (none : ∀ kind ∈ piece, kind ∉ separators) : Separates 0 piece := by
  intro _ _
  rw [List.countP_eq_zero]
  simpa using none

/-- The separators of two pieces are counted together. -/
theorem Separates.append (left : Separates count piece) (right : Separates countLater later) :
    Separates (count + countLater) (piece ++ later) := by
  intro noPurpose chain
  simp only [List.mem_append, not_or] at noPurpose
  rw [List.countP_append, left noPurpose.1 chain.left_of_append,
    right noPurpose.2 chain.right_of_append]

/-- A piece with so many separators has as many behind a token that a name must follow. -/
theorem Separates.named (separates : Separates count piece) : SeparatesNamed count piece :=
  fun _ _ noPurpose chain => separates noPurpose chain.tail

/-- Behind a token that a name must follow, the separators of two pieces are counted together. -/
theorem SeparatesNamed.append (left : SeparatesNamed count piece)
    (right : Separates countLater later) : SeparatesNamed (count + countLater) (piece ++ later) := by
  intro namer isNamer noPurpose chain
  rw [← List.cons_append] at chain
  simp only [List.mem_append, not_or] at noPurpose
  rw [List.countP_append, left namer isNamer noPurpose.1 chain.left_of_append,
    right noPurpose.2 chain.right_of_append]

/-- A piece behind a token that a name must follow, with that token. -/
theorem SeparatesNamed.cons (separates : SeparatesNamed count piece) (isNamer : kind ∈ namers) :
    Separates (count + if kind ∈ separators then 1 else 0) (kind :: piece) := by
  intro noPurpose chain
  simp only [List.mem_cons, not_or] at noPurpose
  simp [List.countP_cons, separates kind isNamer noPurpose.2 chain]

/-- A name separates nothing. -/
theorem separatesNamed_name (isName : kind.isName = true) : SeparatesNamed 0 [kind] := by
  intro namer isNamer _ chain
  have joinsNoName := (List.isChain_cons_cons.mp chain).1 isNamer
  rw [List.countP_eq_zero]
  simp only [List.mem_singleton, forall_eq, decide_eq_true_eq]
  intro isSeparator
  simp only [separators, joinKeywords, List.mem_cons, List.not_mem_nil, or_false] at isSeparator
  rcases isSeparator with rfl | rfl | rfl
  · cases isName
  · cases isName
  · exact joinsNoName rfl

/-- What an index hint is for is passed over. -/
theorem separates_purpose : Separates count (.reserved .FOR :: piece) :=
  fun noPurpose _ => absurd List.mem_cons_self noPurpose

end Separates

namespace Cursor

variable {before after : Cursor} {taken : List Token}

/-- A token that opens no group is passed by its kind. -/
theorem Passes.kindsOutside_token (passed : before.Passes [before.current] after)
    (notOpen : before.current.kind ≠ .symbol .leftParen) :
    before.kindsOutside = before.current.kind :: after.kindsOutside := by
  rw [kindsOutside, passed.outside_token notOpen]
  rfl

/-- A group is passed by its two parentheses. -/
theorem Passes.kindsOutside_group (passed : before.Passes taken after)
    (onOpening : before.current.kind = .symbol .leftParen) (closes : ClosesFrom 0 taken) :
    before.kindsOutside = .symbol .leftParen :: .symbol .rightParen :: after.kindsOutside := by
  obtain ⟨text, whole⟩ := passed.outside_group onOpening closes
  rw [kindsOutside, whole, onOpening]
  rfl

end Cursor

/-- The value of a turn, whatever it decides. -/
def Turn.value {α : Type} : Turn α → α
  | .again value => value
  | .done value => value

namespace Reading

open Cursor

variable {α β : Type} {kinds piece first second : List Kind}

/-- Whenever the reading succeeds, it passes a piece of what stands outside of groups, and what it gives
and the piece are as asked for. -/
def Leaves (holds : α → List Kind → Prop) (reading : Reading α) : Prop :=
  ∀ value before after, before.Settled → reading before = .ok value after →
    ∃ piece, after.Settled ∧ before.kindsOutside = piece ++ after.kindsOutside ∧ holds value piece

namespace Leaves

variable {holds : α → List Kind → Prop} {reading : Reading α}

/-- A reading leaves what is weaker than what it leaves. -/
theorem mono {holds' : α → List Kind → Prop} (leaves : Leaves holds reading)
    (weaker : ∀ value piece, holds value piece → holds' value piece) : Leaves holds' reading := by
  intro value before after settled passed
  obtain ⟨piece, settledAfter, whole, held⟩ := leaves _ _ _ settled passed
  exact ⟨piece, settledAfter, whole, weaker _ _ held⟩

/-- A value passes no piece. -/
theorem pure {value : α} (held : holds value []) : Leaves holds (pure value) := by
  intro found before after settled passed
  obtain ⟨rfl, rfl⟩ := pure_ok_iff.mp passed
  exact ⟨[], settled, rfl, held⟩

/-- What always fails leaves anything. -/
theorem unexpected : Leaves holds (unexpected : Reading α) := by
  rintro value before after settled ⟨⟩

/-- What is asked for behind a first reading may depend on what that has given and passed. -/
theorem bind {holds' : β → List Kind → Prop} {next : α → Reading β} (starts : Leaves holds reading)
    (goesOn : ∀ value piece, holds value piece →
      Leaves (fun result later => holds' result (piece ++ later)) (next value)) :
    Leaves holds' (reading >>= next) := by
  intro value before after settled passed
  obtain ⟨found, middle, start, rest⟩ := bind_ok_iff.mp passed
  obtain ⟨piece, settledMiddle, whole, held⟩ := starts _ _ _ settled start
  obtain ⟨later, settledAfter, wholeRest, heldRest⟩ := goesOn _ _ held _ _ _ settledMiddle rest
  exact ⟨piece ++ later, settledAfter, by rw [whole, wholeRest, List.append_assoc], heldRest⟩

/-- A choice leaves what both of its ways leave. -/
theorem ite {condition : Prop} [Decidable condition] {whenTrue whenFalse : Reading α}
    (onTrue : condition → Leaves holds whenTrue) (onFalse : ¬condition → Leaves holds whenFalse) :
    Leaves holds (if condition then whenTrue else whenFalse) := by
  split
  · exact onTrue ‹_›
  · exact onFalse ‹_›

/-- Leaving out its value, a reading passes the same piece. -/
theorem discard {passes : List Kind → Prop} {reading : Reading α}
    (leaves : Leaves (fun _ piece => passes piece) reading) :
    Leaves (fun _ piece => passes piece) (discard reading) := by
  intro value before after settled passed
  obtain ⟨found, passed⟩ := discard_ok_iff.mp passed
  exact leaves _ _ _ settled passed

/-- A loop leaves what its turns leave, one after another. -/
theorem repeatTurns {turn : α → Reading (Turn α)} (consumes : Consumes turn)
    {relates : α → α → List Kind → Prop}
    (trans : ∀ value next result piece later, relates value next piece → relates next result later →
      relates value result (piece ++ later))
    (turns : ∀ value, Leaves (fun decision piece => relates value decision.value piece) (turn value))
    (value : α) : Leaves (relates value) (repeatTurns turn value) := by
  intro result before after settled passed
  replace passed := turns_of_repeatTurns consumes passed
  induction passed with
  | last ended => exact turns _ _ _ _ settled ended
  | again taken _ inductionHypothesis =>
    obtain ⟨piece, settledMiddle, whole, held⟩ := turns _ _ _ _ settled taken
    obtain ⟨later, settledAfter, wholeRest, heldRest⟩ := inductionHypothesis settledMiddle
    refine ⟨piece ++ later, settledAfter, ?_, trans _ _ _ _ _ held heldRest⟩
    rw [whole, wholeRest, List.append_assoc]

end Leaves

/-- A look at the token under the cursor passes no piece. -/
theorem leaves_isOn (kinds : List Kind) : Leaves (fun _ piece => piece = []) (isOn kinds) := by
  rintro value before after settled ⟨⟩
  exact ⟨[], settled, rfl, rfl⟩

/-- Skipping a token passes one of the kinds, or nothing where it is told so. -/
theorem leaves_skipIf (ordinary : Ordinary kinds) :
    Leaves (fun found piece => if found then ∃ kind ∈ kinds, piece = [kind] else piece = [])
      (skipIf kinds) := by
  intro found before after settled passed
  rcases (skipIf_ok_iff settled ordinary.1).mp passed with ⟨rfl, onKind, passes⟩ | ⟨rfl, -, rfl⟩
  · have notOpenHere : before.current.kind ≠ .symbol .leftParen :=
      fun isOpen => ordinary.2 (isOpen ▸ onKind)
    exact ⟨[before.current.kind], passes.settled settled, passes.kindsOutside_token notOpenHere,
      _, onKind, rfl⟩
  · exact ⟨[], settled, rfl, rfl⟩

/-- A loop of turns that separate nothing separates nothing. -/
theorem Leaves.loop {turn : α → Reading (Turn α)} (consumes : Consumes turn)
    (turns : ∀ value, Leaves (fun _ => Separates 0) (turn value)) (value : α) :
    Leaves (fun _ => Separates 0) (Reading.repeatTurns turn value) :=
  @Leaves.repeatTurns _ turn consumes (fun _ _ => Separates 0)
    (fun _ _ _ _ _ left right => left.append right) turns value

/-- Of a group its parentheses are left. -/
theorem leaves_group :
    Leaves (fun _ piece => ∀ kind ∈ piece, kind ∈ groupMarks) (discard skipGroup) := by
  intro _ before after settled passed
  rw [skipGroup_ok_iff settled] at passed
  split at passed
  · rename_i onOpening
    obtain ⟨taken, passes, closes⟩ := passed
    exact ⟨groupMarks, passes.settled settled, passes.kindsOutside_group onOpening closes,
      fun _ isIn => isIn⟩
  · subst passed
    exact ⟨[], settled, rfl, by simp⟩

/-- A group has no separator outside of itself. -/
theorem leaves_skipGroup : Leaves (fun _ => Separates 0) (discard skipGroup) :=
  leaves_group.mono fun _ _ areMarks => separates_zero fun kind isIn =>
    (by decide : ∀ kind ∈ groupMarks, kind ∉ separators) kind (areMarks kind isIn)

/-- Skipping a token that is no separator separates nothing. -/
theorem leaves_skipIf_zero (silent : Ordinary kinds ∧ ∀ kind ∈ kinds, kind ∉ separators) :
    Leaves (fun _ => Separates 0) (skipIf kinds) :=
  (leaves_skipIf silent.1).mono fun found piece passes => by
    cases found with
    | true =>
      obtain ⟨kind, isKind, rfl⟩ := passes
      exact separates_zero (by simpa using silent.2 kind isKind)
    | false =>
      obtain rfl : piece = [] := passes
      exact separates_zero (by simp)

/-- One reading after another, of which the first separates nothing. -/
theorem Leaves.seq {reading : Reading α} {next : α → Reading β}
    (starts : Leaves (fun _ => Separates 0) reading)
    (goesOn : ∀ value, Leaves (fun _ => Separates 0) (next value)) :
    Leaves (fun _ => Separates 0) (reading >>= next) :=
  starts.bind fun value _ separates => (goesOn value).mono fun _ _ later => separates.append later

/-- Behind a reading that begins where a name must stand, what has no separators adds none. -/
theorem Leaves.seqNamed {reading : Reading α} {next : α → Reading β}
    (starts : Leaves (fun _ => SeparatesNamed 0) reading)
    (goesOn : ∀ value, Leaves (fun _ => Separates 0) (next value)) :
    Leaves (fun _ => SeparatesNamed 0) (reading >>= next) :=
  starts.bind fun value _ separates => (goesOn value).mono fun _ _ later => separates.append later

/-- What has no separators has none where a name must stand. -/
theorem Leaves.named {reading : Reading α} (leaves : Leaves (fun _ => Separates 0) reading) :
    Leaves (fun _ => SeparatesNamed 0) reading :=
  leaves.mono fun _ _ separates => separates.named

/-- A value has no separators. -/
theorem Leaves.done (value : α) : Leaves (fun _ => Separates 0) (Pure.pure value : Reading α) :=
  .pure (separates_zero (by simp))

/-- A part of a name is no separator where a name must stand. -/
theorem leaves_namePart : Leaves (fun _ => SeparatesNamed 0) namePart := by
  intro token before after settled passed
  obtain ⟨rfl, isName, passes⟩ := (namePart_ok_iff settled).mp passed
  have notOpen : before.current.kind ≠ .symbol .leftParen := by
    intro isOpen
    rw [isOpen] at isName
    cases isName
  exact ⟨[before.current.kind], passes.settled settled, passes.kindsOutside_token notOpen,
    separatesNamed_name isName⟩

/-- A reading behind a token that a name must follow, if it is there. -/
theorem Leaves.ifNamer {kind : Kind} {whenTrue whenFalse : Reading α}
    (isNamer : kind ∈ namers) (noSeparator : kind ∉ separators)
    (onTrue : Leaves (fun _ => SeparatesNamed 0) whenTrue)
    (onFalse : Leaves (fun _ => Separates 0) whenFalse) :
    Leaves (fun _ => Separates 0)
      (skipIf [kind] >>= fun found => if found then whenTrue else whenFalse) := by
  have ordinary : Ordinary [kind] := by
    constructor
    all_goals
      rw [List.mem_singleton]
      rintro rfl
      exact absurd isNamer (by decide)
  refine (leaves_skipIf ordinary).bind fun found piece passes => ?_
  cases found with
  | true =>
    obtain ⟨_, isKind, rfl⟩ := passes
    obtain rfl := List.mem_singleton.mp isKind
    refine onTrue.mono fun _ later separates => ?_
    have whole := separates.cons isNamer
    rwa [if_neg noSeparator] at whole
  | false =>
    obtain rfl : piece = [] := passes
    exact onFalse

/-- The name of a table has no separators where a name must stand. -/
theorem leaves_tableMark : Leaves (fun _ => SeparatesNamed 0) tableMark := by
  have parts (last : Token) : Leaves (fun _ => Separates 0)
      (repeatTurns (turnAfter [.symbol .dot] fun _ => namePart) last) := by
    refine .loop consumes_partTurn (fun last => ?_) last
    exact .ifNamer (by decide) (by decide) (leaves_namePart.seqNamed fun _ => .done _) (.done _)
  rw [tableMark, qualifiedName_eq, bind_assoc]
  exact leaves_namePart.seqNamed fun last => (parts last).seq fun _ => .done _

/-- An alias has no separators. -/
theorem leaves_alias? : Leaves (fun _ => Separates 0) Reading.alias? := by
  refine .ifNamer (by decide) (by decide) (leaves_namePart.seqNamed fun _ => .done _) ?_
  intro value before after settled passed
  rw [isOn_bind] at passed
  split at passed
  · rename_i onIdentifier
    rw [isOn_iff, List.mem_singleton] at onIdentifier
    obtain ⟨token, middle, read, rest⟩ := bind_ok_iff.mp passed
    obtain ⟨rfl, rfl⟩ := pure_ok_iff.mp rest
    obtain ⟨rfl, -, passes⟩ := (namePart_ok_iff settled).mp read
    refine ⟨[before.current.kind], passes.settled settled, ?_, separates_zero ?_⟩
    · exact passes.kindsOutside_token (by simp [onIdentifier])
    · rw [onIdentifier]
      decide
  · exact Leaves.done _ _ _ _ settled passed

/-- Skipping all tokens of some kinds passes a piece of them. -/
theorem leaves_skipAll (ordinary : Ordinary kinds) :
    Leaves (fun _ piece => ∀ kind ∈ piece, kind ∈ kinds) (skipAll kinds) := by
  rw [skipAll_eq]
  refine @Leaves.repeatTurns _ _ (consumes_turnAfter ordinary.1 fun _ => .pure ())
    (fun _ _ piece => ∀ kind ∈ piece, kind ∈ kinds) (fun _ _ _ _ _ left right => ?_) (fun _ => ?_) ()
  · exact fun kind isIn => (List.mem_append.mp isIn).elim (left kind) (right kind)
  · refine (leaves_skipIf ordinary).bind fun found piece passes => ?_
    cases found with
    | true =>
      obtain ⟨kind, isKind, rfl⟩ := passes
      exact .pure (by simpa using isKind)
    | false =>
      obtain rfl : piece = [] := passes
      exact .pure (by simp)

/-- Of items there are left groups, and tokens at which the skipping does not stop. -/
theorem leaves_items (stops : (afterDot : Bool) → Kind → Bool) :
    Leaves (fun _ piece => ∀ kind ∈ piece,
      kind ∈ groupMarks ∨ kind ≠ .endOfText ∧ ∃ afterDot, stops afterDot kind = false)
      (skipItems stops) := by
  rw [skipItems_eq]
  refine .discard (@Leaves.repeatTurns _ _ (consumes_itemTurn stops)
    (fun _ _ piece => ∀ kind ∈ piece, kind ∈ groupMarks ∨
      kind ≠ .endOfText ∧ ∃ afterDot, stops afterDot kind = false)
    (fun _ _ _ _ _ left right => ?_) (fun afterDot => ?_) false)
  · exact fun kind isIn => (List.mem_append.mp isIn).elim (left kind) (right kind)
  · intro decision before after settled passed
    rw [itemTurn, current_bind] at passed
    split at passed
    · obtain ⟨-, rfl⟩ := pure_ok_iff.mp passed
      exact ⟨[], settled, rfl, by simp⟩
    · rename_i goesOn
      simp only [Bool.or_eq_true, decide_eq_true_eq, not_or] at goesOn
      obtain ⟨_, middle, item, rest⟩ := bind_ok_iff.mp passed
      obtain ⟨-, rfl⟩ := pure_ok_iff.mp rest
      rw [skipItem, isOn_bind] at item
      split at item
      · obtain ⟨piece, settledAfter, whole, areMarks⟩ := leaves_group _ _ _ settled item
        exact ⟨piece, settledAfter, whole, fun kind isIn => .inl (areMarks kind isIn)⟩
      · rename_i notOpen
        rw [advance_ok_iff_of_ne settled goesOn.1] at item
        refine ⟨[before.current.kind], item.settled settled, ?_, ?_⟩
        · exact item.kindsOutside_token (by simpa [isOn_iff] using notOpen)
        · intro kind isIn
          obtain rfl := List.mem_singleton.mp isIn
          exact .inr ⟨goesOn.1, afterDot, by simpa using goesOn.2⟩

/-- Items up to a separator at the latest separate nothing. -/
theorem leaves_skipItems {stops : (afterDot : Bool) → Kind → Bool}
    (atSeparators : ∀ afterDot, ∀ kind ∈ separators, stops afterDot kind = true) :
    Leaves (fun _ => Separates 0) (skipItems stops) := by
  refine (leaves_items stops).mono fun _ _ areItems => separates_zero fun kind isIn isSeparator => ?_
  rcases areItems kind isIn with isMark | ⟨-, afterDot, goesOn⟩
  · exact (by decide : ∀ kind ∈ groupMarks, kind ∉ separators) kind isMark isSeparator
  · rw [atSeparators afterDot kind isSeparator] at goesOn
    cases goesOn

/-- An index hint has no separators. -/
theorem leaves_indexHint : Leaves (fun _ => Separates 0) indexHint := by
  refine (Leaves.discard (leaves_skipIf_zero (by decide))).seq fun _ => ?_
  refine (leaves_skipIf (by decide)).bind fun found piece passes => ?_
  cases found with
  | true =>
    obtain ⟨_, isPurpose, rfl⟩ := passes
    obtain rfl := List.mem_singleton.mp isPurpose
    -- The word `JOIN` may stand behind `FOR`, where it joins nothing: such a piece is not counted.
    refine (leaves_skipAll (by decide)).bind fun _ _ _ => ?_
    exact leaves_skipGroup.mono fun _ _ _ => separates_purpose
  | false =>
    obtain rfl : piece = [] := passes
    exact leaves_skipGroup

/-- The hints behind a table have no separators. -/
theorem leaves_skipTableHints (grammar : Grammar) :
    Leaves (fun _ => Separates 0) grammar.skipTableHints := by
  cases grammar with
  | mySQL =>
    rw [Grammar.skipTableHints, skipIndexHints_eq]
    refine .loop consumes_indexHints (fun _ => ?_) ()
    exact (leaves_skipIf_zero (by decide)).seq fun _ =>
      .ite (fun _ => leaves_indexHint.seq fun _ => .done _) fun _ => .done _
  | sqlServer =>
    exact (leaves_skipIf_zero (by decide)).seq fun _ =>
      .ite (fun _ => leaves_skipGroup) fun _ => .done ()
  | oracle => exact .done ()
  | postgreSQL => exact .done ()

/-- A table of a query has no separators where a name must stand. -/
theorem leaves_tableFactor (grammar : Grammar) :
    Leaves (fun _ => SeparatesNamed 0) (tableFactor grammar) := by
  refine (leaves_isOn _).bind fun onOpening _ none => ?_
  subst none
  refine .ite (fun _ => ?_) fun _ => ?_
  · exact (leaves_skipGroup.seq fun _ => leaves_alias?.discard.seq fun _ => .done _).named
  · refine (leaves_skipIf (by decide)).bind fun isDual piece passes => ?_
    cases isDual with
    | true =>
      obtain ⟨kind, isName, rfl⟩ := passes
      refine .pure (separates_zero ?_).named
      simpa using (by decide : ∀ kind ∈ dualNames, kind ∉ separators) kind isName
    | false =>
      obtain rfl : piece = [] := passes
      rw [aliasedTable, bind_assoc]
      refine leaves_tableMark.seqNamed fun _ => ?_
      rw [bind_assoc]
      exact leaves_alias?.seq fun _ => (leaves_skipTableHints grammar).seq fun _ => .done _

/-- Moving past the words that join two tables passes one separator, which is the last of them. -/
theorem leaves_skipJoinType :
    Leaves (fun found piece =>
      if found then ∃ modifiers, ∃ word ∈ joinKeywords, Separates 0 modifiers ∧
        piece = modifiers ++ [word]
      else piece = []) skipJoinType := by
  refine (leaves_isOn _).bind fun onJoin _ none => ?_
  subst none
  refine .ite (fun _ => ?_) fun _ => .pure rfl
  refine (leaves_skipAll (by decide)).bind fun _ modifiers areModifiers => ?_
  refine (leaves_skipIf (by decide)).bind fun found piece passes => ?_
  cases found with
  | true =>
    obtain ⟨word, isWord, rfl⟩ := passes
    refine .pure ⟨modifiers, word, isWord, separates_zero fun kind isIn => ?_, by simp⟩
    exact (by decide : ∀ kind ∈ joinModifiers, kind ∉ separators) kind (areModifiers kind isIn)
  | false => exact .unexpected

/-- The condition of a join has no separators. -/
theorem leaves_skipJoinCondition : Leaves (fun _ => Separates 0) skipJoinCondition := by
  refine (leaves_skipIf_zero (by decide)).seq fun _ =>
    .ite (fun _ => leaves_skipGroup) fun _ => ?_
  refine (leaves_skipIf_zero (by decide)).seq fun _ =>
    .ite (fun _ => leaves_skipItems ?_) fun _ => .done ()
  decide

end Reading

end SqlSharding
