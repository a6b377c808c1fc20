import SqlSharding.Proofs.Query

/-!
# Dialect words in join conditions

A dialect word may begin a clause behind the tables or be a column of a join condition. The condition is
taken to go on just if the word stands directly behind a dot. So a condition is passed whole if all of its
dialect words are qualified, and otherwise it is left before the first one that is not.
-/

namespace SqlSharding

open Reading

/-- Whether a token outside of groups ends a join condition in every dialect. -/
def endsAnyCondition (_afterDot : Bool) (kind : Kind) : Bool :=
  (conditionTerminators ++ joinModifiers ++ joinKeywords).contains kind

/-- The dialect words outside of groups that do not stand directly behind a dot. -/
def unqualifiedWords : (depth : Nat) → (afterDot : Bool) → List Token → List Token
  | _, _, [] => []
  | depth, afterDot, token :: rest =>
    let later := unqualifiedWords (depthAfter depth token.kind) (token.kind = .symbol .dot) rest
    if depth = 0 ∧ afterDot = false ∧ token.kind ∈ dialectClauses then token :: later else later

/-- Every dialect word of the condition, but for those in groups, stands directly behind a dot. -/
def Qualified (condition : List Token) : Prop :=
  unqualifiedWords 0 false condition = []

instance : DecidablePred Qualified := fun _ => inferInstanceAs (Decidable (_ = []))

namespace Run

variable {stops weaker : (afterDot : Bool) → Kind → Bool} {tokens later : List Token}
  {afterDot middle endsInDot : Bool}

/-- Items behind items that stop nothing are items that stop nothing. -/
theorem append (left : Run stops afterDot tokens middle) (right : Run stops middle later endsInDot) :
    Run stops afterDot (tokens ++ later) endsInDot := by
  induction left with
  | nil => exact right
  | token notEnd notOpen goesOn _ inductionHypothesis =>
    exact .token notEnd notOpen goesOn (inductionHypothesis right)
  | group isGroup goesOn _ inductionHypothesis =>
    rw [List.append_assoc]
    exact .group isGroup goesOn (inductionHypothesis right)

/-- What stops at less has the run as well. -/
theorem mono (less : ∀ afterDot kind, weaker afterDot kind = true → stops afterDot kind = true)
    (isRun : Run stops afterDot tokens endsInDot) : Run weaker afterDot tokens endsInDot := by
  have goesOn {afterDot : Bool} {kind : Kind} (goesOn : stops afterDot kind = false) :
      weaker afterDot kind = false :=
    Bool.eq_false_iff.mpr fun stopped => Bool.false_ne_true (goesOn ▸ less afterDot kind stopped)
  induction isRun with
  | nil => exact .nil
  | token notEnd notOpen onward _ inductionHypothesis =>
    exact .token notEnd notOpen (goesOn onward) inductionHypothesis
  | group isGroup onward _ inductionHypothesis =>
    exact .group isGroup (goesOn onward) inductionHypothesis

end Run

section Qualified

variable {stops : (afterDot : Bool) → Kind → Bool} {token : Token}
  {tokens rest : List Token} {afterDot endsInDot : Bool} {depth : Nat}

/-- Up to the end of a group no word counts. -/
theorem unqualifiedWords_of_closesFrom (closes : ClosesFrom depth tokens) (opened : depth ≠ 0) :
    unqualifiedWords depth afterDot (tokens ++ rest) = unqualifiedWords 0 false rest := by
  induction tokens generalizing depth afterDot with
  | nil => exact closes.elim
  | cons token tokens inductionHypothesis =>
    obtain ⟨-, closes⟩ := closes
    rw [List.cons_append, unqualifiedWords, if_neg (by simp [opened])]
    split at closes
    · rename_i closed
      have isClosing : token.kind ≠ .symbol .dot := by
        intro isDot
        rw [isDot] at closed
        exact opened closed
      rw [closes, closed, decide_eq_false isClosing, List.nil_append]
    · rename_i stillOpen
      exact inductionHypothesis closes stillOpen

/-- What stands in a group does not count. -/
theorem unqualifiedWords_of_group (isGroup : Group tokens) :
    unqualifiedWords 0 afterDot (tokens ++ rest) = unqualifiedWords 0 false rest := by
  have closes := isGroup.closesFrom
  obtain ⟨opens, -, -⟩ := isGroup
  obtain ⟨-, closes⟩ := closes
  have behind : depthAfter 0 (.symbol .leftParen) = 1 := rfl
  rw [opens, behind, if_neg Nat.one_ne_zero] at closes
  rw [List.cons_append, unqualifiedWords, if_neg (by simp [opens, dialectClauses]), opens, behind]
  exact unqualifiedWords_of_closesFrom closes Nat.one_ne_zero

/-- Outside of groups a dialect word counts unless a dot stands directly before it. -/
theorem unqualifiedWords_cons (notOpen : token.kind ≠ .symbol .leftParen) (tokens : List Token) :
    unqualifiedWords 0 afterDot (token :: tokens) =
      (if afterDot = false ∧ token.kind ∈ dialectClauses then [token] else []) ++
        unqualifiedWords 0 (token.kind = .symbol .dot) tokens := by
  have same : depthAfter 0 token.kind = 0 := by
    unfold depthAfter
    split <;> simp_all
  rw [unqualifiedWords, same]
  simp only [true_and]
  split <;> rfl

/-- A condition ends where it does in every dialect, and at a dialect word that has no dot before it. -/
theorem endsCondition_eq (afterDot : Bool) (kind : Kind) :
    endsCondition afterDot kind =
      (endsAnyCondition afterDot kind || !afterDot && dialectClauses.contains kind) := rfl

/-- No dialect word that counts stands in what is skipped as a condition. -/
theorem unqualifiedWords_of_endsCondition (isRun : Run endsCondition afterDot tokens endsInDot) :
    unqualifiedWords 0 afterDot tokens = [] := by
  induction isRun with
  | nil => rfl
  | token _ notOpen goesOn _ inductionHypothesis =>
    rw [unqualifiedWords_cons notOpen, inductionHypothesis, if_neg, List.append_nil]
    rintro ⟨rfl, isWord⟩
    simp [endsCondition_eq, isWord] at goesOn
  | group isGroup _ _ inductionHypothesis =>
    rwa [unqualifiedWords_of_group isGroup]

/-- The condition is passed whole if every dialect word is qualified. -/
theorem run_endsCondition_iff (isRun : Run endsAnyCondition afterDot tokens endsInDot) :
    Run endsCondition afterDot tokens endsInDot ↔ unqualifiedWords 0 afterDot tokens = [] := by
  refine ⟨unqualifiedWords_of_endsCondition, fun none => ?_⟩
  induction isRun with
  | nil => exact .nil
  | @token afterDot _ token _ notEnd notOpen goesOn _ inductionHypothesis =>
    rw [unqualifiedWords_cons notOpen, List.append_eq_nil_iff] at none
    refine .token notEnd notOpen ?_ (inductionHypothesis none.2)
    have qualified : (!afterDot && dialectClauses.contains token.kind) = false := by
      cases afterDot with
      | true => rfl
      | false => simpa using none.1
    rw [endsCondition_eq, goesOn, qualified]
    rfl
  | @group afterDot _ _ _ isGroup goesOn _ inductionHypothesis =>
    rw [unqualifiedWords_of_group isGroup] at none
    refine .group isGroup ?_ (inductionHypothesis none)
    cases afterDot <;> decide

/-- Before the first word that is not qualified, the condition is passed. -/
theorem exists_unqualified (isRun : Run endsAnyCondition afterDot tokens endsInDot)
    (unqualified : unqualifiedWords 0 afterDot tokens ≠ []) :
    ∃ front word back, tokens = front ++ word :: back ∧ Run endsCondition afterDot front false ∧
      word.kind ∈ dialectClauses ∧ Run endsAnyCondition false (word :: back) endsInDot := by
  induction isRun with
  | nil => exact absurd rfl unqualified
  | @token afterDot _ token rest notEnd notOpen goesOn later inductionHypothesis =>
    by_cases isFirst : afterDot = false ∧ token.kind ∈ dialectClauses
    · obtain ⟨rfl, isWord⟩ := isFirst
      exact ⟨[], token, rest, rfl, .nil, isWord, .token notEnd notOpen goesOn later⟩
    · rw [unqualifiedWords_cons notOpen, if_neg isFirst, List.nil_append] at unqualified
      obtain ⟨front, word, back, rfl, isFront, isWord, isBack⟩ := inductionHypothesis unqualified
      have onward : endsCondition afterDot token.kind = false := by
        rw [endsCondition_eq, goesOn, Bool.false_or]
        cases afterDot with
        | true => rfl
        | false => simpa using isFirst
      exact ⟨_, word, back, rfl, .token notEnd notOpen onward isFront, isWord, isBack⟩
  | @group afterDot _ group rest isGroup goesOn _ inductionHypothesis =>
    rw [unqualifiedWords_of_group isGroup] at unqualified
    obtain ⟨front, word, back, rfl, isFront, isWord, isBack⟩ := inductionHypothesis unqualified
    have onward : endsCondition afterDot (.symbol .leftParen) = false := by cases afterDot <;> decide
    exact ⟨group ++ front, word, back, (List.append_assoc ..).symm, .group isGroup onward isFront,
      isWord, isBack⟩

end Qualified

namespace Reading

open Cursor

variable {before after : Cursor} {word : Token} {condition : List Token} {endsInDot : Bool}

/-- Before the first word that is not qualified the condition is taken to end. -/
theorem exists_skipJoinCondition_of_not_qualified (settled : before.Settled)
    (isWord : word.kind = .reserved .ON) (isRun : Run endsAnyCondition false condition endsInDot)
    (passed : before.Passes (word :: condition) after) (unqualified : ¬Qualified condition) :
    ∃ (front back : List Token) (middle : Cursor), before.Passes (word :: front) middle ∧
      middle.Passes back after ∧ back ≠ [] ∧ middle.current.kind ∈ dialectClauses ∧
        Run endsAnyCondition false back endsInDot ∧ skipJoinCondition before = .ok () middle := by
  obtain ⟨front, first, back, rfl, isFront, isClause, isBack⟩ := exists_unqualified isRun unqualified
  change before.Passes ((word :: front) ++ first :: back) after at passed
  obtain ⟨middle, toMiddle, onward⟩ := passed.split
  obtain rfl := onward.current_eq
  have isCondition : JoinCondition middle.current.kind (word :: front) :=
    .condition isWord isFront (.inr (by simp [endsCondition, isClause]))
  exact ⟨front, _, middle, toMiddle, onward, List.cons_ne_nil _ _, isClause, isBack,
    skipJoinCondition_of_passes settled isCondition toMiddle⟩

/-- A condition up to a token that ends it in every dialect is passed just if its dialect words are
qualified. -/
theorem skipJoinCondition_iff (settled : before.Settled) (isWord : word.kind = .reserved .ON)
    (isRun : Run endsAnyCondition false condition endsInDot)
    (passed : before.Passes (word :: condition) after)
    (stopped : after.current.kind = .endOfText ∨ endsAnyCondition endsInDot after.current.kind = true) :
    skipJoinCondition before = .ok () after ↔ Qualified condition := by
  constructor
  · intro skipped
    refine Decidable.by_contra fun unqualified => ?_
    obtain ⟨front, back, middle, -, onward, notNil, -, -, alsoSkipped⟩ :=
      exists_skipJoinCondition_of_not_qualified settled isWord isRun passed unqualified
    obtain ⟨-, rfl⟩ := EStateM.Result.ok.inj (skipped.symm.trans alsoSkipped)
    exact notNil (onward.taken_unique (.refl after))
  · intro qualified
    refine skipJoinCondition_of_passes settled ?_ passed
    refine .condition isWord ((run_endsCondition_iff isRun).mpr qualified) (stopped.imp_right ?_)
    intro ends
    rw [endsCondition_eq, ends, Bool.true_or]

end Reading

end SqlSharding
