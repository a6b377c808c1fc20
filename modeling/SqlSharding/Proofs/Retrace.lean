import SqlSharding.Proofs.Echo.Statements
import SqlSharding.Proofs.Outline

/-!
# Readings that mark tables

A reading that marks tables passes a trail: its tokens, of which some are marked. Where the tokens of
another text answer the trail, the marked ones perhaps under new names, the reading succeeds there
too, and what it gives differs in the marks only (`Retraces`). This holds of the outline of every
statement.
-/

namespace SqlSharding

/-- Tokens, each with whether it is marked as the name of a table. -/
abbrev Trail := List (Token × Bool)

/-- The mark that is set at a token. -/
def Token.mark (token : Token) : TableMark := ⟨token.start, token.text⟩

namespace Trail

/-- The tokens of the trail. -/
def tokens (trail : Trail) : List Token := trail.map (·.1)

/-- The marked tokens of the trail. -/
def marked (trail : Trail) : List Token := (trail.filter (·.2)).map (·.1)

/-- A trail without marks. -/
def plain (tokens : List Token) : Trail := tokens.map (·, false)

variable {first second : Trail} {passed : List Token}

/-- The tokens of two trails are those of the trails. -/
@[simp] theorem tokens_append : tokens (first ++ second) = first.tokens ++ second.tokens := by
  simp [tokens]

/-- The marked tokens of two trails are those of the trails. -/
@[simp] theorem marked_append : marked (first ++ second) = first.marked ++ second.marked := by
  simp [marked]

/-- A trail without marks has its tokens. -/
@[simp] theorem tokens_plain : (plain passed).tokens = passed := by
  simp [tokens, plain, Function.comp_def]

/-- A trail without marks has no marked tokens. -/
@[simp] theorem marked_plain : (plain passed).marked = [] := by
  simp [marked, plain]

/-- The marked tokens stand among the tokens in order. -/
theorem marked_sublist (trail : Trail) : List.Sublist trail.marked trail.tokens :=
  List.filter_sublist.map _

/-- What holds of the places of all tokens holds of the positions of the marks. -/
theorem forall_mark {trail : Trail} (holds : Nat → Prop)
    (all : ∀ token ∈ trail.tokens, holds token.start) :
    ∀ mark ∈ trail.marked.map Token.mark, holds mark.position := by
  rw [List.forall_mem_map]
  exact fun token isMarked => all token (trail.marked_sublist.subset isMarked)

/-- The steps before a mark, the token that is marked, and the steps behind it. -/
theorem exists_of_marks {trail : Trail} {first later : List TableMark} {mark : TableMark}
    (marks : trail.marked.map Token.mark = first ++ mark :: later) :
    ∃ (left right : Trail) (token : Token), trail = left ++ (token, true) :: right ∧
      token.mark = mark ∧ left.marked.map Token.mark = first ∧
        right.marked.map Token.mark = later := by
  rw [Trail.marked, List.map_map] at marks
  obtain ⟨firstSteps, rest, filtered, rfl, markedRest⟩ := List.map_eq_append_iff.mp marks
  obtain ⟨⟨token, isMarked⟩, laterSteps, rfl, rfl, rfl⟩ := List.map_eq_cons_iff.mp markedRest
  obtain ⟨left, tail, rfl, leftFiltered, tailFiltered⟩ := List.filter_eq_append_iff.mp filtered
  obtain ⟨skipped, right, rfl, noneMarked, atToken, rightFiltered⟩ :=
    List.filter_eq_cons_iff.mp tailFiltered
  obtain rfl : isMarked = true := atToken
  refine ⟨left ++ skipped, right, token, by simp, rfl, ?_, ?_⟩
  · have noneSkipped : skipped.filter (·.2) = [] :=
      List.filter_eq_nil_iff.mpr noneMarked
    rw [marked_append, Trail.marked, Trail.marked, leftFiltered, noneSkipped, List.map_nil,
      List.append_nil, List.map_map]
  · rw [Trail.marked, rightFiltered, List.map_map]

end Trail

/-- The token answers a step of a trail. -/
def Echo.Answers (echo : Echo) (step : Token × Bool) (answer : Token) : Prop :=
  if step.2 then echo.marked step.1 answer else echo.kept step.1 answer

/-- What answers a trail without marks answers its tokens. -/
theorem Echo.answers_plain_iff {echo : Echo} {tokens answers : List Token} :
    List.Forall₂ echo.Answers (Trail.plain tokens) answers ↔ List.Forall₂ echo.kept tokens answers := by
  rw [Trail.plain, List.forall₂_map_left_iff]
  rfl

/-- The marks of tokens of which one answers the other. -/
def Echo.MarksAlike (echo : Echo) (mark mark' : TableMark) : Prop :=
  ∃ token token', echo.marked token token' ∧ mark = token.mark ∧ mark' = token'.mark

/-- Values that hold marks. -/
class Marked (α : Type) where
  /-- The marks in order. -/
  marks : α → List TableMark
  /-- The values differ in their marks only, which are related in order. -/
  Alike : (TableMark → TableMark → Prop) → α → α → Prop

namespace Marked

instance : Marked Unit := ⟨fun _ => [], fun _ _ _ => True⟩

instance : Marked TableMark := ⟨fun mark => [mark], fun related => related⟩

/-- The references differ in their marks only. -/
def ReferencesAlike (related : TableMark → TableMark → Prop) (left right : TableReference) : Prop :=
  related left.mark right.mark ∧ right.alias? = left.alias?

instance : Marked TableReference := ⟨fun reference => [reference.mark], ReferencesAlike⟩

instance : Marked (List TableReference) :=
  ⟨fun references => references.map (·.mark), fun related => List.Forall₂ (ReferencesAlike related)⟩

instance : Marked (Option TableReference) :=
  ⟨fun reference? => marks reference?.toList,
    fun related left right => Alike related left.toList right.toList⟩

instance : Marked Outline :=
  ⟨fun outline => marks outline.references,
    fun related left right => Alike related left.references right.references ∧
      right.columns = left.columns⟩

/-- Turns that decide the same. -/
inductive TurnsAlike {α : Type} (alike : α → α → Prop) : Turn α → Turn α → Prop
  | again {value value' : α} (isAlike : alike value value') :
      TurnsAlike alike (.again value) (.again value')
  | done {value value' : α} (isAlike : alike value value') :
      TurnsAlike alike (.done value) (.done value')

instance {α : Type} [Marked α] : Marked (Turn α) :=
  ⟨fun | .again value => marks value | .done value => marks value,
    fun related => TurnsAlike (Alike related)⟩

end Marked

/-- Outlines with the same names are the same without places. -/
theorem Outline.withoutPlaces_of_alike {outline outline' : Outline}
    (alike : Marked.Alike TableMark.SameName outline outline') :
    outline'.withoutPlaces = outline.withoutPlaces := by
  obtain ⟨references, columns⟩ := outline
  obtain ⟨references', columns'⟩ := outline'
  obtain ⟨referencesAlike, rfl⟩ := alike
  have same : List.Forall₂ (fun left right : TableReference =>
      left.withoutPlace = right.withoutPlace) references references' := by
    refine referencesAlike.imp ?_
    rintro ⟨mark, alias?⟩ ⟨mark', _⟩ ⟨sameName, rfl⟩
    have sameName : mark'.withoutPlace = mark.withoutPlace := sameName
    rw [TableReference.withoutPlace, TableReference.withoutPlace, sameName]
  have maps : references.map (·.withoutPlace) = references'.map (·.withoutPlace) := by
    rwa [← List.forall₂_eq_eq_eq, List.forall₂_map_left_iff, List.forall₂_map_right_iff]
  simp only [withoutPlaces, maps]

namespace Reading

open Cursor Marked

variable {α β γ : Type} [Marked α] [Marked β] [Marked γ] {echo : Echo} {strict opens : Bool}

/-- Whenever the reading of a value succeeds, it passes a trail, whose marks come after those of the
value; and the reading of a value alike succeeds alike where tokens answer the trail and the token
behind it. If the flag says so, the trail does not begin with a marked token. -/
def Retraces (echo : Echo) (strict opens : Bool) (reading : α → Reading β) : Prop :=
  ∀ input value before after, before.Settled → reading input before = .ok value after →
    ∃ trail : Trail, before.Passes trail.tokens after ∧
      (∀ token ∈ trail.marked, token.kind.isName = true) ∧
      marks value = marks input ++ trail.marked.map Token.mark ∧
      (opens = true → ∀ step ∈ trail.head?, step.2 = false) ∧
      ∀ input' before' after' taken', Alike echo.MarksAlike input input' → before'.Settled →
        List.Forall₂ echo.Answers trail taken' → before'.Passes taken' after' →
        echo.Ahead strict after.current after'.current →
        ∃ value', Alike echo.MarksAlike value value' ∧ reading input' before' = .ok value' after'

/-- Between two passages the token ahead is a token of the second one, or the one behind both. -/
theorem ahead_of_trail {middle after middle' after' : Cursor} {trail : Trail} {taken' : List Token}
    (passed : middle.Passes trail.tokens after) (passed' : middle'.Passes taken' after')
    (names : ∀ token ∈ trail.marked, token.kind.isName = true)
    (plainStart : strict = true → ∀ step ∈ trail.head?, step.2 = false)
    (answers : List.Forall₂ echo.Answers trail taken')
    (ahead : echo.Ahead strict after.current after'.current) :
    echo.Ahead strict middle.current middle'.current := by
  cases answers with
  | nil =>
    rw [← passes_nil_iff.mp passed, ← passes_nil_iff.mp passed']
    exact ahead
  | @cons step answer trail rest isAnswer later =>
    obtain ⟨token, isMarked⟩ := step
    have passedToken : middle.Passes (token :: Trail.tokens trail) after := passed
    rw [passed'.current_eq, passedToken.current_eq]
    cases isMarked with
    | false => exact .same (echo.kind_of_kept isAnswer)
    | true =>
      have loose : strict = false := by
        cases strict with
        | false => rfl
        | true => cases plainStart rfl (token, true) rfl
      have isName : token.kind.isName = true := names token (by simp [Trail.marked])
      rcases echo.kind_of_marked isAnswer isName with kind | isIdentifier
      · exact .same kind
      · exact .renamed loose isName isIdentifier

/-- The token between two readings, of which the first one may look strictly at it if the second one does
not begin with a marked token. -/
theorem ahead_of_trail_within {middle after middle' after' : Cursor} {trail : Trail}
    {taken' : List Token} {strict₁ : Bool} (passed : middle.Passes trail.tokens after)
    (passed' : middle'.Passes taken' after')
    (names : ∀ token ∈ trail.marked, token.kind.isName = true)
    (opening : opens = true → ∀ step ∈ trail.head?, step.2 = false)
    (within : strict₁ = true → strict = true ∧ opens = true)
    (answers : List.Forall₂ echo.Answers trail taken')
    (ahead : echo.Ahead strict after.current after'.current) :
    echo.Ahead strict₁ middle.current middle'.current := by
  cases strict₁ with
  | false => exact ahead_of_trail passed passed' names (by simp) answers ahead.loosen
  | true =>
    obtain ⟨rfl, isPlain⟩ := within rfl
    exact ahead_of_trail passed passed' names (fun _ => opening isPlain) answers ahead

/-- Two trails that begin with no marked token make one. -/
theorem head?_plain_of_append {first second : Trail}
    (start : ∀ step ∈ first.head?, step.2 = false) (later : ∀ step ∈ second.head?, step.2 = false) :
    ∀ step ∈ (first ++ second).head?, step.2 = false := by
  cases first with
  | nil => exact later
  | cons step first => exact start

/-- One reading after another. Where the first one looks strictly at the token behind it, the second
one must not begin with a marked token. -/
theorem Retraces.comp {reading : α → Reading β} {next : β → Reading γ} {strict₁ opens₂ : Bool}
    (starts : Retraces echo strict₁ opens reading) (goesOn : Retraces echo strict opens₂ next)
    (within : strict₁ = true → strict = true ∧ opens₂ = true) (plain : opens = true → opens₂ = true) :
    Retraces echo strict opens fun input => reading input >>= next := by
  intro input value before after settled passed
  obtain ⟨found, middle, start, rest⟩ := bind_ok_iff.mp passed
  obtain ⟨trail, toMiddle, names, marked, opening, again⟩ := starts _ _ _ _ settled start
  obtain ⟨later, toAfter, laterNames, laterMarked, laterOpening, onward⟩ :=
    goesOn _ _ _ _ (toMiddle.settled settled) rest
  refine ⟨trail ++ later, by simpa using toMiddle.trans toAfter, ?_, ?_, ?_, ?_⟩
  · intro token isMarked
    rw [Trail.marked_append, List.mem_append] at isMarked
    exact isMarked.elim (names token) (laterNames token)
  · rw [laterMarked, marked, Trail.marked_append, List.map_append, List.append_assoc]
  · exact fun isPlain => head?_plain_of_append (opening isPlain) (laterOpening (plain isPlain))
  · intro input' before' after' taken' isAlike settled' answers passed' ahead
    obtain ⟨left, right, rfl, leftAnswers, rightAnswers⟩ := exists_of_forall₂_append answers
    obtain ⟨middle', toMiddle', toAfter'⟩ := passed'.split
    have aheadMiddle :=
      ahead_of_trail_within toAfter toAfter' laterNames laterOpening within rightAnswers ahead
    obtain ⟨found', foundAlike, start'⟩ :=
      again _ _ _ _ isAlike settled' leftAnswers toMiddle' aheadMiddle
    obtain ⟨value', valueAlike, rest'⟩ :=
      onward _ _ _ _ foundAlike (toMiddle'.settled settled') rightAnswers toAfter' ahead
    exact ⟨value', valueAlike, bind_ok_iff.mpr ⟨found', middle', start', rest'⟩⟩

/-- A value made of the input. -/
theorem Retraces.value {make : α → β} (marks_make : ∀ input, marks (make input) = marks input)
    (alike_make : ∀ input input', Alike echo.MarksAlike input input' →
      Alike echo.MarksAlike (make input) (make input')) :
    Retraces echo strict opens fun input => pure (make input) := by
  intro input value before after settled passed
  obtain ⟨rfl, rfl⟩ := pure_ok_iff.mp passed
  refine ⟨[], .refl _, by simp [Trail.marked], by simp [marks_make, Trail.marked], by simp, ?_⟩
  intro input' before' after' taken' isAlike _ answers passed' _
  cases answers
  obtain rfl := passes_nil_iff.mp passed'
  exact ⟨make input', alike_make _ _ isAlike, rfl⟩

/-- What always fails retraces. -/
theorem Retraces.unexpected : Retraces echo strict opens fun _ : α => (unexpected : Reading β) := by
  rintro input value before after settled ⟨⟩

/-- A choice retraces if both of its ways do. -/
theorem Retraces.ite {condition : Prop} [Decidable condition] {left right : α → Reading β}
    (whenTrue : Retraces echo strict opens left) (whenFalse : Retraces echo strict opens right) :
    Retraces echo strict opens fun input => if condition then left input else right input := by
  split
  · exact whenTrue
  · exact whenFalse

/-- A reading without marks before a reading. It may look strictly at the token behind it if that is
not marked. -/
theorem Retraces.comp_keeps {δ : Type} {first : Reading δ} {next : δ → α → Reading β} {strict₁ : Bool}
    (keeps : Keeps echo strict₁ first) (goesOn : ∀ found, Retraces echo strict opens (next found))
    (within : strict₁ = true → strict = true ∧ opens = true) :
    Retraces echo strict opens fun input => first >>= fun found => next found input := by
  intro input value before after settled passed
  obtain ⟨found, middle, start, rest⟩ := bind_ok_iff.mp passed
  obtain ⟨taken, toMiddle, again⟩ := keeps _ _ _ settled start
  obtain ⟨trail, toAfter, names, marked, opening, onward⟩ :=
    goesOn found _ _ _ _ (toMiddle.settled settled) rest
  refine ⟨Trail.plain taken ++ trail, by simpa using toMiddle.trans toAfter, by simpa using names,
    by simpa using marked, fun isPlain => head?_plain_of_append ?_ (opening isPlain), ?_⟩
  · cases taken <;> simp [Trail.plain]
  · intro input' before' after' taken' isAlike settled' answers passed' ahead
    obtain ⟨left, right, rfl, leftAnswers, rightAnswers⟩ := exists_of_forall₂_append answers
    obtain ⟨middle', toMiddle', toAfter'⟩ := passed'.split
    have aheadMiddle :=
      ahead_of_trail_within toAfter toAfter' names opening within rightAnswers ahead
    obtain ⟨value', valueAlike, rest'⟩ :=
      onward _ _ _ _ isAlike (toMiddle'.settled settled') rightAnswers toAfter' ahead
    refine ⟨value', valueAlike, bind_ok_iff.mpr ⟨found, middle', ?_, rest'⟩⟩
    exact again _ _ _ settled' (Echo.answers_plain_iff.mp leftAnswers) toMiddle' aheadMiddle

/-- Behind a reading that keeps tokens, what retraces goes on retracing. -/
theorem Retraces.after {δ : Type} {first : Reading δ} {next : δ → α → Reading β}
    (keeps : Keeps echo false first) (goesOn : ∀ found, Retraces echo strict opens (next found)) :
    Retraces echo strict opens fun input => first >>= fun found => next found input :=
  .comp_keeps keeps goesOn (by simp)

/-- Behind a reading that keeps tokens under a strict look, what begins with no marked token goes on
retracing. -/
theorem Retraces.afterStrict {δ : Type} {first : Reading δ} {next : δ → α → Reading β}
    (keeps : Keeps echo true first) (goesOn : ∀ found, Retraces echo true true (next found)) :
    Retraces echo true true fun input => first >>= fun found => next found input :=
  .comp_keeps keeps goesOn (by simp)

/-- A reading behind a token that is skipped may begin with a marked token. -/
theorem Retraces.afterSkip {kinds : List Kind} {whenTrue whenFalse : α → Reading β}
    {opens₁ : Bool} (blind : Echo.Blind kinds) (skipped : Retraces echo strict opens₁ whenTrue)
    (notSkipped : Retraces echo strict opens whenFalse) :
    Retraces echo strict opens fun input =>
      skipIf kinds >>= fun found => if found then whenTrue input else whenFalse input := by
  intro input value before after settled passed
  obtain ⟨found, middle, skip, rest⟩ := bind_ok_iff.mp passed
  rcases (skipIf_ok_iff settled blind.1).mp skip with ⟨rfl, onKind, toMiddle⟩ | ⟨rfl, notOn, rfl⟩
  · obtain ⟨trail, toAfter, names, marked, -, onward⟩ :=
      skipped _ _ _ _ (toMiddle.settled settled) rest
    refine ⟨(before.current, false) :: trail, toMiddle.trans toAfter, names, marked, by simp, ?_⟩
    intro input' before' after' taken' isAlike settled' answers passed' ahead
    cases answers with
    | cons isAnswer later =>
      have isKept : echo.kept before.current _ := isAnswer
      obtain ⟨middle', toMiddle', toAfter'⟩ := passed'.uncons
      obtain ⟨value', valueAlike, rest'⟩ :=
        onward _ _ _ _ isAlike (toMiddle'.settled settled') later toAfter' ahead
      refine ⟨value', valueAlike, bind_ok_iff.mpr ⟨true, middle', ?_, rest'⟩⟩
      exact skipIf_of_passes settled' blind.1 (by rwa [echo.kind_of_kept isKept]) toMiddle'
  · obtain ⟨trail, toAfter, names, marked, opening, onward⟩ := notSkipped _ _ _ _ settled rest
    refine ⟨trail, toAfter, names, marked, opening, ?_⟩
    intro input' before' after' taken' isAlike settled' answers passed' ahead
    obtain ⟨value', valueAlike, rest'⟩ := onward _ _ _ _ isAlike settled' answers passed' ahead
    refine ⟨value', valueAlike, bind_ok_iff.mpr ⟨false, before', ?_, rest'⟩⟩
    have aheadHere : echo.Ahead false middle.current before'.current :=
      ahead_of_trail toAfter passed' names (by simp) answers ahead.loosen
    exact skipIf_of_not_mem settled' blind.1 (aheadHere.not_mem blind notOn)

/-- A loop retraces what its turns retrace. -/
theorem Retraces.repeatTurns {turn : α → Reading (Turn α)} (consumes : Consumes turn)
    (turns : Retraces echo strict opens turn) (plain : strict = true → opens = true) :
    Retraces echo strict opens (repeatTurns turn) := by
  intro input result before after settled passed
  replace passed := turns_of_repeatTurns consumes passed
  induction passed with
  | last done =>
    obtain ⟨trail, passes, names, marked, opening, again⟩ := turns _ _ _ _ settled done
    refine ⟨trail, passes, names, marked, opening, ?_⟩
    intro input' before' after' taken' isAlike settled' answers passed' ahead
    obtain ⟨decision', decisionAlike, done'⟩ := again _ _ _ _ isAlike settled' answers passed' ahead
    cases decisionAlike with
    | done resultAlike => exact ⟨_, resultAlike, (repeatTurns_ok_iff consumes).mpr (.inl done')⟩
  | @again input next before middle taken _ inductionHypothesis =>
    obtain ⟨trail, toMiddle, names, marked, opening, again⟩ := turns _ _ _ _ settled taken
    obtain ⟨later, toAfter, laterNames, laterMarked, laterOpening, onward⟩ :=
      inductionHypothesis (toMiddle.settled settled)
    refine ⟨trail ++ later, by simpa using toMiddle.trans toAfter, ?_, ?_, ?_, ?_⟩
    · intro token isMarked
      rw [Trail.marked_append, List.mem_append] at isMarked
      exact isMarked.elim (names token) (laterNames token)
    · have markedNext : marks next = marks input ++ trail.marked.map Token.mark := marked
      rw [laterMarked, markedNext, Trail.marked_append, List.map_append, List.append_assoc]
    · exact fun isPlain => head?_plain_of_append (opening isPlain) (laterOpening isPlain)
    · intro input' before' after' taken' isAlike settled' answers passed' ahead
      obtain ⟨left, right, rfl, leftAnswers, rightAnswers⟩ := exists_of_forall₂_append answers
      obtain ⟨middle', toMiddle', toAfter'⟩ := passed'.split
      have aheadMiddle := ahead_of_trail toAfter toAfter' laterNames
        (fun isStrict => laterOpening (plain isStrict)) rightAnswers ahead
      obtain ⟨decision', decisionAlike, taken'⟩ :=
        again _ _ _ _ isAlike settled' leftAnswers toMiddle' aheadMiddle
      cases decisionAlike with
      | again nextAlike =>
        obtain ⟨result', resultAlike, rest'⟩ :=
          onward _ _ _ _ nextAlike (toMiddle'.settled settled') rightAnswers toAfter' ahead
        refine ⟨result', resultAlike, (repeatTurns_ok_iff consumes).mpr (.inr ?_)⟩
        exact ⟨_, middle', taken', rest'⟩

/-- What a reading gives is added to the input. -/
theorem Retraces.add {first : Reading β} {make : α → β → γ}
    (starts : Retraces echo strict opens fun _ : Unit => first)
    (marks_make : ∀ input found, marks (make input found) = marks input ++ marks found)
    (alike_make : ∀ input input' found found', Alike echo.MarksAlike input input' →
      Alike echo.MarksAlike found found' →
        Alike echo.MarksAlike (make input found) (make input' found')) :
    Retraces echo strict opens fun input => first >>= fun found => pure (make input found) := by
  intro input value before after settled passed
  obtain ⟨found, middle, start, rest⟩ := bind_ok_iff.mp passed
  obtain ⟨rfl, rfl⟩ := pure_ok_iff.mp rest
  obtain ⟨trail, passes, names, marked, opening, again⟩ := starts () _ _ _ settled start
  have markedFound : marks found = trail.marked.map Token.mark := marked
  refine ⟨trail, passes, names, by rw [marks_make, markedFound], opening, ?_⟩
  intro input' before' after' taken' isAlike settled' answers passed' ahead
  obtain ⟨found', foundAlike, start'⟩ := again () _ _ _ trivial settled' answers passed' ahead
  exact ⟨_, alike_make _ _ _ _ isAlike foundAlike,
    bind_ok_iff.mpr ⟨found', after', start', rfl⟩⟩

/-- The last part of a name may be answered by any name. -/
theorem exists_front_of_moreParts (echo : Echo) {part last : Token} {rest : List Token}
    (more : MoreParts part rest last) (isName : part.kind.isName = true) :
    ∃ front, part :: rest = front ++ [last] ∧ last.kind.isName = true ∧
      ∀ front' last', List.Forall₂ echo.kept front front' → last'.kind.isName = true →
        ∃ part' rest', front' ++ [last'] = part' :: rest' ∧ part'.kind.isName = true ∧
          MoreParts part' rest' last' := by
  induction more with
  | nil =>
    refine ⟨[], rfl, isName, fun front' last' answers isName' => ?_⟩
    cases answers
    exact ⟨last', [], rfl, isName', .nil⟩
  | @part first dot part last rest isDot partIsName _ inductionHypothesis =>
    obtain ⟨front, whole, lastIsName, again⟩ := inductionHypothesis partIsName
    refine ⟨first :: dot :: front, by rw [whole]; rfl, lastIsName, ?_⟩
    intro front' last' answers isName'
    cases answers with
    | @cons _ first' _ _ firstKept answers =>
      cases answers with
      | @cons _ dot' _ front' dotKept answers =>
        obtain ⟨part', rest', whole', partIsName', more'⟩ := again front' last' answers isName'
        refine ⟨first', dot' :: part' :: rest', by rw [← whole']; rfl, ?_, .part ?_ partIsName' more'⟩
        · rwa [echo.kind_of_kept firstKept]
        · rwa [echo.kind_of_kept dotKept]

/-- The name of a table is marked at its last part. -/
theorem retraces_tableMark : Retraces echo false false fun _ : Unit => tableMark := by
  intro _ mark before after settled passed
  obtain ⟨last, middle, read, rest⟩ := bind_ok_iff.mp passed
  obtain ⟨rfl, rfl⟩ := pure_ok_iff.mp rest
  obtain ⟨taken, passes, @⟨first, last, rest, isName, more⟩, notDot⟩ :=
    (qualifiedName_ok_iff settled).mp read
  obtain ⟨front, whole, lastIsName, again⟩ := exists_front_of_moreParts echo more isName
  have tokens : Trail.tokens (Trail.plain front ++ [(last, true)]) = front ++ [last] := by
    rw [Trail.tokens_append, Trail.tokens_plain]
    rfl
  have marked : Trail.marked (Trail.plain front ++ [(last, true)]) = [last] := by
    rw [Trail.marked_append, Trail.marked_plain]
    rfl
  refine ⟨Trail.plain front ++ [(last, true)], by rwa [tokens, ← whole], ?_, by rw [marked]; rfl,
    by simp, ?_⟩
  · rw [marked]
    simpa using lastIsName
  · intro _ before' after' taken' _ settled' answers passed' ahead
    obtain ⟨front', lasts, rfl, frontAnswers, lastAnswers⟩ := exists_of_forall₂_append answers
    cases lastAnswers with
    | @cons _ last' _ _ isMarked later =>
      cases later
      have isMarked : echo.marked last last' := isMarked
      have isName' : last'.kind.isName = true := by
        rcases echo.kind_of_marked isMarked lastIsName with kind | isIdentifier
        · rwa [kind]
        · rw [isIdentifier]
          rfl
      obtain ⟨part', rest', whole', partIsName, more'⟩ :=
        again front' last' (Echo.answers_plain_iff.mp frontAnswers) isName'
      have notDot' : after'.current.kind ∉ [Kind.symbol .dot] :=
        ahead.not_mem (by decide) (by simpa using notDot)
      rw [whole'] at passed'
      have read' := (qualifiedName_ok_iff settled').mpr
        ⟨_, passed', .mk partIsName more', by simpa using notDot'⟩
      exact ⟨last'.mark, ⟨last, last', isMarked, rfl, rfl⟩,
        bind_ok_iff.mpr ⟨last', after', read', rfl⟩⟩

/-- What retraces without a mark at its beginning retraces. -/
theorem Retraces.relax {reading : α → Reading β}
    (retraces : Retraces echo strict true reading) : Retraces echo strict opens reading := by
  intro input value before after settled passed
  obtain ⟨trail, passes, names, marked, opening, again⟩ := retraces _ _ _ _ settled passed
  exact ⟨trail, passes, names, marked, fun _ => opening rfl, again⟩

/-- A table without an alias retraces. -/
theorem retraces_plainTable : Retraces echo strict false fun _ : Unit => plainTable := by
  have reference : Retraces echo strict true fun mark : TableMark =>
      (pure ⟨mark, none⟩ : Reading TableReference) :=
    .value (fun _ => rfl) fun _ _ alike => ⟨alike, rfl⟩
  exact retraces_tableMark.comp reference (by simp) (by simp)

/-- A table with an alias retraces under a strict look, since an identifier ahead would be its alias. -/
theorem retraces_aliasedTable : Retraces echo true false fun _ : Unit => aliasedTable := by
  have withAlias : Retraces echo true true fun mark : TableMark =>
      Reading.alias? >>= fun alias? => (pure ⟨mark, alias?⟩ : Reading TableReference) :=
    .afterStrict keeps_alias? fun _ => .value (fun _ => rfl) fun _ _ alike => ⟨alike, rfl⟩
  exact retraces_tableMark.comp withAlias (by simp) (by simp)

end Reading

end SqlSharding
