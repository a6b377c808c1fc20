import SqlSharding.Proofs.Composition.Moves

/-!
# Where readings fail

A reading that fails blames the token under the cursor it leaves, or a fault of the text. No parser
that is past the first word of its statement fails for a reason of dispatching.
-/

namespace SqlSharding

/-- The cause arises with the cursor where it stands: it blames the token under the cursor or, where no
token can be read, the text. It is no cause of dispatching, and a word that begins a statement is never
missed. -/
def ParseError.ArisesAt (cursor : Cursor) : ParseError → Prop
  | unsupportedClassification _ | unsupportedKeyword _ | unsupportedDialect .. => False
  | unsupportedStatement _ object => object = cursor.current.text
  | unsupportedToken token | unexpectedToken token => token = cursor.current
  | expectedToken expected actual =>
    actual = cursor.current ∧ actual.kind ≠ expected ∧ expected ∉ leadingKinds
  | illegalInput _ => True

/-- The cause blames the token under the cursor. Where another kind of token has to stand, it is one of
those that are expected. -/
def ParseError.Blames (expects : Kind → Prop) (cursor : Cursor) : ParseError → Prop
  | unsupportedStatement _ object => object = cursor.current.text
  | unsupportedToken token | unexpectedToken token => token = cursor.current
  | expectedToken expected actual =>
    actual = cursor.current ∧ actual.kind ≠ expected ∧ expects expected
  | unsupportedClassification _ | unsupportedKeyword _ | unsupportedDialect .. | illegalInput _ => False

/-- A cause that blames the token under the cursor, and misses no first word, arises there. -/
theorem ParseError.Blames.arisesAt {cursor : Cursor} {cause : ParseError}
    (blames : cause.Blames (· ∉ leadingKinds) cursor) : cause.ArisesAt cursor := by
  cases cause with
  | illegalInput fault => trivial
  | _ => exact blames

namespace Reading

variable {α β : Type} {before after : Cursor} {cause : ParseError}

/-- Leaving out its value, a reading fails as it does. -/
theorem discard_error_iff {reading : Reading α} :
    (discard reading) before = .error cause after ↔ reading before = .error cause after := by
  simp only [discard, Functor.discard, Functor.mapConst, EStateM.map, Function.comp, Function.const]
  cases reading before <;> simp

/-- From where a property holds, the reading passes to where it holds or fails for a cause that is
related to where it fails. -/
structure Maintains (holds : Cursor → Prop) (fault : ParseError → Cursor → Prop) (reading : Reading α) :
    Prop where
  passes : ∀ {before value after}, holds before → reading before = .ok value after → holds after
  fails : ∀ {before cause after}, holds before → reading before = .error cause after →
    fault cause after

namespace Maintains

variable {holds : Cursor → Prop} {fault : ParseError → Cursor → Prop}

/-- A value maintains every property. -/
theorem pure (value : α) : Maintains holds fault (pure value) where
  passes holdsBefore passed := (pure_ok_iff.mp passed).2 ▸ holdsBefore
  fails _ failed := by cases failed

/-- A sequence maintains a property if its parts do. -/
theorem bind {first : Reading α} {next : α → Reading β} (starts : Maintains holds fault first)
    (goesOn : ∀ value, Maintains holds fault (next value)) : Maintains holds fault (first >>= next) where
  passes holdsBefore passed := by
    obtain ⟨found, middle, start, rest⟩ := bind_ok_iff.mp passed
    exact (goesOn found).passes (starts.passes holdsBefore start) rest
  fails holdsBefore failed := by
    rcases bind_error_iff.mp failed with failed | ⟨found, middle, start, failed⟩
    · exact starts.fails holdsBefore failed
    · exact (goesOn found).fails (starts.passes holdsBefore start) failed

/-- A loop maintains a property if its turns do. -/
theorem repeatTurns {turn : α → Reading (Turn α)} (turns : ∀ value, Maintains holds fault (turn value))
    (value : α) : Maintains holds fault (repeatTurns turn value) := by
  have within : ∀ bound value, Maintains holds fault (repeatWithin turn bound value) := by
    intro bound
    induction bound with
    | zero => exact fun value => .pure value
    | succ bound inductionHypothesis =>
      intro value
      refine .bind (turns value) fun decision => ?_
      cases decision with
      | done result => exact .pure result
      | again next => exact inductionHypothesis next
  exact ⟨(within _ value).passes, (within _ value).fails⟩

/-- What every basic reading keeps is kept by all that is put together from them. -/
theorem of_composed {basic : ∀ α : Type, Reading α → Prop}
    (each : ∀ {α : Type} {reading : Reading α}, basic α reading → Maintains holds fault reading)
    {reading : Reading α} (composed : Composed basic reading) : Maintains holds fault reading := by
  induction composed with
  | basic isBasic => exact each isBasic
  | pure value => exact .pure value
  | bind _ _ starts goesOn => exact .bind starts goesOn
  | repeatTurns _ value turns => exact .repeatTurns turns value

end Maintains

/-- A move to the next token keeps the ending of the text. -/
theorem ending_of_advance (moved : advance before = .ok () after) :
    after.ahead.ending = before.ahead.ending := by
  obtain ⟨dialect, text, current, ⟨tokens, ending⟩⟩ := before
  cases tokens with
  | cons token later =>
    cases moved
    rfl
  | nil =>
    cases ending with
    | finished =>
      cases moved
      rfl
    | blocked fault => cases moved
    | unclosed fault last => cases moved

/-- A move to the next token fails for the fault that ends the text. Ahead is then the fault again, or
the end of the text. -/
theorem exists_fault_of_advance (failed : advance before = .error cause after) :
    ∃ fault, cause = .illegalInput fault ∧
      (before.ahead.ending = .blocked fault ∧ after.ahead = ⟨[], .blocked fault⟩ ∨
        ∃ last, before.ahead.ending = .unclosed fault last ∧ after.ahead = ⟨[last], .finished⟩) := by
  obtain ⟨dialect, text, current, ⟨tokens, ending⟩⟩ := before
  cases tokens with
  | cons token later => cases failed
  | nil =>
    cases ending with
    | finished => cases failed
    | blocked fault =>
      cases failed
      exact ⟨fault, rfl, .inl ⟨rfl, rfl⟩⟩
    | unclosed fault last =>
      cases failed
      exact ⟨fault, rfl, .inr ⟨last, rfl, rfl⟩⟩

/-- Where a token is demanded, it is moved past, or the token under the cursor is blamed. -/
theorem accept_error_iff {expected : Kind} :
    accept expected before = .error cause after ↔
      (before.current.kind = expected ∧ advance before = .error cause after) ∨
        (before.current.kind ≠ expected ∧ cause = .expectedToken expected before.current ∧
          after = before) := by
  rw [accept, current_bind]
  by_cases onKind : before.current.kind = expected
  · rw [if_pos onKind, bind_error_iff]
    simp [onKind, pure, EStateM.pure]
  · have threw : (throw (.expectedToken expected before.current) : Reading Token) before =
        .error (.expectedToken expected before.current) before := rfl
    rw [if_neg onKind, threw]
    simp [onKind, eq_comm]

/-- A token that is accepted is moved past. -/
theorem advance_of_accept {expected : Kind} {token : Token}
    (passed : accept expected before = .ok token after) : advance before = .ok () after := by
  rw [accept, current_bind] at passed
  split at passed
  · obtain ⟨_, middle, moved, rest⟩ := bind_ok_iff.mp passed
    obtain ⟨-, rfl⟩ := pure_ok_iff.mp rest
    exact moved
  · cases passed

/-- A token is refused exactly where it has one of the kinds, and it is the token that is blamed. -/
theorem refuse_error_iff {kinds : List Kind} :
    refuse kinds before = .error cause after ↔
      before.isOn kinds = true ∧ cause = .unsupportedToken before.current ∧ after = before := by
  rw [refuse]
  by_cases isOn : before.isOn kinds = true
  · simp [isOn, eq_comm]
  · simp [isOn]

/-- A token of a group cannot be read where it is the end, or where a fault comes behind it. -/
theorem groupTurn_error_cases {progress : GroupProgress}
    (failed : groupTurn progress before = .error cause after) :
    (before.current.kind = .endOfText ∧ cause = .unexpectedToken before.current ∧ after = before) ∨
      advance before = .error cause after := by
  rw [groupTurn, current_bind] at failed
  split at failed
  · cases failed
    exact .inl ⟨‹_›, rfl, rfl⟩
  · refine .inr ((bind_error_iff.mp failed).resolve_right ?_)
    rintro ⟨_, final, -, failed⟩
    split at failed <;> cases failed

/-- What a move to the next token keeps is kept by whatever is put together from moves, if it relates
each cause that blames the token under a cursor to this cursor. -/
theorem Maintains.of_moves {expects : Kind → Prop} {holds : Cursor → Prop}
    {fault : ParseError → Cursor → Prop} {reading : Reading α}
    (advances : Maintains holds fault advance)
    (blames : ∀ {cause cursor}, holds cursor → cause.Blames expects cursor → fault cause cursor)
    (moves : Moves expects reading) : Maintains holds fault reading := by
  refine .of_composed (fun isMove => ?_) moves
  cases isMove with
  | advance => exact advances
  | asks answer =>
    refine ⟨fun holdsBefore passed => ?_, fun _ failed => (by cases failed)⟩
    cases passed
    exact holdsBefore
  | refuse kinds =>
    refine ⟨fun holdsBefore passed => (refuse_ok_iff.mp passed).2 ▸ holdsBefore, ?_⟩
    intro before cause after holdsBefore failed
    obtain ⟨-, rfl, rfl⟩ := refuse_error_iff.mp failed
    exact blames holdsBefore rfl
  | unexpected =>
    refine ⟨fun _ passed => (by cases passed), fun holdsBefore failed => ?_⟩
    cases failed
    exact blames holdsBefore rfl
  | unsupported family =>
    refine ⟨fun _ passed => (by cases passed), fun holdsBefore failed => ?_⟩
    cases failed
    exact blames holdsBefore rfl
  | accept isExpected =>
    refine ⟨fun holdsBefore passed => advances.passes holdsBefore (advance_of_accept passed), ?_⟩
    intro before cause after holdsBefore failed
    obtain ⟨-, failed⟩ | ⟨isOther, rfl, rfl⟩ := accept_error_iff.mp failed
    · exact advances.fails holdsBefore failed
    · exact blames holdsBefore ⟨rfl, isOther, isExpected⟩

/-- Whatever is put together from moves keeps a cursor in its text. -/
theorem settled_of_moves {expects : Kind → Prop} {reading : Reading α} {value : α}
    (moves : Moves expects reading) (settled : before.Settled)
    (passed : reading before = .ok value after) : after.Settled := by
  have advances : Maintains Cursor.Settled (fun _ _ => True) advance := by
    refine ⟨fun settled moved => ?_, fun _ _ => trivial⟩
    rcases (advance_ok_iff settled).mp moved with passes | ⟨-, rfl⟩
    · exact passes.settled settled
    · exact settled
  exact (Maintains.of_moves advances (fun _ _ => trivial) moves).passes settled passed

/-- A fault that a reading meets ends the text, and what is ahead of the cursor is then the fault again,
or the end of the text. -/
theorem ahead_of_illegalInput {expects : Kind → Prop} {reading : Reading α} {fault : IllegalInput}
    (moves : Moves expects reading) (failed : reading before = .error (.illegalInput fault) after) :
    before.ahead.ending = .blocked fault ∧ after.ahead = ⟨[], .blocked fault⟩ ∨
      ∃ last, before.ahead.ending = .unclosed fault last ∧ after.ahead = ⟨[last], .finished⟩ := by
  let holds (cursor : Cursor) : Prop := cursor.ahead.ending = before.ahead.ending
  let meets (cause : ParseError) (after : Cursor) : Prop := ∀ fault, cause = .illegalInput fault →
    before.ahead.ending = .blocked fault ∧ after.ahead = ⟨[], .blocked fault⟩ ∨
      ∃ last, before.ahead.ending = .unclosed fault last ∧ after.ahead = ⟨[last], .finished⟩
  have advances : Maintains holds meets advance := by
    refine ⟨fun same moved => (ending_of_advance moved).trans same, ?_⟩
    rintro start _ final same failed fault rfl
    obtain ⟨_, isFault, ahead⟩ := exists_fault_of_advance failed
    cases isFault
    rwa [same] at ahead
  have blames {cause : ParseError} {cursor : Cursor} (_ : holds cursor)
      (blames : cause.Blames expects cursor) : meets cause cursor := by
    rintro fault rfl
    exact blames.elim
  exact (Maintains.of_moves advances blames moves).fails rfl failed fault rfl

/-- Whatever a reading fails for that demands no first word of a statement arises where it leaves the
cursor. -/
theorem arisesAt_of_moves {reading : Reading α} (moves : Moves (· ∉ leadingKinds) reading)
    (failed : reading before = .error cause after) : cause.ArisesAt after := by
  have advances : Maintains (fun _ => True) (fun cause after => cause.ArisesAt after) advance := by
    refine ⟨fun _ _ => trivial, fun _ failed => ?_⟩
    obtain ⟨fault, rfl, -⟩ := exists_fault_of_advance failed
    trivial
  exact (Maintains.of_moves advances (fun _ blames => blames.arisesAt) moves).fails trivial failed

/-- A token that is expected is moved past. -/
theorem discard_accept_of_kind {expected : Kind} (onKind : before.current.kind = expected) :
    (discard (accept expected)) before = advance before := by
  have accepted : accept expected before = (do
      advance
      return before.current) before := by
    rw [accept, current_bind, if_pos onKind]
  simp only [Functor.discard, Functor.mapConst, EStateM.map, Function.comp, Function.const, accepted,
    bind, EStateM.bind]
  cases advance before <;> rfl

/-- Where a statement begins with the word of the family, the parser fails for nothing that does not
arise in place. -/
theorem arisesAt_of_failed {grammar : Grammar} {rule : ShardingRule} {family : Family}
    (onKeyword : before.current.kind = .reserved family.keyword)
    (failed : family.parser grammar rule before = .error cause after) : cause.ArisesAt after := by
  rw [Family.parser_eq, Family.outline_eq_keyword, bind_assoc, bind_error_iff,
    discard_accept_of_kind onKeyword] at failed
  rcases failed with failed | ⟨_, middle, -, failed⟩
  · exact arisesAt_of_moves (.basic .advance) failed
  · exact arisesAt_of_moves (moves_rest (moves_behind_keyword grammar family) rule family) failed

end Reading

end SqlSharding
