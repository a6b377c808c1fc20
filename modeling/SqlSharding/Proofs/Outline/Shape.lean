import SqlSharding.Proofs.Outline

/-!
# The shape of outlines

What an outline can hold depends on the family of the statement, and behind an outline there is the
end of the text or a semicolon.
-/

namespace SqlSharding

/-- The cursor stands behind the last token of a statement. -/
def Cursor.AtStatementEnd (cursor : Cursor) : Prop :=
  cursor.current.kind = .endOfText ∨ cursor.current.kind = .symbol .semicolon

/-- What a statement of the family can be made of. -/
def Outline.Fits (outline : Outline) : Family → Prop
  | .select => outline.columns = []
  | .insert => ∃ target, outline.references = [target]
  | .update | .delete | .create | .alter => ∃ target, outline = ⟨[target], []⟩
  | .drop | .truncate => outline.references ≠ [] ∧ outline.columns = []

namespace Reading

variable {α β : Type} {reading : Reading α} {post : α → Cursor → Prop} {grammar : Grammar}

/-- Whenever the reading succeeds, what it gives and the cursor behind it are as asked for. -/
def Ensures (reading : Reading α) (post : α → Cursor → Prop) : Prop :=
  ∀ value before after, reading before = .ok value after → post value after

/-- A sequence ensures what its second part does. -/
theorem Ensures.bind {next : α → Reading β} {after : β → Cursor → Prop}
    (goesOn : ∀ value, Ensures (next value) after) : Ensures (reading >>= next) after := by
  intro value before final passed
  obtain ⟨found, middle, -, rest⟩ := bind_ok_iff.mp passed
  exact goesOn found _ _ _ rest

/-- The second reading may rely on what the first one gives. -/
theorem Ensures.bind_of {next : α → Reading β} {given : α → Prop} {after : β → Cursor → Prop}
    (starts : Ensures reading fun value _ => given value)
    (goesOn : ∀ value, given value → Ensures (next value) after) :
    Ensures (reading >>= next) after := by
  intro value before final passed
  obtain ⟨found, middle, start, rest⟩ := bind_ok_iff.mp passed
  exact goesOn found (starts _ _ _ start) _ _ _ rest

/-- A value ensures what holds of it before every cursor. -/
theorem Ensures.pure {value : α} (holds : ∀ cursor, post value cursor) :
    Ensures (pure value) post := by
  intro found before after passed
  obtain ⟨rfl, rfl⟩ := pure_ok_iff.mp passed
  exact holds after

/-- A choice ensures what both of its ways do. -/
theorem Ensures.ite {condition : Prop} [Decidable condition] {left right : Reading α}
    (whenTrue : Ensures left post) (whenFalse : Ensures right post) :
    Ensures (if condition then left else right) post := by
  split
  · exact whenTrue
  · exact whenFalse

/-- A loop ensures what its last turn ensures, while the turns before it keep an invariant. -/
theorem Ensures.repeatTurns {turn : α → Reading (Turn α)} (consumes : Consumes turn)
    (invariant : α → Prop)
    (turns : ∀ value, invariant value → Ensures (turn value) fun
      | .again next, _ => invariant next
      | .done result, cursor => post result cursor)
    {value : α} (holds : invariant value) : Ensures (repeatTurns turn value) post := by
  intro result before after passed
  replace passed := turns_of_repeatTurns consumes passed
  induction passed with
  | last done => exact turns _ holds _ _ _ done
  | again taken _ inductionHypothesis => exact inductionHypothesis (turns _ holds _ _ _ taken)

/-- Where the cursor stands behind a loop is up to its last turn. -/
theorem Ensures.repeatTurns_of_last {turn : α → Reading (Turn α)} (consumes : Consumes turn)
    (last : ∀ value, Ensures (turn value) fun decision cursor =>
      ∀ result, decision = .done result → post result cursor) (value : α) :
    Ensures (Reading.repeatTurns turn value) post := by
  refine .repeatTurns consumes (fun _ => True) (fun value _ decision before after taken => ?_) trivial
  cases decision with
  | again next => trivial
  | done result => exact last value _ _ _ taken result rfl

/-- Skipping up to some kinds stops on one of them or at the end. -/
theorem ensures_skipUntil (kinds : List Kind) :
    Ensures (skipUntil kinds) fun _ cursor =>
      cursor.current.kind = .endOfText ∨ cursor.current.kind ∈ kinds := by
  refine .repeatTurns_of_last (consumes_untilTurn kinds) ?_ ()
  intro _ decision before after taken result isDone
  rw [untilTurn_eq] at taken
  split at taken
  · rename_i stopped
    obtain ⟨-, rfl⟩ := pure_ok_iff.mp taken
    simpa only [Cursor.isAtEnd_iff, Cursor.isOn_iff] using stopped
  · obtain ⟨_, middle, -, rest⟩ := bind_ok_iff.mp taken
    obtain ⟨rfl, -⟩ := pure_ok_iff.mp rest
    cases isDone

/-- Skipping items up to some kinds stops on one of them or at the end. -/
theorem ensures_skipItemsUntil (kinds : List Kind) :
    Ensures (skipItemsUntil kinds) fun _ cursor =>
      cursor.current.kind = .endOfText ∨ cursor.current.kind ∈ kinds := by
  have loop : Ensures (Reading.repeatTurns (itemTurn fun _ kind => kinds.contains kind) false)
      fun _ cursor => cursor.current.kind = .endOfText ∨ cursor.current.kind ∈ kinds := by
    refine .repeatTurns_of_last (consumes_itemTurn _) ?_ false
    intro afterDot decision before after taken result isDone
    rw [itemTurn, current_bind] at taken
    split at taken
    · rename_i stopped
      obtain ⟨-, rfl⟩ := pure_ok_iff.mp taken
      simpa using stopped
    · obtain ⟨_, middle, -, rest⟩ := bind_ok_iff.mp taken
      obtain ⟨rfl, -⟩ := pure_ok_iff.mp rest
      cases isDone
  rintro ⟨⟩ before after passed
  obtain ⟨afterDot, passed⟩ := discard_ok_iff.mp passed
  exact loop _ _ _ passed

/-- A skipping that may stop at other tokens too, which are then refused. -/
theorem ensures_refuse {kinds refused : List Kind}
    (others : ∀ kind ∈ kinds, kind = .symbol .semicolon ∨ kind ∈ refused) :
    Ensures (skipItemsUntil kinds >>= fun _ => refuse refused) fun _ cursor =>
      cursor.AtStatementEnd := by
  intro value before after passed
  obtain ⟨_, middle, skipped, rest⟩ := bind_ok_iff.mp passed
  obtain ⟨notRefused, rfl⟩ := refuse_ok_iff.mp rest
  rcases ensures_skipItemsUntil kinds _ _ _ skipped with atEnd | stopped
  · exact .inl atEnd
  · exact .inr ((others _ stopped).resolve_right notRefused)

/-- Skipping up to a semicolon comes to the end of the statement. -/
theorem ensures_skipUntil_semicolon :
    Ensures (skipUntil [.symbol .semicolon]) fun _ cursor => cursor.AtStatementEnd := by
  intro value before after passed
  simpa [Cursor.AtStatementEnd] using ensures_skipUntil _ _ _ _ passed

/-- An outline that fits, with the end of the statement behind it. -/
theorem ensures_rest (family : Family) (outline : Outline) {rest : Reading Unit}
    (ends : Ensures rest fun _ cursor => cursor.AtStatementEnd) (fits : outline.Fits family) :
    Ensures (rest >>= fun _ => pure outline) fun outline cursor =>
      outline.Fits family ∧ cursor.AtStatementEnd := by
  intro found before after passed
  obtain ⟨_, middle, start, last⟩ := bind_ok_iff.mp passed
  obtain ⟨rfl, rfl⟩ := pure_ok_iff.mp last
  exact ⟨fits, ends _ _ _ start⟩

/-- A list of tables has at least one table. -/
theorem ensures_tableList (allowed : Bool) {table : Reading TableReference}
    (proceeds : Proceeds table) :
    Ensures (tableList allowed table) fun references _ => references ≠ [] := by
  rw [tableList_eq]
  refine .bind fun first => ?_
  refine .repeatTurns (consumes_tableListTurn proceeds) (· ≠ []) (fun references notEmpty => ?_)
    (by simp)
  refine .bind fun _ => .ite (.ite (.bind fun _ => .bind fun _ => .pure ?_) ?_) (.pure fun _ => notEmpty)
  · simp
  · rintro decision before after ⟨⟩

/-- Behind the clauses of a query the statement ends, since set operators are refused. -/
theorem ensures_selectClauses :
    Ensures (skipItemsUntil (.symbol .semicolon :: setOperators) >>= fun _ => refuse setOperators)
      fun _ cursor => cursor.AtStatementEnd :=
  ensures_refuse (by simp)

/-- Behind the clauses of an update the statement ends, since another `FROM` is refused. -/
theorem ensures_updateClauses :
    Ensures (skipItemsUntil [.reserved .FROM, .symbol .semicolon] >>= fun _ =>
      refuse [.reserved .FROM]) fun _ cursor => cursor.AtStatementEnd :=
  ensures_refuse (by simp)

/-- What the body of a statement makes an outline of, and where it stops. -/
theorem ensures_body (grammar : Grammar) (family : Family) :
    Ensures (family.body grammar) fun outline cursor =>
      outline.Fits family ∧ cursor.AtStatementEnd := by
  have ends := ensures_skipUntil_semicolon
  cases family with
  | select =>
    have clauses (references : List TableReference) :=
      ensures_rest .select ⟨references, []⟩ ensures_selectClauses rfl
    simp only [bind_assoc] at clauses
    exact .bind fun _ => .bind fun _ => .ite (.bind fun _ => clauses _) (clauses _)
  | insert => exact .bind fun target => .bind fun _ => ensures_rest .insert _ ends ⟨target, rfl⟩
  | update =>
    have clauses (target : TableReference) :=
      ensures_rest .update ⟨[target], []⟩ ensures_updateClauses ⟨target, rfl⟩
    simp only [bind_assoc] at clauses
    simp only [Family.body, updateRest, oneTarget, updateBody, bind_assoc, pure_bind]
    exact .bind fun target => .bind fun _ => .bind fun _ => .bind fun _ => clauses target
  | delete =>
    simp only [Family.body, oneTarget, bind_assoc, pure_bind]
    exact .bind fun target => .bind fun _ => ensures_rest .delete _ ends ⟨target, rfl⟩
  | create => exact .bind fun table => ensures_rest .create _ ends ⟨table, rfl⟩
  | alter => exact .bind fun table => ensures_rest .alter _ ends ⟨table, rfl⟩
  | drop =>
    exact .bind_of (ensures_tableList _ proceeds_plainTable) fun references notEmpty =>
      ensures_rest .drop _ ends ⟨notEmpty, rfl⟩
  | truncate =>
    exact .bind_of (ensures_tableList _ (proceeds_truncatedTable grammar)) fun references notEmpty =>
      ensures_rest .truncate _ ends ⟨notEmpty, rfl⟩

/-- What the outline of a statement holds, and where it stops. -/
theorem ensures_outline (grammar : Grammar) (family : Family) :
    Ensures (family.outline grammar) fun outline cursor =>
      outline.Fits family ∧ cursor.AtStatementEnd := by
  rw [Family.outline_eq_body]
  exact .bind fun _ => ensures_body grammar family

end Reading

end SqlSharding
