import SqlSharding.Proofs.Passage

/-!
# Opening a text

The first move brings a cursor onto the first token of its text, and from there the cursor has the
tokens of the tape before it. A text is parsed by the parser that the first token asks for.
-/

namespace SqlSharding

/-- The family that a word begins is the one that has it as its first word. -/
theorem Family.ofKeyword?_eq_some_iff {word : ReservedWord} {family : Family} :
    Family.ofKeyword? word = some family ↔ family.keyword = word := by
  constructor
  · intro found
    simpa using List.find?_some found
  · rintro rfl
    cases family <;> rfl

/-- No two families have the same first word. -/
theorem Family.keyword_inj {family other : Family} (same : family.keyword = other.keyword) :
    family = other :=
  Option.some.inj ((ofKeyword?_eq_some_iff.mpr same).symm.trans (ofKeyword?_eq_some_iff.mpr rfl))

namespace Cursor

variable {dialect : Dialect} {text : String} {cursor other : Cursor}

/-- The cursor stands on the first token of a text. -/
structure Begins (dialect : Dialect) (text : String) (cursor : Cursor) : Prop where
  sameDialect : cursor.dialect = dialect
  sameText : cursor.text = text
  tokens : cursor.tokens = (Tape.ofText dialect text).tokens
  ending : cursor.ahead.ending = (Tape.ofText dialect text).ending

/-- Only one cursor stands on the first token of a text. -/
theorem Begins.unique (left : cursor.Begins dialect text) (right : other.Begins dialect text) :
    cursor = other :=
  (Cursor.Passes.refl cursor).unique
    ⟨left.tokens.trans right.tokens.symm, right.sameDialect.trans left.sameDialect.symm,
      right.sameText.trans left.sameText.symm, right.ending.trans left.ending.symm⟩

/-- A text with tokens has a cursor on the first of them. -/
theorem exists_begins (notEmpty : (Tape.ofText dialect text).tokens ≠ []) :
    ∃ cursor : Cursor, cursor.Begins dialect text := by
  cases tape : Tape.ofText dialect text with
  | mk tokens ending =>
    cases tokens with
    | nil => exact absurd (by rw [tape]) notEmpty
    | cons token later =>
      exact ⟨⟨dialect, text, token, ⟨later, ending⟩⟩, rfl, rfl, by rw [tape]; rfl, by rw [tape]⟩

/-- The tokens from the cursor on are the answers of the lexer. -/
structure StandsAt (lexer : Lexer) (cursor : Cursor) : Prop where
  tokens : cursor.tokens = (Tape.ofLexer lexer).tokens
  ending : cursor.ahead.ending = (Tape.ofLexer lexer).ending

/-- A cursor on the first token of a text has the answers of its lexer ahead. -/
theorem Begins.standsAt (begins : cursor.Begins dialect text) :
    cursor.StandsAt (.ofDialect dialect text) :=
  ⟨begins.tokens, begins.ending⟩

variable {lexer : Lexer}

/-- A cursor with the answers of a lexer ahead is settled. -/
theorem StandsAt.settled (keywords : lexer.dictionary.HasKeywords) (stands : cursor.StandsAt lexer) :
    cursor.Settled where
  last finished := by
    obtain ⟨tokens, place, whole⟩ :=
      Tape.ofLexer_finished keywords (stands.ending.symm.trans finished)
    exact ⟨place, by rw [stands.tokens, whole, List.getLast?_concat]⟩
  nothingAfter first token later tokens isEnd := by
    rw [stands.ending]
    exact Tape.ofLexer_nothingAfter keywords (stands.tokens.symm.trans tokens) isEnd

/-- A cursor on the first token of a text is settled. -/
theorem Begins.settled (begins : cursor.Begins dialect text) : cursor.Settled :=
  begins.standsAt.settled (Dictionary.hasKeywords_ofDialect dialect)

/-- The tokens that a reading passes are answers of the lexer. -/
theorem StandsAt.exists_yields (keywords : lexer.dictionary.HasKeywords)
    (stands : cursor.StandsAt lexer) {taken : List Token} (passed : cursor.Passes taken other) :
    ∃ after, lexer.Yields taken after ∧ other.StandsAt after := by
  have tokens : (Tape.ofLexer lexer).tokens = taken ++ other.tokens :=
    stands.tokens.symm.trans passed.tokens
  obtain ⟨after, yields, later, ending⟩ := Tape.exists_yields keywords tokens (by simp [Cursor.tokens])
  exact ⟨after, yields, later.symm, passed.ending.trans (stands.ending.trans ending.symm)⟩

/-- The tokens that are passed from the first one on are answers of the lexer. -/
theorem Begins.exists_yields (begins : cursor.Begins dialect text) {taken : List Token}
    (passed : cursor.Passes taken other) :
    ∃ after, (Lexer.ofDialect dialect text).Yields taken after ∧ other.StandsAt after :=
  begins.standsAt.exists_yields (Dictionary.hasKeywords_ofDialect dialect) passed

/-- The cursor behind answers of the lexer, if there is a token to stand on. -/
theorem StandsAt.exists_passes (keywords : lexer.dictionary.HasKeywords)
    (stands : cursor.StandsAt lexer) {taken : List Token} {after : Lexer}
    (yields : lexer.Yields taken after) (notEmpty : (Tape.ofLexer after).tokens ≠ []) :
    ∃ middle, cursor.Passes taken middle ∧ middle.StandsAt after := by
  have tape := Tape.ofLexer_of_yields keywords yields
  obtain ⟨token, later, found⟩ := List.exists_cons_of_ne_nil notEmpty
  have tokens : cursor.tokens = taken ++ token :: later := by
    rw [stands.tokens, tape, ← found]
    rfl
  obtain ⟨middle, passed, rfl, rfl⟩ := Cursor.exists_passes tokens
  refine ⟨middle, passed, found.symm, ?_⟩
  rw [passed.ending, stands.ending, tape]
  rfl

end Cursor

namespace Reading

variable {dialect : Dialect} {rule : ShardingRule} {text : String} {cursor before after : Cursor}
  {statement : Statement}

/-- The first move comes to the first token. -/
theorem advance_of_begins (begins : cursor.Begins dialect text) :
    advance (.ofText dialect text) = .ok () cursor := by
  have tokens := begins.tokens
  cases tape : Tape.ofText dialect text with
  | mk found ending =>
    rw [tape] at tokens
    cases tokens
    have ends := begins.ending
    obtain ⟨cursorDialect, cursorText, current, ⟨later, cursorEnding⟩⟩ := cursor
    obtain rfl : cursorDialect = dialect := begins.sameDialect
    obtain rfl : cursorText = text := begins.sameText
    rw [tape] at ends
    subst ends
    simp [advance, Cursor.ofText, tape]

/-- Where the first move succeeds there is a token, as a text without a fault ends with one. -/
theorem tokens_ne_nil_of_advance (moved : advance (.ofText dialect text) = .ok () cursor) :
    (Tape.ofText dialect text).tokens ≠ [] := by
  intro empty
  have unfinished : (Tape.ofText dialect text).ending ≠ .finished := by
    intro finished
    obtain ⟨tokens, place, whole⟩ := Tape.ofText_finished finished
    rw [empty] at whole
    simp at whole
  cases tape : Tape.ofText dialect text with
  | mk tokens ending =>
    rw [tape] at empty unfinished
    subst empty
    cases ending with
    | finished => exact unfinished rfl
    | blocked fault => simp [advance, Cursor.ofText, tape] at moved
    | unclosed fault last => simp [advance, Cursor.ofText, tape] at moved

/-- The first move succeeds exactly if there is a first token, and comes to it. -/
theorem advance_ofText_ok_iff :
    advance (.ofText dialect text) = .ok () cursor ↔ cursor.Begins dialect text := by
  refine ⟨fun moved => ?_, advance_of_begins⟩
  obtain ⟨first, begins⟩ := Cursor.exists_begins (tokens_ne_nil_of_advance moved)
  rw [advance_of_begins begins] at moved
  cases moved
  exact begins

/-- Reads the statement under the cursor by the parser that its first token asks for. -/
def statementOf (dialect : Dialect) (rule : ShardingRule) : Reading Statement := fun cursor =>
  match (dispatch .builtIn dialect cursor.current.kind rule cursor).value with
  | .ok parser => parser cursor
  | .error cause => .error cause cursor

/-- The word that begins a statement asks for the parser of its family. -/
theorem statementOf_of_keyword {family : Family}
    (onKeyword : before.current.kind = .reserved family.keyword) :
    statementOf dialect rule before = family.parser dialect.grammar rule before := by
  have found := Family.ofKeyword?_eq_some_iff.mpr (rfl : family.keyword = family.keyword)
  simp [statementOf, dispatch, onKeyword, found, Factories.builtIn]

/-- A statement is read by the parser of the family that the first token begins. -/
theorem statementOf_ok_iff :
    statementOf dialect rule before = .ok statement after ↔
      ∃ family : Family, before.current.kind = .reserved family.keyword ∧
        family.parser dialect.grammar rule before = .ok statement after := by
  constructor
  · intro passed
    unfold statementOf dispatch at passed
    cases kind : before.current.kind with
    | reserved word =>
      cases found : Family.ofKeyword? word with
      | none => simp [kind, found] at passed
      | some family =>
        obtain rfl := Family.ofKeyword?_eq_some_iff.mp found
        exact ⟨family, rfl, by simpa [kind, found, Factories.builtIn] using passed⟩
    | _ => simp [kind] at passed
  · rintro ⟨family, onKeyword, passed⟩
    rwa [statementOf_of_keyword onKeyword]

/-- A text is refused for what the first move fails for. -/
theorem parse_of_advance_error {cause : ParseError}
    (moved : advance (.ofText dialect text) = .error cause cursor) :
    parse dialect rule text = .error cause := by
  unfold parse parseLogged
  rw [Logged.value_bind, moved]
  rfl

/-- What a reading comes to, without the cursor. -/
def outcome {α : Type} : EStateM.Result ParseError Cursor α → Except ParseError α
  | .ok value _ => .ok value
  | .error cause _ => .error cause

/-- Parsing is reading the statement under the first token. -/
theorem parse_of_advance (moved : advance (.ofText dialect text) = .ok () cursor) :
    parse dialect rule text = outcome (statementOf dialect rule cursor) := by
  unfold parse parseLogged statementOf
  rw [Logged.value_bind, moved]
  simp only [Logged.value_bind]
  cases (dispatch .builtIn dialect cursor.current.kind rule cursor).value with
  | error cause => rfl
  | ok parser =>
    simp only
    cases parser cursor <;> rfl

/-- A text is parsed to what is read of the statement under its first token. -/
theorem parse_ok_iff_of_advance (moved : advance (.ofText dialect text) = .ok () cursor) :
    parse dialect rule text = .ok statement ↔
      ∃ after, statementOf dialect rule cursor = .ok statement after := by
  rw [parse_of_advance moved]
  cases statementOf dialect rule cursor <;> simp [outcome]

/-- A text is parsed exactly if it has a first token and a statement is read from there. -/
theorem parse_ok_iff :
    parse dialect rule text = .ok statement ↔
      ∃ cursor after, cursor.Begins dialect text ∧
        statementOf dialect rule cursor = .ok statement after := by
  cases moved : advance (.ofText dialect text) with
  | error cause cursor =>
    rw [parse_of_advance_error moved]
    refine iff_of_false (by simp) ?_
    rintro ⟨cursor, after, begins, -⟩
    rw [advance_ofText_ok_iff.mpr begins] at moved
    cases moved
  | ok value cursor =>
    rw [parse_ok_iff_of_advance moved]
    have isBeginning := advance_ofText_ok_iff.mp moved
    constructor
    · rintro ⟨after, read⟩
      exact ⟨cursor, after, isBeginning, read⟩
    · rintro ⟨other, after, begins, read⟩
      exact ⟨after, begins.unique isBeginning ▸ read⟩

/-- What a text is parsed to can be decided. -/
theorem parse_of_toOption (parsed : (parse dialect rule text).toOption = some statement) :
    parse dialect rule text = .ok statement := by
  cases result : parse dialect rule text with
  | error cause => simp [result, Except.toOption] at parsed
  | ok found => simpa [result, Except.toOption] using parsed

end Reading

end SqlSharding
