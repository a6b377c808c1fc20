import SqlSharding.Proofs.Faults

/-!
# Routing

The first token of a statement decides which parser reads it. A factory is asked only for the family
that the token begins, and what is read does not depend on the rule but for the generated key.
-/

namespace SqlSharding

/-- The statement without its generated key. -/
def Statement.withoutKey (statement : Statement) : Statement :=
  { statement with generatedKey? := none }

/-- Whether the kind is that of a reserved word. -/
def Kind.IsReserved (kind : Kind) : Prop :=
  ∃ word, kind = .reserved word

/-- How a parser is chosen: by the family whose keyword the kind is, and by nothing else. -/
structure Factories.Routed (factories : Factories) (dialect : Dialect) (rule : ShardingRule)
    (cursor : Cursor) : Prop where
  /-- One factory is asked, once, with the cursor as it is, and its answer is the answer. -/
  asked : ∀ family : Family, dispatch factories dialect (.reserved family.keyword) rule cursor = do
    Logged.tell (.dispatching family.keyword dialect)
    factories family dialect rule cursor
  /-- For another reserved word no factory is asked, and the token under the cursor is blamed. -/
  otherWord : ∀ word, (∀ family : Family, family.keyword ≠ word) →
    dispatch factories dialect (.reserved word) rule cursor =
      ⟨[.dispatching word dialect], .error (.unsupportedKeyword cursor.current.kind)⟩
  /-- For anything else no factory is asked, and the kind is blamed. -/
  unreserved : ∀ kind : Kind, ¬kind.IsReserved →
    dispatch factories dialect kind rule cursor = ⟨[], .error (.unsupportedClassification kind)⟩

/-- How a text with this first token is parsed. -/
structure Token.Routes (first : Token) (dialect : Dialect) (rule : ShardingRule) (text : String) :
    Prop where
  unreserved : ∀ kind, parse dialect rule text = .error (.unsupportedClassification kind) ↔
    kind = first.kind ∧ ¬first.kind.IsReserved
  otherWord : ∀ kind, parse dialect rule text = .error (.unsupportedKeyword kind) ↔
    kind = first.kind ∧ first.kind.IsReserved ∧
      ∀ family : Family, first.kind ≠ .reserved family.keyword
  everyDialect : ∀ other family, parse dialect rule text ≠ .error (.unsupportedDialect other family)
  /-- The word that begins a statement is there when the parser of its family looks for it. -/
  keywordFound : ∀ (family : Family) actual,
    parse dialect rule text ≠ .error (.expectedToken (.reserved family.keyword) actual)
  sameFamily : ∀ statement, parse dialect rule text = .ok statement →
    first.kind = .reserved statement.family.keyword

/-- A word begins no family exactly if no family has it as its first word. -/
theorem Family.ofKeyword?_eq_none_iff {word : ReservedWord} :
    Family.ofKeyword? word = none ↔ ∀ family : Family, family.keyword ≠ word := by
  rw [Option.eq_none_iff_forall_ne_some]
  simp only [ne_eq, ofKeyword?_eq_some_iff]

/-- A kind is the keyword of a family, another reserved word, or none. -/
theorem Kind.keyword_cases (kind : Kind) :
    (∃ family : Family, kind = .reserved family.keyword) ∨
      (∃ word, kind = .reserved word ∧ ∀ family : Family, family.keyword ≠ word) ∨
        ¬kind.IsReserved := by
  by_cases isReserved : kind.IsReserved
  · obtain ⟨word, rfl⟩ := isReserved
    cases found : Family.ofKeyword? word with
    | some family => exact .inl ⟨family, by rw [Family.ofKeyword?_eq_some_iff.mp found]⟩
    | none => exact .inr (.inl ⟨word, rfl, Family.ofKeyword?_eq_none_iff.mp found⟩)
  · exact .inr (.inr isReserved)

/-- A parser is chosen by the family whose first word the kind is, and by nothing else. -/
theorem dispatch_routed (factories : Factories) (dialect : Dialect) (rule : ShardingRule)
    (cursor : Cursor) : factories.Routed dialect rule cursor where
  asked family := by
    have found := Family.ofKeyword?_eq_some_iff.mpr (rfl : family.keyword = family.keyword)
    simp only [dispatch, found]
  otherWord word notKeyword := by
    simp only [dispatch, Family.ofKeyword?_eq_none_iff.mpr notKeyword]
    rfl
  unreserved kind notReserved := by
    cases kind with
    | reserved word => exact absurd ⟨word, rfl⟩ notReserved
    | _ => rfl

/-- A text whose first token is read has a cursor on that token. -/
theorem Cursor.exists_begins_of_lexes {dialect : Dialect} {text : String} {first : Token}
    (lexes : (Lexer.ofDialect dialect text).next.1 = .ok first) :
    ∃ cursor : Cursor, cursor.Begins dialect text ∧ cursor.current = first := by
  have keywords := Dictionary.hasKeywords_ofDialect dialect
  have isFirst : ∃ later, (Tape.ofText dialect text).tokens = first :: later := by
    rcases (Lexer.ofDialect dialect text).next_cases keywords with
      ⟨token, after, reads⟩ | ⟨place, after, answer⟩ | ⟨fault, after, answer⟩
    · rw [reads.answer] at lexes
      obtain rfl := Except.ok.inj lexes
      exact ⟨_, congrArg Tape.tokens (Tape.ofLexer_of_reads keywords reads)⟩
    · rw [answer] at lexes
      obtain rfl := Except.ok.inj lexes
      exact ⟨_, congrArg Tape.tokens (Tape.ofLexer_of_end answer)⟩
    · rw [answer] at lexes
      cases lexes
  obtain ⟨later, tokens⟩ := isFirst
  obtain ⟨cursor, begins⟩ := @Cursor.exists_begins dialect text (by simp [tokens])
  have onFirst := begins.tokens
  rw [tokens] at onFirst
  exact ⟨cursor, begins, (List.cons.inj onFirst).1⟩

namespace Reading

variable {dialect : Dialect} {rule : ShardingRule} {text : String} {cursor : Cursor}

/-- What is read does not depend on the rule but for the generated key, nor does why nothing is
read. -/
theorem outcome_parser_withoutKey (grammar : Grammar) (rule other : ShardingRule) (family : Family) :
    (outcome (family.parser grammar other cursor)).map Statement.withoutKey =
      (outcome (family.parser grammar rule cursor)).map Statement.withoutKey := by
  rw [Family.parser_eq, Family.parser_eq]
  simp only [bind, EStateM.bind]
  cases family.outline grammar cursor with
  | error cause after => rfl
  | ok outline after =>
    simp only
    cases discard (skipIf [.symbol .semicolon]) after <;> rfl

/-- A reserved word that begins no statement is blamed as an unsupported keyword. -/
theorem statementOf_of_otherWord {word : ReservedWord} (onWord : cursor.current.kind = .reserved word)
    (notKeyword : ∀ family : Family, family.keyword ≠ word) :
    statementOf dialect rule cursor = .error (.unsupportedKeyword cursor.current.kind) cursor := by
  have routed := dispatch_routed .builtIn dialect rule cursor
  simp only [statementOf, onWord, routed.otherWord word notKeyword]

/-- A token that is no reserved word is blamed as no statement at all. -/
theorem statementOf_of_unreserved (unreserved : ¬cursor.current.kind.IsReserved) :
    statementOf dialect rule cursor =
      .error (.unsupportedClassification cursor.current.kind) cursor := by
  have routed := dispatch_routed .builtIn dialect rule cursor
  simp only [statementOf, routed.unreserved _ unreserved]

/-- Two rules come to the same statement but for the generated key, or fail for the same cause. -/
theorem parse_withoutKey (dialect : Dialect) (rule other : ShardingRule) (text : String) :
    (parse dialect other text).map Statement.withoutKey =
      (parse dialect rule text).map Statement.withoutKey := by
  cases moved : advance (.ofText dialect text) with
  | error cause after => rw [parse_of_advance_error moved, parse_of_advance_error moved]
  | ok value cursor =>
    rw [parse_of_advance moved, parse_of_advance moved]
    rcases cursor.current.kind.keyword_cases with
      ⟨family, onKeyword⟩ | ⟨word, onWord, notKeyword⟩ | unreserved
    · rw [statementOf_of_keyword onKeyword, statementOf_of_keyword onKeyword]
      exact outcome_parser_withoutKey ..
    · rw [statementOf_of_otherWord onWord notKeyword, statementOf_of_otherWord onWord notKeyword]
    · rw [statementOf_of_unreserved unreserved, statementOf_of_unreserved unreserved]

/-- A text is parsed to a statement of the family that its first token begins. -/
theorem sameFamily_of_parse {statement : Statement} (begins : cursor.Begins dialect text)
    (parsed : parse dialect rule text = .ok statement) :
    cursor.current.kind = .reserved statement.family.keyword := by
  obtain ⟨other, middle, after, family, outline, begins', onKeyword, -, -, rfl⟩ :=
    parse_ok_iff_outline.mp parsed
  exact begins'.unique begins ▸ onKeyword

/-- Past the first word of a statement no cause of dispatching arises. -/
theorem routes_of_keyword {family : Family} (begins : cursor.Begins dialect text)
    (onKeyword : cursor.current.kind = .reserved family.keyword) :
    cursor.current.Routes dialect rule text := by
  have arises : ∀ cause, parse dialect rule text = .error cause → ∃ after, cause.ArisesAt after := by
    intro cause failed
    rw [parse_of_advance (advance_ofText_ok_iff.mpr begins), statementOf_of_keyword onKeyword] at failed
    cases result : family.parser dialect.grammar rule cursor with
    | ok statement after => simp [result, outcome] at failed
    | error found after =>
      obtain rfl : found = cause := by simpa [result, outcome] using failed
      exact ⟨after, arisesAt_of_failed onKeyword result⟩
  refine ⟨fun kind => ?_, fun kind => ?_, fun other missed failed => ?_,
    fun missed actual failed => ?_, fun statement => sameFamily_of_parse begins⟩
  · refine iff_of_false (fun failed => ?_) fun unreserved => unreserved.2 ⟨_, onKeyword⟩
    obtain ⟨after, arises⟩ := arises _ failed
    exact arises
  · refine iff_of_false (fun failed => ?_) fun otherWord => otherWord.2.2 family onKeyword
    obtain ⟨after, arises⟩ := arises _ failed
    exact arises
  · obtain ⟨after, arises⟩ := arises _ failed
    exact arises
  · obtain ⟨after, -, -, leadsNone⟩ := arises _ failed
    exact leadsNone (mem_leadingKinds missed)

/-- The first token decides what a text is parsed to, or why it is not. -/
theorem routes_of_begins (begins : cursor.Begins dialect text) (rule : ShardingRule) :
    cursor.current.Routes dialect rule text := by
  have parsed := @parse_of_advance dialect rule text cursor (advance_ofText_ok_iff.mpr begins)
  rcases cursor.current.kind.keyword_cases with
    ⟨family, onKeyword⟩ | ⟨word, onWord, notKeyword⟩ | unreserved
  · exact routes_of_keyword begins onKeyword
  · rw [statementOf_of_otherWord onWord notKeyword] at parsed
    have isReserved : cursor.current.kind.IsReserved := ⟨word, onWord⟩
    have noFamily : ∀ family : Family, cursor.current.kind ≠ .reserved family.keyword := by
      intro family onKeyword
      exact notKeyword family (Kind.reserved.inj (onKeyword.symm.trans onWord))
    constructor <;> simp [parsed, outcome, isReserved, noFamily, eq_comm]
  · rw [statementOf_of_unreserved unreserved] at parsed
    constructor <;> simp [parsed, outcome, unreserved, eq_comm]

end Reading

/-- Every kind of token is routed to one factory or to none. The text that begins with a token is read
by the parser that the token is routed to, which no dialect lacks, and two rules come to the same
result but for the generated key. -/
theorem routed_by_first_token :
    (∀ (factories : Factories) (dialect : Dialect) (rule : ShardingRule) (cursor : Cursor),
      factories.Routed dialect rule cursor) ∧
    (∀ (dialect : Dialect) (rule : ShardingRule) (text : String) (first : Token),
      (Lexer.ofDialect dialect text).next.1 = .ok first → first.Routes dialect rule text) ∧
    ∀ (dialect : Dialect) (rule other : ShardingRule) (text : String),
      (parse dialect other text).map Statement.withoutKey =
        (parse dialect rule text).map Statement.withoutKey := by
  refine ⟨dispatch_routed, fun dialect rule text first lexes => ?_, Reading.parse_withoutKey⟩
  obtain ⟨cursor, begins, rfl⟩ := Cursor.exists_begins_of_lexes lexes
  exact Reading.routes_of_begins begins rule

/-- A reserved word that begins no statement, and one that begins an insertion. -/
theorem routed_by_first_token_words :
    (Lexer.ofDialect .oracle "-- a\n set b = 1").next.1 = .ok ⟨.reserved .SET, "set", 6, 9⟩ ∧
      (∀ rule, parse .oracle rule "-- a\n set b = 1" =
        .error (.unsupportedKeyword (.reserved .SET))) ∧
      (Lexer.ofDialect .mySQL "INSERT t SET a").next.1 = .ok ⟨.reserved .INSERT, "INSERT", 0, 6⟩ ∧
      ∀ rule kind, parse .mySQL rule "INSERT t SET a" ≠ .error (.unsupportedKeyword kind) := by
  obtain ⟨-, routes, -⟩ := routed_by_first_token
  have set : (Lexer.ofDialect .oracle "-- a\n set b = 1").next.1 =
      .ok ⟨.reserved .SET, "set", 6, 9⟩ := by
    decide +kernel
  have insert : (Lexer.ofDialect .mySQL "INSERT t SET a").next.1 =
      .ok ⟨.reserved .INSERT, "INSERT", 0, 6⟩ := by
    decide +kernel
  refine ⟨set, fun rule => ?_, insert, fun rule kind failed => ?_⟩
  · refine ((routes _ rule _ _ set).otherWord _).mpr ⟨rfl, ⟨.SET, rfl⟩, fun family => ?_⟩
    cases family <;> decide
  · exact (((routes _ rule _ _ insert).otherWord kind).mp failed).2.2 .insert rfl

end SqlSharding
