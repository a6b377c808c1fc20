import SqlSharding.Proofs.TableList

/-!
# Commas behind a list of tables

The commas of a removal or an emptying either stand between two tables that are read, or behind the
token that ends the list. The tables behind the latter are lost, since the rest of the statement is
skipped unread.
-/

namespace SqlSharding

open Reading (depthAfter)

/-- The tokens of a statement outside of groups, up to its end. -/
def outsideGroups (tokens : List Token) : List Token :=
  ungrouped 0 (tokens.takeWhile (·.kind ∉ statementEnds))

/-- The tokens neither end a statement nor open a group. -/
def Flat (tokens : List Token) : Prop :=
  ∀ token ∈ tokens, token.kind ∉ statementEnds ∧ token.kind ≠ .symbol .leftParen

/-- Tokens that end no statement and open no group stand outside of groups before those that follow. -/
theorem outsideGroups_append {front : List Token} (flat : Flat front) (rest : List Token) :
    outsideGroups (front ++ rest) = front ++ outsideGroups rest := by
  induction front with
  | nil => rfl
  | cons token front inductionHypothesis =>
    obtain ⟨⟨goesOn, notOpen⟩, flat⟩ := List.forall_mem_cons.mp flat
    rw [outsideGroups, List.cons_append, List.takeWhile_cons_of_pos (by simpa using goesOn), ungrouped,
      if_pos rfl, depthAfter_of_ne notOpen]
    exact congrArg (token :: ·) (inductionHypothesis flat)

/-- Words that may be missing are reserved words. -/
theorem Optionally.forall_reserved {allowed : Bool} (words : List ReservedWord) {tokens : List Token}
    (isOptional : Optionally allowed (words.map .reserved) tokens) :
    ∀ token ∈ tokens, ∃ word, token.kind = .reserved word := by
  cases isOptional with
  | missing => exact nofun
  | written _ areWords =>
    intro token isIn
    obtain ⟨word, -, isWord⟩ := List.mem_map.mp (areWords ▸ List.mem_map_of_mem isIn)
    exact ⟨word, isWord.symm⟩

/-- The opening of a removal or an emptying is made of reserved words. -/
theorem ListOpening.forall_reserved {grammar : Grammar} {family : Family} {opening : List Token}
    (isOpening : ListOpening grammar family opening) :
    ∀ token ∈ opening, ∃ word, token.kind = .reserved word := by
  cases isOpening with
  | drop isWord isTemporary isTable isGuard =>
    rw [List.forall_mem_cons, List.forall_mem_append, List.forall_mem_cons]
    exact ⟨⟨_, isWord⟩, Optionally.forall_reserved [.TEMPORARY] isTemporary, ⟨_, isTable⟩,
      Optionally.forall_reserved [.IF, .EXISTS] isGuard⟩
  | truncate isWord isTable =>
    rw [List.forall_mem_cons]
    exact ⟨⟨_, isWord⟩, Optionally.forall_reserved [.TABLE] isTable⟩

/-- The opening of a removal or an emptying ends no statement and opens no group. -/
theorem ListOpening.flat {grammar : Grammar} {family : Family} {opening : List Token}
    (isOpening : ListOpening grammar family opening) : Flat opening := by
  intro token isIn
  obtain ⟨word, isWord⟩ := isOpening.forall_reserved token isIn
  simp [isWord, statementEnds]

/-- The opening of a removal or an emptying holds no comma. -/
theorem ListOpening.commas_eq_zero {grammar : Grammar} {family : Family} {opening : List Token}
    (isOpening : ListOpening grammar family opening) : commas opening = 0 := by
  refine SqlSharding.commas_eq_zero fun token isIn isComma => ?_
  obtain ⟨word, isWord⟩ := isOpening.forall_reserved token isIn
  cases isWord.symm.trans isComma

/-- A table of a list ends no statement and opens no group. -/
theorem ListedTable.flat {takesOnly : Bool} {table : List Token} {last : Token}
    (isTable : ListedTable takesOnly table last) : Flat table := by
  intro token isIn
  rcases isTable.forall_kind token isIn with isWord | isDot | isName
  · simp [isWord, statementEnds]
  · simp [isDot, statementEnds]
  · constructor <;> intro isMark
    · simp only [statementEnds, List.mem_cons, List.not_mem_nil, or_false] at isMark
      rcases isMark with isMark | isMark <;> rw [isMark] at isName <;> cases isName
    · rw [isMark] at isName
      cases isName

namespace Reading

variable {dialect : Dialect} {rule : ShardingRule} {text : String} {statement : Statement}

/-- Whatever removal or emptying is parsed has a list of tables behind its opening, and marks each of
them. Outside of groups it has one comma less than marks, and further ones behind the token that ends
the list: these are skipped. -/
theorem marks_add_commas_of_parse (parsed : parse dialect rule text = .ok statement)
    (isListing : statement.family = .drop ∨ statement.family = .truncate) :
    ∃ opening list next rest lasts,
      (Tape.ofText dialect text).tokens = opening ++ (list ++ next :: rest) ∧
      ListOpening dialect.grammar statement.family opening ∧
      Separated (ListedTable (statement.family.takesOnly dialect.grammar)) list lasts ∧
      next.kind ≠ .symbol .dot ∧ next.kind ≠ .symbol .comma ∧
      statement.marks = lasts.map (·.mark) ∧
      statement.marks.length + commas (outsideGroups (next :: rest)) =
        commas (outsideGroups (Tape.ofText dialect text).tokens) + 1 := by
  obtain ⟨opening, list, next, rest, lasts, whole, isOpening, isList, notDot, notComma, -, -, made⟩ :=
    (parse_iff_list isListing).mp ⟨parsed, rfl⟩
  have marks : statement.marks = lasts.map (·.mark) := by
    rw [made, Statement.ofReferences, List.map_map]
    rfl
  have flatList : Flat list := by
    refine isList.forall_mem (fun _ _ isTable => isTable.flat) fun token isComma => ?_
    simp [isComma, statementEnds]
  have commasList : commas list + 1 = lasts.length :=
    isList.commas_eq fun _ _ isTable => isTable.ne_comma
  have total : commas (outsideGroups (Tape.ofText dialect text).tokens) =
      commas list + commas (outsideGroups (next :: rest)) := by
    rw [whole, outsideGroups_append isOpening.flat, outsideGroups_append flatList, commas_append,
      commas_append, isOpening.commas_eq_zero, Nat.zero_add]
  refine ⟨opening, list, next, rest, lasts, whole, isOpening, isList, notDot, notComma, marks, ?_⟩
  rw [total, marks, List.length_map, ← commasList]
  omega

/-- Two tables are read, and a comma between parentheses counts for nothing. -/
theorem marks_add_commas_of_parse_partition :
    let text := "DROP TABLE IF EXISTS t_order, s.t_user RESTRICT (p, q)"
    ∃ statement opening list next rest lasts,
      parse .mySQL .empty text = .ok statement ∧
      (Tape.ofText .mySQL text).tokens = opening ++ (list ++ next :: rest) ∧
      ListOpening .mySQL statement.family opening ∧
      Separated (ListedTable (statement.family.takesOnly .mySQL)) list lasts ∧
      next.kind ≠ .symbol .comma ∧ statement.marks = [⟨21, "t_order"⟩, ⟨32, "t_user"⟩] ∧
      2 + commas (outsideGroups (next :: rest)) =
        commas (outsideGroups (Tape.ofText .mySQL text).tokens) + 1 := by
  intro text
  have parsed : parse .mySQL .empty text = .ok
      { family := .drop
        tables := ⟨[⟨"t_order", []⟩, ⟨"t_user", []⟩]⟩
        marks := [⟨21, "t_order"⟩, ⟨32, "t_user"⟩] } :=
    parse_of_toOption (by decide +kernel)
  obtain ⟨opening, list, next, rest, lasts, whole, isOpening, isList, -, notComma, -, total⟩ :=
    marks_add_commas_of_parse parsed (.inl rfl)
  exact ⟨_, opening, list, next, rest, lasts, parsed, whole, isOpening, isList, notComma, rfl, total⟩

/-- A table that is listed behind the mark of inheritance is emptied, and it is neither refused nor
reported. -/
theorem exists_listed_table_lost :
    let text := "TRUNCATE TABLE t_config *, t_order"
    let rule : ShardingRule := { tableRules := [{ logicTable := "t_order" }] }
    ∃ statement : Statement,
      parse .postgreSQL rule text = .ok statement ∧ statement.family = .truncate ∧
        statement.marks = [⟨15, "t_config"⟩] ∧
        (Tape.ofText .postgreSQL text).tokens.map (·.kind) =
          [.reserved .TRUNCATE, .reserved .TABLE, .literal .identifier, .symbol .multiply,
            .symbol .comma, .literal .identifier, .endOfText] ∧
        statement.marks.length ≠ commas (outsideGroups (Tape.ofText .postgreSQL text).tokens) + 1 ∧
        rule.isLogicTable "t_order" = true ∧ statement.isSharded rule = false := by
  intro text rule
  have parsed : parse .postgreSQL rule text =
      .ok { family := .truncate, tables := ⟨[⟨"t_config", []⟩]⟩, marks := [⟨15, "t_config"⟩] } :=
    parse_of_toOption (by decide +kernel)
  have lost : commas (outsideGroups (Tape.ofText .postgreSQL text).tokens) = 1 := by
    decide +kernel
  refine ⟨_, parsed, rfl, rfl, by decide +kernel, ?_, by decide +kernel, by decide +kernel⟩
  rw [lost]
  nofun

end Reading

end SqlSharding
