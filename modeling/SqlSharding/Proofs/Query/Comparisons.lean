import SqlSharding.Proofs.Query.Places

/-!
# Comparisons that hold a `FROM`

The comparison `IS DISTINCT FROM` of two names holds the word that begins the tables of a query and that
an update must not have. Whether the comparison stands between parentheses makes no difference in the
clauses of a query and in the condition of a join, where no `FROM` is looked for. In the list of a query
its `FROM` is taken for the one before the tables, and in an update it is refused.
-/

namespace SqlSharding

open Reading

/-- A comparison of two names with `IS DISTINCT FROM`, or with `IS NOT DISTINCT FROM`. -/
structure Comparison where
  left : List Token
  is : Token
  negation : Option Token
  distinct : Token
  word : Token
  right : List Token
  /-- The last part of the right name. -/
  last : Token

/-- The kinds of the tokens before the `FROM` of a comparison that are no names. -/
def comparisonKinds : List Kind := [.symbol .dot, .reserved .IS, .reserved .NOT, .reserved .DISTINCT]

namespace Comparison

/-- The tokens before the `FROM` of the comparison. -/
def lead (comparison : Comparison) : List Token :=
  comparison.left ++ comparison.is :: (comparison.negation.toList ++ [comparison.distinct])

/-- The tokens of the comparison. -/
def tokens (comparison : Comparison) : List Token :=
  comparison.lead ++ comparison.word :: comparison.right

/-- The comparison between two parentheses. -/
def grouped (comparison : Comparison) (opening closing : Token) : List Token :=
  opening :: (comparison.tokens ++ [closing])

/-- The comparison is one of two names by its words. -/
structure IsWritten (comparison : Comparison) : Prop where
  isLeft : ∃ last, DottedName comparison.left last
  isIs : comparison.is.kind = .reserved .IS
  isNegation : ∀ token ∈ comparison.negation, token.kind = .reserved .NOT
  isDistinct : comparison.distinct.kind = .reserved .DISTINCT
  isFrom : comparison.word.kind = .reserved .FROM
  isRight : DottedName comparison.right comparison.last

end Comparison

/-- Kinds apart from those that are allowed, none of which is a name. -/
theorem not_mem_of_apart {kinds allowed : List Kind} {kind : Kind}
    (apart : ∀ kind ∈ kinds, kind ∉ allowed ∧ kind.isName = false)
    (isAllowed : kind ∈ allowed ∨ kind.isName = true) : kind ∉ kinds := by
  intro isIn
  obtain ⟨notAllowed, noName⟩ := apart kind isIn
  rcases isAllowed with isAllowed | isName
  · exact notAllowed isAllowed
  · rw [noName] at isName
    cases isName

/-- Allowed tokens are skipped where the skipping stops at none of the kinds that are allowed. -/
theorem run_of_apart {kinds allowed : List Kind} {tokens : List Token} {last : Token}
    (isLast : tokens.getLast? = some last) (notDot : last.kind ≠ .symbol .dot)
    (areAllowed : ∀ token ∈ tokens, token.kind ∈ allowed ∨ token.kind.isName = true)
    (apart : ∀ kind ∈ .endOfText :: .symbol .leftParen :: kinds, kind ∉ allowed ∧ kind.isName = false) :
    Run (fun _ kind => kinds.contains kind) false tokens false := by
  refine run_of_forall isLast notDot fun token isIn => ?_
  have others := not_mem_of_apart apart (areAllowed token isIn)
  simp only [List.mem_cons, not_or] at others
  exact ⟨others.1, others.2.1, fun _ => by simpa using others.2.2⟩

namespace Comparison.IsWritten

variable {comparison : Comparison} {kinds : List Kind}

/-- Before the `FROM` of a comparison stand names, dots and the words of the comparison. -/
theorem forall_lead (isWritten : comparison.IsWritten) : ∀ token ∈ comparison.lead,
    token.kind ∈ comparisonKinds ∨ token.kind.isName = true := by
  obtain ⟨last, isLeft⟩ := isWritten.isLeft
  rw [lead, List.forall_mem_append, List.forall_mem_cons, List.forall_mem_append,
    List.forall_mem_singleton, isWritten.isIs, isWritten.isDistinct]
  refine ⟨fun token isIn => ?_, .inl (by decide), fun token isIn => .inl ?_, .inl (by decide)⟩
  · exact (isLeft.forall_kind token isIn).imp_left fun isDot => by rw [isDot]; decide
  · rw [isWritten.isNegation token (Option.mem_toList.mp isIn)]
    decide

/-- A comparison is made of names, dots and its words. -/
theorem forall_tokens (isWritten : comparison.IsWritten) : ∀ token ∈ comparison.tokens,
    token.kind ∈ .reserved .FROM :: comparisonKinds ∨ token.kind.isName = true := by
  rw [tokens, List.forall_mem_append, List.forall_mem_cons, isWritten.isFrom]
  refine ⟨fun token isIn => ?_, .inl (by decide), fun token isIn => ?_⟩
  · exact (isWritten.forall_lead token isIn).imp_left (List.mem_cons_of_mem _)
  · exact (isWritten.isRight.forall_kind token isIn).imp_left fun isDot => by rw [isDot]; decide

/-- What stands before the `FROM` of a comparison is skipped where none of its words stops the skipping.
-/
theorem run_lead (isWritten : comparison.IsWritten) (apart : ∀ kind ∈ .endOfText ::
    .symbol .leftParen :: kinds, kind ∉ comparisonKinds ∧ kind.isName = false) :
    Run (fun _ kind => kinds.contains kind) false comparison.lead false := by
  have isLast : comparison.lead.getLast? = some comparison.distinct := by
    rw [lead, ← List.cons_append, ← List.append_assoc, List.getLast?_concat]
  exact run_of_apart isLast (by rw [isWritten.isDistinct]; decide) isWritten.forall_lead apart

/-- A comparison ends with the last part of its right name. -/
theorem getLast?_tokens (isWritten : comparison.IsWritten) :
    comparison.tokens.getLast? = some comparison.last := by
  rw [tokens, List.getLast?_append, List.getLast?_cons, isWritten.isRight.getLast?_eq]
  rfl

/-- A comparison is skipped where none of its words stops the skipping. -/
theorem run_tokens (isWritten : comparison.IsWritten) (apart : ∀ kind ∈ .endOfText ::
    .symbol .leftParen :: kinds, kind ∉ .reserved .FROM :: comparisonKinds ∧ kind.isName = false) :
    Run (fun _ kind => kinds.contains kind) false comparison.tokens false := by
  have notDot : comparison.last.kind ≠ .symbol .dot := by
    intro isDot
    have isName := isWritten.isRight.last_isName
    rw [isDot] at isName
    cases isName
  exact run_of_apart isWritten.getLast?_tokens notDot isWritten.forall_tokens apart

/-- A comparison between parentheses is a group. -/
theorem isGroup (isWritten : comparison.IsWritten) {opening closing : Token}
    (opens : opening.kind = .symbol .leftParen) (closes : closing.kind = .symbol .rightParen) :
    Group (comparison.grouped opening closing) :=
  .mk opens (balanced_of_forall fun token isIn =>
    not_mem_of_apart (by decide) (isWritten.forall_tokens token isIn)) closes

end Comparison.IsWritten

/-- Behind its opening the first text has the comparison in the place between the front and the tokens
behind. The second text has the same tokens outside of groups, but for the parentheses around the
comparison. -/
structure Comparison.IsWrapped (comparison : Comparison) (family : Family) (dialect : Dialect)
    (text other : String) (front behind : List Token) : Prop where
  isWritten : comparison.IsWritten
  clean : (Tape.ofText dialect text).isClean = true
  cleanWrapped : (Tape.ofText dialect other).isClean = true
  place : ∃ (words : List Token) (here : Cursor) (opening closing : Token),
    family.OpensAt dialect text here ∧ (Tape.ofText dialect text).tokens = words ++ here.tokens ∧
      here.tokens = front ++ (comparison.tokens ++ behind) ∧
        opening.kind = .symbol .leftParen ∧ closing.kind = .symbol .rightParen ∧
          outside 0 (Tape.ofText dialect other).tokens =
            outside 0 (words ++ (front ++ (comparison.grouped opening closing ++ behind)))

/-- The cursors are before the same tokens, but that the comparison is put between parentheses before the
second one: what follows the comparison is the same. -/
structure Comparison.Twins (comparison : Comparison) (front : List Token) (here twin behind : Cursor) :
    Prop where
  isWritten : comparison.IsWritten
  settled : here.Settled
  settledTwin : twin.Settled
  bare : here.Passes (front ++ comparison.tokens) behind
  wrapped : ∃ group, Group group ∧ twin.Passes (front ++ group) behind

namespace Reading

open Cursor

variable {comparison : Comparison} {family : Family} {dialect : Dialect} {text other : String}
  {front behind : List Token}

/-- Behind a comparison a text goes on. -/
theorem exists_passes_of_comparison {here : Cursor} (isWritten : comparison.IsWritten)
    (settled : here.Settled) (clean : here.ahead.ending = .finished)
    (tokens : here.tokens = front ++ (comparison.tokens ++ behind)) :
    ∃ after, here.Passes (front ++ comparison.tokens) after ∧ after.tokens = behind := by
  cases behind with
  | nil =>
    obtain ⟨place, isLast⟩ := settled.last clean
    rw [tokens, List.append_nil, List.getLast?_append, isWritten.getLast?_tokens] at isLast
    have isName := isWritten.isRight.last_isName
    rw [Option.some.inj isLast] at isName
    cases isName
  | cons token later =>
    rw [← List.append_assoc] at tokens
    obtain ⟨after, passed, onToken, ahead⟩ := exists_passes tokens
    exact ⟨after, passed, by rw [Cursor.tokens, onToken, ahead]⟩

/-- Beside the cursor behind the opening of the first text stands one before the same tokens with the
comparison between parentheses. It is before what the second text holds behind its opening. -/
theorem exists_twins (isOne : family = .select ∨ family = .update)
    (isWrapped : comparison.IsWrapped family dialect text other front behind) :
    ∃ here twin here' after : Cursor, family.OpensAt dialect text here ∧
      family.OpensAt dialect other here' ∧ twin.SameOutside here' ∧
        comparison.Twins front here twin after ∧ after.tokens = behind := by
  obtain ⟨words, here, opening, closing, opens, whole, tokens, isOpening, isClosing, same⟩ :=
    isWrapped.place
  have isGroup := isWrapped.isWritten.isGroup isOpening isClosing
  have settled := settled_of_opensAt opens
  have clean := finished_of_opensAt isOne opens isWrapped.clean
  obtain ⟨after, bare, rfl⟩ := exists_passes_of_comparison isWrapped.isWritten settled clean tokens
  obtain ⟨twin, wrapped⟩ := exists_passes_to (front ++ comparison.grouped opening closing) after
  have settledTwin : twin.Settled := by
    refine wrapped.settled_before (bare.settled settled) ?_
    rw [List.forall_mem_append]
    exact ⟨(List.forall_mem_append.mp (bare.ne_end settled)).1, isGroup.ne_end⟩
  obtain ⟨token, rest, first⟩ : ∃ token rest, front ++ comparison.tokens = token :: rest :=
    List.exists_cons_of_ne_nil (by simp [Comparison.tokens])
  have notEnd : here.current.kind ≠ .endOfText := by
    rw [first] at bare
    rw [bare.current_eq]
    exact bare.ne_end settled token List.mem_cons_self
  -- Where the comparison comes first, the opening of the second text has to stop at the parenthesis.
  have ahead : twin.current.kind = here.current.kind ∨ twin.current.kind = .symbol .leftParen := by
    cases front with
    | nil => exact .inr (wrapped.current_eq ▸ isOpening)
    | cons token front => exact .inl (by rw [wrapped.current_eq, bare.current_eq])
  rw [← List.append_assoc front, ← wrapped.tokens] at same
  obtain ⟨here', opens', sameTwin⟩ := exists_opensAt_of_outside isOne opens notEnd whole
    isWrapped.cleanWrapped settledTwin (by rw [← wrapped.ending, bare.ending, clean]) ahead same
  exact ⟨here, twin, here', after, opens, opens', sameTwin,
    ⟨isWrapped.isWritten, settled, settledTwin, bare, _, isGroup, wrapped⟩, rfl⟩

end Reading

namespace Comparison.Twins

variable {α : Type} {comparison : Comparison} {front : List Token} {here twin behind : Cursor}
  {stops : (afterDot : Bool) → Kind → Bool} {body rest : Reading α}

/-- The cursor behind the comparison is settled. -/
theorem settledBehind (twins : comparison.Twins front here twin behind) : behind.Settled :=
  twins.bare.settled twins.settled

/-- Between parentheses the comparison is skipped. -/
theorem body_twin (twins : comparison.Twins front here twin behind)
    (skips : SkipsBehind stops front body rest) (goesOn : stops false (.symbol .leftParen) = false) :
    body twin = rest behind := by
  obtain ⟨group, isGroup, passed⟩ := twins.wrapped
  have isRun : Run stops false group false := by
    rw [← List.append_nil group]
    exact .group isGroup goesOn .nil
  exact skips twins.settledTwin isRun passed

/-- Where the comparison is skipped, too, the parentheses make no difference. -/
theorem body_eq (twins : comparison.Twins front here twin behind)
    (skips : SkipsBehind stops front body rest) (goesOn : stops false (.symbol .leftParen) = false)
    (isRun : Run stops false comparison.tokens false) : body twin = body here :=
  (twins.body_twin skips goesOn).trans (skips twins.settled isRun twins.bare).symm

/-- Without parentheses the reading comes to the `FROM` of the comparison where it stops there. -/
theorem exists_body_here (twins : comparison.Twins front here twin behind)
    (skips : SkipsBehind stops front body rest) (isRun : Run stops false comparison.lead false) :
    ∃ atFrom : Cursor, atFrom.Settled ∧ atFrom.Passes (comparison.word :: comparison.right) behind ∧
      body here = rest atFrom := by
  have bare := twins.bare
  rw [Comparison.tokens, ← List.append_assoc] at bare
  obtain ⟨atFrom, toFrom, onward⟩ := bare.split
  exact ⟨atFrom, toFrom.settled twins.settled, onward, skips twins.settled isRun toFrom⟩

end Comparison.Twins

namespace Reading

variable {comparison : Comparison} {dialect : Dialect} {text other : String} {front behind : List Token}

/-- In a clause and in a join condition, parentheses around the comparison make no difference. -/
theorem toOption_parse_eq_of_wrapped {rule : ShardingRule}
    (isWrapped : comparison.IsWrapped .select dialect text other front behind)
    (inPlace : InClauses dialect.grammar front ∨
      InCondition dialect.grammar front ∧ Run endsCondition false comparison.tokens false) :
    (parse dialect rule other).toOption.map Statement.withoutPlaces =
      (parse dialect rule text).toOption.map Statement.withoutPlaces := by
  obtain ⟨here, twin, here', _, opens, opens', same, twins, -⟩ := exists_twins (.inl rfl) isWrapped
  refine toOption_parse_eq_of_body (outline_select _) (agree_queryBody _) opens opens' same ?_
  rcases inPlace with inClauses | ⟨inCondition, isRun⟩
  · obtain ⟨_, skips⟩ := skipsBehind_clauses inClauses
    have isRun : Run endsQuery false comparison.tokens false :=
      @Comparison.IsWritten.run_tokens _ (.symbol .semicolon :: setOperators) isWrapped.isWritten
        (by decide)
    exact twins.body_eq skips rfl isRun
  · obtain ⟨_, skips⟩ := skipsBehind_condition inCondition
    exact twins.body_eq skips rfl isRun

/-- Without parentheses the right name of a comparison in the list is taken for the first table. -/
theorem exists_tables_of_bare {rule : ShardingRule} {statement : Statement}
    (isWrapped : comparison.IsWrapped .select dialect text other front behind)
    (inList : Run endsSelectList false front false)
    (notDual : ∀ token ∈ comparison.right.head?, token.kind ∉ dualNames)
    (nameEnds : kindAhead behind .endOfText ≠ .symbol .dot)
    (parsed : parse dialect rule text = .ok statement) :
    ∃ alias? more, statement = .ofReferences .select (⟨comparison.last.mark, alias?⟩ :: more) := by
  obtain ⟨here, _, _, after, opens, -, -, twins, rfl⟩ := exists_twins (.inl rfl) isWrapped
  have isWritten := isWrapped.isWritten
  have isRun : Run endsSelectList false comparison.lead false :=
    @Comparison.IsWritten.run_lead _ ([Kind.reserved .FROM, .symbol .semicolon] ++ setOperators)
      isWritten (by decide)
  obtain ⟨atFrom, settled, passed, same⟩ := twins.exists_body_here (skipsBehind_list inList) isRun
  obtain ⟨behindFrom, toName, onward⟩ := passed.uncons
  obtain ⟨outline, final, read, rfl⟩ := exists_body_of_parse (outline_select _) opens parsed
  rw [same, queryBody_of_list settled .nil isWritten.isFrom toName] at read
  obtain ⟨references, _, tables, clauses⟩ := bind_ok_iff.mp read
  obtain ⟨alias?, more, rfl⟩ := exists_tables_of_name (toName.settled settled) isWritten.isRight notDual
    onward nameEnds tables
  obtain ⟨_, _, -, clauses⟩ := bind_ok_iff.mp clauses
  obtain ⟨_, _, -, made⟩ := bind_ok_iff.mp clauses
  obtain ⟨rfl, -⟩ := pure_ok_iff.mp made
  exact ⟨alias?, more, rfl⟩

/-- Between parentheses a comparison in the list is skipped, and the tables are those behind the `FROM`
that comes next. -/
theorem toOption_parse_of_wrapped_list {rule : ShardingRule} {references : List TableReference}
    (isWrapped : comparison.IsWrapped .select dialect text other front behind)
    (inList : Run endsSelectList false front false)
    (isQuery : QueryFrom dialect.grammar behind references) :
    (parse dialect rule other).toOption.map Statement.withoutPlaces =
      some (Statement.ofReferences .select references).withoutPlaces := by
  obtain ⟨_, _, _, after, -, opens', same, twins, rfl⟩ := exists_twins (.inl rfl) isWrapped
  obtain ⟨final, _, -, read, terminates⟩ := exists_queryBody_of_queryFrom twins.settledBehind isQuery
  have body := (twins.body_twin (skipsBehind_list inList) rfl).trans read
  exact toOption_parse_of_body (outline_select _) (agree_queryBody _) opens' same body terminates

/-- Without parentheses a comparison behind `SET` is refused for its `FROM`. -/
theorem parse_error_of_bare {rule : ShardingRule} {reference : TableReference}
    (isWrapped : comparison.IsWrapped .update dialect text other front behind)
    (inAssignments : InAssignments dialect.grammar front reference) :
    parse dialect rule text = .error (.unsupportedToken comparison.word) := by
  obtain ⟨here, _, _, _, opens, -, -, twins, -⟩ := exists_twins (.inr rfl) isWrapped
  have isWritten := isWrapped.isWritten
  have isRun : Run endsAssignments false comparison.lead false :=
    @Comparison.IsWritten.run_lead _ [.reserved .FROM, .symbol .semicolon] isWritten (by decide)
  obtain ⟨atFrom, settled, passed, same⟩ :=
    twins.exists_body_here (skipsBehind_assignments inAssignments) isRun
  have onFrom := passed.current_eq
  have skipped : skipItemsUntil [.reserved .FROM, .symbol .semicolon] atFrom = .ok () atFrom := by
    refine skipItems_of_run settled .nil (.refl atFrom) (.inr ?_)
    rw [onFrom, isWritten.isFrom]
    rfl
  have refused : refuse [.reserved .FROM] atFrom =
      .error (.unsupportedToken comparison.word) atFrom := by
    rw [refuse_error_iff, Cursor.isOn_iff, onFrom, isWritten.isFrom]
    exact ⟨List.mem_cons_self, rfl, rfl⟩
  have failed : updateClauses reference atFrom = .error (.unsupportedToken comparison.word) atFrom := by
    rw [updateClauses, bind_of_ok skipped]
    exact bind_error_iff.mpr (.inl refused)
  exact parse_of_body_error (outline_update _) opens (same.trans failed)

/-- Between parentheses a comparison behind `SET` is skipped, and the update is read if no other token
outside of groups is a `FROM`. -/
theorem toOption_parse_of_wrapped_assignments {rule : ShardingRule} {reference : TableReference}
    {clauses later : List Token} {terminator : Token} {endsInDot : Bool}
    (isWrapped : comparison.IsWrapped .update dialect text other front (clauses ++ terminator :: later))
    (inAssignments : InAssignments dialect.grammar front reference)
    (areClauses : Run endsAssignments false clauses endsInDot)
    (terminates : terminator.kind = .endOfText ∨ terminator.kind = .symbol .semicolon) :
    (parse dialect rule other).toOption.map Statement.withoutPlaces =
      some (Statement.ofReferences .update [reference]).withoutPlaces := by
  obtain ⟨_, _, _, after, -, opens', same, twins, behind⟩ := exists_twins (.inr rfl) isWrapped
  obtain ⟨final, passed, rfl, -⟩ := Cursor.exists_passes behind
  have skipped : skipItemsUntil [.reserved .FROM, .symbol .semicolon] after = .ok () final := by
    refine skipItems_of_run twins.settledBehind areClauses passed (terminates.imp_right fun ends => ?_)
    rw [ends]
    rfl
  have notFrom : final.current.kind ∉ [Kind.reserved .FROM] := by
    rcases terminates with ends | ends <;>
      rw [ends] <;> decide
  have read : updateClauses reference after = .ok ⟨[reference], []⟩ final := by
    rw [updateClauses, bind_of_ok skipped, bind_of_ok (refuse_ok_iff.mpr ⟨notFrom, rfl⟩)]
    rfl
  have body := (twins.body_twin (skipsBehind_assignments inAssignments) rfl).trans read
  exact toOption_parse_of_body (outline_update _) (agree_updateRest _) opens' same body terminates

end Reading

/-- Texts whose openings are one word, with a comparison between parentheses in the second one. -/
theorem Comparison.IsWrapped.of_tape {comparison again : Comparison} {family : Family}
    {dialect : Dialect} {text other : String} {first token opening closing : Token}
    {rest front behind later : List Token}
    (isWritten : comparison.IsWritten) (isOpening : opening.kind = .symbol .leftParen)
    (isClosing : closing.kind = .symbol .rightParen)
    (tape : Tape.ofText dialect text = ⟨first :: (front ++ (comparison.tokens ++ behind)), .finished⟩)
    (wrappedTape : Tape.ofText dialect other =
      ⟨first :: (front ++ (again.grouped opening closing ++ later)), .finished⟩)
    (tokens : front ++ (comparison.tokens ++ behind) = token :: rest)
    (opened : family.opening dialect.grammar ⟨dialect, text, first, ⟨token :: rest, .finished⟩⟩ =
      .ok () ⟨dialect, text, token, ⟨rest, .finished⟩⟩)
    (same : outside 0 (first :: (front ++ (again.grouped opening closing ++ later))) =
      outside 0 (first :: (front ++ (comparison.grouped opening closing ++ behind)))) :
    comparison.IsWrapped family dialect text other front behind := by
  rw [tokens] at tape
  refine ⟨isWritten, by rw [tape]; rfl, by rw [wrappedTape]; rfl, [first],
    ⟨dialect, text, token, ⟨rest, .finished⟩⟩, opening, closing, ⟨⟨dialect, text, first,
      ⟨token :: rest, .finished⟩⟩, ⟨rfl, rfl, by rw [tape]; rfl, by rw [tape]⟩, opened⟩,
    by rw [tape]; rfl, tokens.symm, isOpening, isClosing, ?_⟩
  rw [wrappedTape, same]
  rfl

namespace Comparison

/-- A name that is one letter. -/
def letter (text : String) (start : Nat) : Token :=
  ⟨.literal .identifier, text, start, start + 1⟩

/-- The comparison `a IS DISTINCT FROM b`. -/
def ofLetters (start : Nat) : Comparison where
  left := [letter "a" start]
  is := ⟨.reserved .IS, "IS", start + 2, start + 4⟩
  negation := none
  distinct := ⟨.reserved .DISTINCT, "DISTINCT", start + 5, start + 13⟩
  word := ⟨.reserved .FROM, "FROM", start + 14, start + 18⟩
  right := [letter "b" (start + 19)]
  last := letter "b" (start + 19)

/-- The comparison `(a IS DISTINCT FROM b)`. -/
def groupOfLetters (start : Nat) : List Token :=
  (ofLetters (start + 1)).grouped ⟨.symbol .leftParen, "(", start, start + 1⟩
    ⟨.symbol .rightParen, ")", start + 21, start + 22⟩

/-- The comparison of two letters is one. -/
theorem isWritten_ofLetters (start : Nat) : (ofLetters start).IsWritten where
  isLeft := ⟨_, .mk rfl .nil⟩
  isIs := rfl
  isNegation := by simp [ofLetters]
  isDistinct := rfl
  isFrom := rfl
  isRight := .mk rfl .nil

/-- A table with a name of one letter, in front of what may follow it in the texts below. -/
theorem factor_letter {next : Kind} (text : String) (start : Nat)
    (onward : next ∈ [.reserved .WHERE, .reserved .JOIN, .reserved .ON, .endOfText]) :
    Factor .mySQL next [letter text start] (some ⟨⟨start, text⟩, none⟩) := by
  simp only [List.mem_cons, List.not_mem_nil, or_false] at onward
  rcases onward with rfl | rfl | rfl | rfl <;>
    exact .table (.mk rfl .nil) (by simp [letter, dualNames]) (by decide)
      (.none (by decide) (by decide)) (.none (by decide))

/-- A letter is a list of a query. -/
theorem list_letter (text : String) (start : Nat) :
    Run endsSelectList false [letter text start] false :=
  run_of_forall rfl (by simp [letter]) (by simp +decide [letter])

/-- The tokens `x FROM t WHERE`. -/
def clauseFront : List Token :=
  [letter "x" 7, ⟨.reserved .FROM, "FROM", 9, 13⟩, letter "t" 14, ⟨.reserved .WHERE, "WHERE", 16, 21⟩]

/-- A comparison behind `WHERE`, and the same between parentheses. -/
theorem isWrapped_clauseFront : (ofLetters 22).IsWrapped .select .mySQL
    "SELECT x FROM t WHERE a IS DISTINCT FROM b" "SELECT x FROM t WHERE (a IS DISTINCT FROM b)"
    clauseFront [.endAt 42] := by
  let first : Token := ⟨.reserved .SELECT, "SELECT", 0, 6⟩
  have tape : Tape.ofText .mySQL "SELECT x FROM t WHERE a IS DISTINCT FROM b" =
      ⟨first :: (clauseFront ++ ((ofLetters 22).tokens ++ [.endAt 42])), .finished⟩ := by
    decide +kernel
  have wrappedTape : Tape.ofText .mySQL "SELECT x FROM t WHERE (a IS DISTINCT FROM b)" =
      ⟨first :: (clauseFront ++ (groupOfLetters 22 ++ [.endAt 44])), .finished⟩ := by
    decide +kernel
  exact .of_tape (isWritten_ofLetters 22) rfl rfl tape wrappedTape rfl rfl rfl

/-- What stands behind `WHERE` is in a clause. -/
theorem inClauses_clauseFront : InClauses .mySQL clauseFront :=
  .mk (list_letter "x" 7) rfl (.mk (factor_letter "t" 14 (by decide)) (.nil (by decide)))
    (run_of_forall rfl (by decide) (by decide))

/-- The tokens `JOIN u`. -/
def joinOfLetter : JoinedTable :=
  ⟨[], ⟨.reserved .JOIN, "JOIN", 16, 20⟩, [letter "u" 21], some ⟨⟨21, "u"⟩, none⟩⟩

/-- The tokens `x FROM t JOIN u ON`. -/
def conditionFront : List Token :=
  [letter "x" 7, ⟨.reserved .FROM, "FROM", 9, 13⟩, letter "t" 14] ++
    (joinOfLetter.tokens ++ [⟨.reserved .ON, "ON", 23, 25⟩])

/-- The tokens `JOIN v` and the end. -/
def behindCondition (start : Nat) : List Token :=
  [⟨.reserved .JOIN, "JOIN", start, start + 4⟩, letter "v" (start + 5), .endAt (start + 6)]

/-- A comparison behind `ON`, and the same between parentheses. -/
theorem isWrapped_conditionFront : (ofLetters 26).IsWrapped .select .mySQL
    "SELECT x FROM t JOIN u ON a IS DISTINCT FROM b JOIN v"
    "SELECT x FROM t JOIN u ON (a IS DISTINCT FROM b) JOIN v"
    conditionFront (behindCondition 47) := by
  let first : Token := ⟨.reserved .SELECT, "SELECT", 0, 6⟩
  have tape : Tape.ofText .mySQL "SELECT x FROM t JOIN u ON a IS DISTINCT FROM b JOIN v" =
      ⟨first :: (conditionFront ++ ((ofLetters 26).tokens ++ behindCondition 47)), .finished⟩ := by
    decide +kernel
  have wrappedTape : Tape.ofText .mySQL "SELECT x FROM t JOIN u ON (a IS DISTINCT FROM b) JOIN v" =
      ⟨first :: (conditionFront ++ (groupOfLetters 26 ++ behindCondition 49)), .finished⟩ := by
    decide +kernel
  exact .of_tape (isWritten_ofLetters 26) rfl rfl tape wrappedTape rfl rfl rfl

/-- What stands behind `ON` is in the condition of a join. -/
theorem inCondition_conditionFront : InCondition .mySQL conditionFront := by
  have isJoined : joinOfLetter.IsWritten .mySQL (.reserved .ON) :=
    ⟨List.forall_mem_nil _, List.mem_cons_self, factor_letter "u" 21 (by decide)⟩
  exact @InCondition.mk .mySQL _ [letter "t" 14] [] [] _ _ _ joinOfLetter [] false
    (list_letter "x" 7) rfl (factor_letter "t" 14 (by decide)) .nil isJoined rfl .nil

/-- The comparison of two letters does not end the condition of a join. -/
theorem endsCondition_ofLetters (start : Nat) :
    Run endsCondition false (ofLetters start).tokens false :=
  run_of_forall (isWritten_ofLetters start).getLast?_tokens (by simp [ofLetters, letter])
    (by simp +decide [ofLetters, tokens, lead, letter])

/-- The tokens `FROM t` and the end. -/
def behindList (start : Nat) : List Token :=
  [⟨.reserved .FROM, "FROM", start, start + 4⟩, letter "t" (start + 5), .endAt (start + 6)]

/-- A comparison in the list of a query, and the same between parentheses. -/
theorem isWrapped_list : (ofLetters 7).IsWrapped .select .mySQL
    "SELECT a IS DISTINCT FROM b FROM t" "SELECT (a IS DISTINCT FROM b) FROM t"
    [] (behindList 28) := by
  let first : Token := ⟨.reserved .SELECT, "SELECT", 0, 6⟩
  have tape : Tape.ofText .mySQL "SELECT a IS DISTINCT FROM b FROM t" =
      ⟨first :: ([] ++ ((ofLetters 7).tokens ++ behindList 28)), .finished⟩ := by
    decide +kernel
  have wrappedTape : Tape.ofText .mySQL "SELECT (a IS DISTINCT FROM b) FROM t" =
      ⟨first :: ([] ++ (groupOfLetters 7 ++ behindList 30)), .finished⟩ := by
    decide +kernel
  exact .of_tape (isWritten_ofLetters 7) rfl rfl tape wrappedTape rfl rfl rfl

/-- Behind the list stands the one table of a query. -/
theorem queryFrom_behindList (start : Nat) :
    QueryFrom .mySQL (behindList start) [⟨⟨start + 5, "t"⟩, none⟩] := by
  have areTables : FromTables .mySQL .endOfText [letter "t" (start + 5)]
      [⟨⟨start + 5, "t"⟩, none⟩] :=
    .mk (factor_letter "t" (start + 5) (by decide)) (.nil (by decide))
  exact @QueryFrom.mk .mySQL [] [letter "t" (start + 5)] [] [] _ (.endAt (start + 6)) _ false false
    .nil rfl areTables .nil (.inl rfl)

/-- The tokens `t SET x = 1 WHERE`. -/
def assignmentsFront : List Token :=
  [letter "t" 7, ⟨.reserved .SET, "SET", 9, 12⟩, letter "x" 13, ⟨.symbol .equals, "=", 15, 16⟩,
    ⟨.literal .int, "1", 17, 18⟩, ⟨.reserved .WHERE, "WHERE", 19, 24⟩]

/-- A comparison in the condition of an update, and the same between parentheses. -/
theorem isWrapped_assignmentsFront : (ofLetters 25).IsWrapped .update .mySQL
    "UPDATE t SET x = 1 WHERE a IS DISTINCT FROM b" "UPDATE t SET x = 1 WHERE (a IS DISTINCT FROM b)"
    assignmentsFront [.endAt 45] := by
  let first : Token := ⟨.reserved .UPDATE, "UPDATE", 0, 6⟩
  have tape : Tape.ofText .mySQL "UPDATE t SET x = 1 WHERE a IS DISTINCT FROM b" =
      ⟨first :: (assignmentsFront ++ ((ofLetters 25).tokens ++ [.endAt 45])), .finished⟩ := by
    decide +kernel
  have wrappedTape : Tape.ofText .mySQL "UPDATE t SET x = 1 WHERE (a IS DISTINCT FROM b)" =
      ⟨first :: (assignmentsFront ++ (groupOfLetters 25 ++ [.endAt 47])), .finished⟩ := by
    decide +kernel
  exact .of_tape (isWritten_ofLetters 25) rfl rfl tape wrappedTape rfl rfl rfl

/-- What stands behind the `WHERE` of an update is behind its `SET`. -/
theorem inAssignments_assignmentsFront :
    InAssignments .mySQL assignmentsFront ⟨⟨7, "t"⟩, none⟩ :=
  @InAssignments.mk .mySQL [letter "t" 7] [] [] _ (letter "t" 7) _ none (.mk rfl .nil)
    (.none (by decide) (by decide)) (.none (by decide)) rfl
    (run_of_forall rfl (by decide) (by simp +decide))

end Comparison

/-- Whether a comparison that holds a `FROM` stands between parentheses makes no difference in a clause
behind the tables of a query and in the condition of a join, in every dialect. It makes one where a `FROM`
is looked for. In the list of a query the right name of the bare comparison is taken for the first table,
while the comparison between parentheses is skipped. In an update the bare comparison is refused, while
the comparison between parentheses is skipped. -/
theorem parse_of_wrapped_comparison (rule : ShardingRule) {dialect : Dialect} {family : Family}
    {text other : String} {comparison : Comparison} {front behind : List Token}
    (isWrapped : comparison.IsWrapped family dialect text other front behind) :
    (family = .select → InClauses dialect.grammar front ∨
        InCondition dialect.grammar front ∧ Run endsCondition false comparison.tokens false →
      (parse dialect rule other).toOption.map Statement.withoutPlaces =
        (parse dialect rule text).toOption.map Statement.withoutPlaces) ∧
    (family = .select → Run endsSelectList false front false →
      (∀ statement, (∀ token ∈ comparison.right.head?, token.kind ∉ dualNames) →
        kindAhead behind .endOfText ≠ .symbol .dot → parse dialect rule text = .ok statement →
          ∃ alias? more, statement = .ofReferences .select (⟨comparison.last.mark, alias?⟩ :: more)) ∧
      ∀ references, QueryFrom dialect.grammar behind references →
        (parse dialect rule other).toOption.map Statement.withoutPlaces =
          some (Statement.ofReferences .select references).withoutPlaces) ∧
    (family = .update → ∀ reference, InAssignments dialect.grammar front reference →
      parse dialect rule text = .error (.unsupportedToken comparison.word) ∧
      ∀ (clauses later : List Token) (terminator : Token) (endsInDot : Bool),
        behind = clauses ++ terminator :: later → Run endsAssignments false clauses endsInDot →
          terminator.kind = .endOfText ∨ terminator.kind = .symbol .semicolon →
            (parse dialect rule other).toOption.map Statement.withoutPlaces =
              some (Statement.ofReferences .update [reference]).withoutPlaces) := by
  refine ⟨?_, ?_, ?_⟩
  · rintro rfl inPlace
    exact toOption_parse_eq_of_wrapped isWrapped inPlace
  · rintro rfl inList
    refine ⟨fun statement notDual nameEnds => ?_, fun references isQuery => ?_⟩
    · exact exists_tables_of_bare isWrapped inList notDual nameEnds
    · exact toOption_parse_of_wrapped_list isWrapped inList isQuery
  · rintro rfl reference inAssignments
    refine ⟨parse_error_of_bare isWrapped inAssignments, ?_⟩
    rintro clauses later terminator endsInDot rfl areClauses terminates
    exact toOption_parse_of_wrapped_assignments isWrapped inAssignments areClauses terminates

/-- A comparison in a clause, in the condition of a join, in the list of a query and in the condition of
an update. -/
theorem parse_of_wrapped_comparison_places :
    (parse .mySQL .empty "SELECT x FROM t WHERE (a IS DISTINCT FROM b)").toOption.map
        Statement.withoutPlaces =
      (parse .mySQL .empty "SELECT x FROM t WHERE a IS DISTINCT FROM b").toOption.map
        Statement.withoutPlaces ∧
    (parse .mySQL .empty "SELECT x FROM t JOIN u ON (a IS DISTINCT FROM b) JOIN v").toOption.map
        Statement.withoutPlaces =
      (parse .mySQL .empty "SELECT x FROM t JOIN u ON a IS DISTINCT FROM b JOIN v").toOption.map
        Statement.withoutPlaces ∧
    (∃ alias? more, Statement.ofReferences .select [⟨⟨26, "b"⟩, none⟩] =
      .ofReferences .select (⟨⟨26, "b"⟩, alias?⟩ :: more)) ∧
    (parse .mySQL .empty "SELECT (a IS DISTINCT FROM b) FROM t").toOption.map
        Statement.withoutPlaces =
      some (Statement.ofReferences .select [⟨⟨33, "t"⟩, none⟩]).withoutPlaces ∧
    parse .mySQL .empty "UPDATE t SET x = 1 WHERE a IS DISTINCT FROM b" =
      .error (.unsupportedToken ⟨.reserved .FROM, "FROM", 39, 43⟩) ∧
    (parse .mySQL .empty "UPDATE t SET x = 1 WHERE (a IS DISTINCT FROM b)").toOption.map
        Statement.withoutPlaces =
      some (Statement.ofReferences .update [⟨⟨7, "t"⟩, none⟩]).withoutPlaces := by
  open Comparison in
  have inClause := (parse_of_wrapped_comparison .empty isWrapped_clauseFront).1 rfl
    (.inl inClauses_clauseFront)
  have inJoin := (parse_of_wrapped_comparison .empty isWrapped_conditionFront).1 rfl
    (.inr ⟨inCondition_conditionFront, endsCondition_ofLetters 26⟩)
  have inList := (parse_of_wrapped_comparison .empty isWrapped_list).2.1 rfl .nil
  have inUpdate := (parse_of_wrapped_comparison .empty isWrapped_assignmentsFront).2.2 rfl _
    inAssignments_assignmentsFront
  have parsed : parse .mySQL .empty "SELECT a IS DISTINCT FROM b FROM t" =
      .ok (.ofReferences .select [⟨⟨26, "b"⟩, none⟩]) := parse_of_toOption (by decide +kernel)
  have firstTable := inList.1 _ (by simp [ofLetters, letter, dualNames])
    (by simp [kindAhead, behindList]) parsed
  exact ⟨inClause, inJoin, firstTable, inList.2 _ (queryFrom_behindList 28), inUpdate.1,
    inUpdate.2 [] [] (.endAt 45) false rfl .nil (.inl rfl)⟩

/-- In a list the parentheses change the tables, and in an update they decide whether it is parsed. -/
theorem exists_comparison_misread :
    let list := "SELECT a IS DISTINCT FROM b FROM t_order"
    let wrappedList := "SELECT (a IS DISTINCT FROM b) FROM t_order"
    let change := "UPDATE t_order SET a = 1 WHERE b IS DISTINCT FROM c"
    let wrappedChange := "UPDATE t_order SET a = 1 WHERE (b IS DISTINCT FROM c)"
    (∀ text ∈ [list, change], (Tape.ofText .postgreSQL text).isClean = true) ∧
      parse .postgreSQL .empty list = .ok (.ofReferences .select [⟨⟨26, "b"⟩, none⟩]) ∧
      parse .postgreSQL .empty wrappedList = .ok (.ofReferences .select [⟨⟨35, "t_order"⟩, none⟩]) ∧
      (parse .postgreSQL .empty change).toOption = none ∧
      parse .postgreSQL .empty wrappedChange = .ok (.ofReferences .update [⟨⟨7, "t_order"⟩, none⟩]) :=
  ⟨by decide +kernel, parse_of_toOption (by decide +kernel), parse_of_toOption (by decide +kernel),
    by decide +kernel, parse_of_toOption (by decide +kernel)⟩

end SqlSharding
