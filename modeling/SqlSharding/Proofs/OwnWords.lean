import SqlSharding.Proofs.InText
import SqlSharding.Proofs.Sources
import SqlSharding.Proofs.Within.Statements

/-!
# Words of a grammar's own

At eight places of statements a grammar allows words of its own. They are passed within the statement,
but for one case: behind `TOP` any item is passed as the number, the semicolon that ends the statement
too. Where that does not happen, a parser reads nothing behind the end of its statement.
-/

namespace SqlSharding

/-- The places of statements at which a grammar may allow words of its own. -/
inductive WordPlace
  | afterSelect
  | afterTable
  | afterInsert
  | afterUpdate
  | afterDelete
  | afterCreate
  | afterDrop
  | beforeTable
  deriving DecidableEq

/-- Moves past the words of the grammar's own that stand at the place. -/
def WordPlace.skip (grammar : Grammar) : WordPlace → Reading Unit
  | afterSelect => grammar.skipSelectModifiers
  | afterTable => grammar.skipTableHints
  | afterInsert => grammar.skipInsertModifiers
  | afterUpdate => grammar.skipUpdateModifiers
  | afterDelete => grammar.skipDeletePrefix
  | afterCreate => grammar.skipCreateModifiers
  | afterDrop => grammar.skipDropModifiers
  | beforeTable => grammar.skipOnly

/-- The tokens begin with `TOP` and a semicolon in the place of its number, which is not the last
token. -/
def BeginsTopEnd (tokens : List Token) : Prop :=
  ∃ top semicolon next later, tokens = top :: semicolon :: next :: later ∧
    top.kind = .sqlServer .TOP ∧ semicolon.kind = .symbol .semicolon

/-- The words that may stand between `SELECT` and `TOP`. -/
def queryWords : List Kind := [.reserved .DISTINCT, .reserved .ALL]

/-- Of the tokens at the place, the grammar takes the semicolon that ends the statement for the number
behind `TOP`. -/
def WordPlace.TakesEnd (grammar : Grammar) (tokens : List Token) : WordPlace → Prop
  | afterSelect => grammar = .sqlServer ∧ ∃ words rest, tokens = words ++ rest ∧
      (∀ word ∈ words, word.kind ∈ queryWords) ∧ BeginsTopEnd rest
  | afterUpdate | afterDelete => grammar = .sqlServer ∧ BeginsTopEnd tokens
  | _ => False

namespace Reading

open Cursor

variable {α β : Type} {reading : Reading α} {start before middle after cursor : Cursor}
  {grammar : Grammar} {place : WordPlace} {family : Family} {cause : ParseError}

/-- Moves past what may stand behind the number of `TOP`. -/
def skipTopOptions : Reading Unit := do
  discard <| skipIf [.sqlServer .PERCENT]
  if ← skipIf [.reserved .WITH] then
    discard <| accept (.sqlServer .TIES)

/-- The row limit is the word `TOP`, an item, and what may stand behind the number. -/
theorem skipTop_eq_options :
    Grammar.skipTop = (do
      if ← skipIf [.sqlServer .TOP] then
        skipItem
        skipTopOptions) := skipTop_eq

/-- What may stand behind the number of `TOP` is skipped in steps that pass no semicolon. -/
theorem steps_skipTopOptions : Steps False skipTopOptions :=
  .bind (.discard (steps_skipIf (by decide))) fun _ =>
    .bind (steps_skipIf (by decide)) fun _ => .ite (steps_accept (by decide) (by decide)) (.pure _)

/-- An item is passed within the statement, also where it is a semicolon behind which nothing can be
read. -/
theorem skipNumber_within (stays : start.StaysWithin before)
    (noEnd : before.current.kind = .symbol .semicolon → before.ahead.tokens = []) :
    StaysWithinFrom start before skipItem := by
  by_cases onEnd : before.current.kind = .symbol .semicolon
  · have same : skipItem before = advance before := by
      rw [skipItem, isOn_bind, if_neg (by simp [isOn_iff, onEnd])]
    refine .congr same ⟨fun {_ after} moved => ?_, fun failed => ?_⟩
    · rw [advance_ok_iff_of_ne stays.settled (by simp [onEnd])] at moved
      have further : before.ahead.tokens = after.tokens := (List.cons.inj moved.tokens).2
      rw [noEnd onEnd] at further
      cases further
    · exact stays.reaches (reaches_of_advance_error failed) withinStatement_nil
  · exact skipItem_within stays onEnd

/-- The row limit stays within the statement, unless a semicolon stands in the place of the number. -/
theorem skipTop_within (stays : start.StaysWithin before) (noEnd : ¬BeginsTopEnd before.tokens) :
    StaysWithinFrom start before Grammar.skipTop := by
  rw [skipTop_eq_options]
  have onWord : StaysWithinFrom start before (skipIf [.sqlServer .TOP]) :=
    .of_keeps (keepsWithin_skipIf (by decide)) stays
  refine onWord.bind fun onTop middle skipped staysMiddle => ?_
  cases onTop with
  | false => exact pure_within staysMiddle ()
  | true =>
    obtain ⟨onTop, toMiddle⟩ := (skipIf_true_iff stays.settled (by decide)).mp skipped
    have number : StaysWithinFrom start middle skipItem := by
      refine skipNumber_within staysMiddle fun onEnd => ?_
      cases ahead : middle.ahead.tokens with
      | nil => rfl
      | cons next later =>
        refine absurd ⟨before.current, middle.current, next, later, ?_, by simpa using onTop, onEnd⟩
          noEnd
        rw [toMiddle.tokens, Cursor.tokens, ahead]
        rfl
    exact number.bind fun _ _ _ stays => .of_keeps (keepsWithin_of_steps steps_skipTopOptions) stays

/-- A reading has been through a semicolon outside of groups. -/
def PassesEnd (before after : Cursor) : Prop :=
  ∃ taken, before.Reaches taken after ∧ ∃ token ∈ ungrouped 0 taken, token.kind = .symbol .semicolon

/-- A reading that stays within the statement leaves the cursor there, whether or not it fails. -/
theorem StaysWithinFrom.leaves (stays : StaysWithinFrom start before reading) :
    start.LeftWithin (leaves reading before) := by
  rw [Reading.leaves]
  cases read : reading before with
  | ok value after => exact (stays.passes read).leftWithin
  | error cause after => exact stays.fails read

/-- What has been through a semicolon from a later cursor on has been so from an earlier one, if no
group opens in between. -/
theorem PassesEnd.behind {front : List Token} (passed : before.Passes front middle)
    (noOpen : ∀ token ∈ front, token.kind ≠ .symbol .leftParen) (passesEnd : PassesEnd middle after) :
    PassesEnd before after := by
  obtain ⟨taken, reaches, semicolon, isIn, isEnd⟩ := passesEnd
  refine ⟨_, passed.reaches reaches, semicolon, ?_, isEnd⟩
  rw [ungrouped_append, openBehind_of_no_group noOpen]
  exact List.mem_append_right _ isIn

/-- A semicolon in the place of the number is moved past, whatever is read behind it. -/
theorem skipTop_passesEnd (next : Reading Unit) (keeps : ∀ start, KeepsWithin start next)
    (settled : before.Settled) (atEnd : BeginsTopEnd before.tokens) :
    PassesEnd before (leaves (Grammar.skipTop >>= fun _ => next) before) := by
  obtain ⟨top, semicolon, token, later, tokens, isTop, isEnd⟩ := atEnd
  change before.tokens = [top] ++ semicolon :: token :: later at tokens
  obtain ⟨atNumber, toNumber, rfl, ahead⟩ := exists_passes tokens
  have further : atNumber.tokens = [atNumber.current] ++ token :: later := by
    rw [Cursor.tokens, ahead]
    rfl
  obtain ⟨behind, toBehind, rfl, -⟩ := exists_passes further
  have onTop : skipIf [.sqlServer .TOP] before = .ok true atNumber :=
    skipIf_of_passes settled (by decide) (by simp [isTop]) toNumber
  have settledBehind := toBehind.settled (toNumber.settled settled)
  have passed : skipItem atNumber = .ok () behind := by
    rw [skipItem, isOn_bind, if_neg (by simp [isOn_iff, isEnd])]
    exact advance_of_passes toBehind
  have rest : leaves (Grammar.skipTop >>= fun _ => next) before =
      leaves (skipTopOptions >>= fun _ => next) behind := by
    rw [skipTop_eq_options]
    simp only [bind_assoc]
    rw [leaves_bind onTop, if_pos rfl]
    simp only [bind_assoc]
    rw [leaves_bind passed]
  have options : KeepsWithin behind (skipTopOptions >>= fun _ => next) :=
    .bind (keepsWithin_of_steps steps_skipTopOptions) fun _ => keeps behind
  obtain ⟨taken, reaches, -⟩ :=
    StaysWithinFrom.leaves (.of_keeps options settledBehind.staysWithin)
  rw [rest]
  refine .behind toNumber (by simp [isTop]) ⟨_, toBehind.reaches reaches, atNumber.current, ?_, isEnd⟩
  rw [ungrouped_append]
  exact List.mem_append_left _ List.mem_cons_self

/-- Unless its place is one for `TOP`, words are put together from steps of which none is over any item
whatever. -/
theorem steps_place (grammar : Grammar) (place : WordPlace)
    (others : grammar = .sqlServer → place ∉ [.afterSelect, .afterUpdate, .afterDelete]) :
    Steps False (place.skip grammar) := by
  cases place with
  | afterSelect => exact steps_skipSelectModifiers grammar fun same => others same (by decide)
  | afterTable => exact steps_skipTableHints grammar
  | afterInsert => exact steps_skipInsertModifiers grammar
  | afterUpdate => exact steps_skipUpdateModifiers grammar fun same => others same (by decide)
  | afterDelete => exact steps_skipDeletePrefix grammar fun same => others same (by decide)
  | afterCreate => exact steps_skipCreateModifiers grammar
  | afterDrop => exact steps_skipDropModifiers grammar
  | beforeTable => exact steps_skipOnly grammar

/-- Words that stand before the end of the statement are passed within the statement. -/
theorem place_within (place : WordPlace) (stays : start.StaysWithin before)
    (noEnd : ¬place.TakesEnd grammar before.tokens) :
    StaysWithinFrom start before (place.skip grammar) := by
  by_cases others : grammar = .sqlServer → place ∉ [.afterSelect, .afterUpdate, .afterDelete]
  · exact .of_keeps (keepsWithin_of_steps (steps_place grammar place others)) stays
  · simp only [Classical.not_imp, Decidable.not_not, List.mem_cons, List.not_mem_nil, or_false] at others
    obtain ⟨rfl, rfl | rfl | rfl⟩ := others
    · have words : KeepsWithin start (skipAll queryWords) :=
        keepsWithin_of_steps (steps_skipAll (by decide))
      refine .bind (.of_keeps words stays) fun _ middle skipped staysMiddle => ?_
      obtain ⟨taken, passed, areWords, -⟩ := exists_passes_of_skipAll stays.settled (by decide) skipped
      exact skipTop_within staysMiddle fun atEnd =>
        noEnd ⟨rfl, taken, middle.tokens, passed.tokens, areWords, atEnd⟩
    · exact skipTop_within stays fun atEnd => noEnd ⟨rfl, atEnd⟩
    · refine .bind (skipTop_within stays fun atEnd => noEnd ⟨rfl, atEnd⟩) fun _ _ _ stays => ?_
      exact .of_keeps (keepsWithin_of_steps (.discard (steps_skipIf (by decide)))) stays

/-- Behind `TOP` a semicolon is passed in the place of the number. -/
theorem place_passesEnd (settled : before.Settled) (atEnd : place.TakesEnd grammar before.tokens) :
    PassesEnd before (leaves (place.skip grammar) before) := by
  cases place with
  | afterSelect =>
    obtain ⟨rfl, words, rest, tokens, areWords, atEnd⟩ := atEnd
    obtain ⟨top, semicolon, next, later, rfl, isTop, isEnd⟩ := atEnd
    obtain ⟨atTop, passed, onTop, ahead⟩ := exists_passes tokens
    have skipped : skipAll queryWords before = .ok () atTop :=
      skipAll_of_passes settled (by decide) passed areWords (by rw [onTop, isTop]; decide)
    have whole : leaves (WordPlace.afterSelect.skip .sqlServer) before =
        leaves (Grammar.skipTop >>= fun _ => pure ()) atTop := by
      rw [bind_pure]
      exact leaves_bind skipped
    rw [whole]
    refine .behind passed (fun word isWord isOpen => ?_) ?_
    · have onWord := areWords word isWord
      rw [isOpen] at onWord
      exact absurd onWord (by decide)
    · refine skipTop_passesEnd (pure ()) (fun _ => .pure ()) (passed.settled settled) ?_
      exact ⟨top, semicolon, next, later, by rw [Cursor.tokens, onTop, ahead], isTop, isEnd⟩
  | afterUpdate =>
    obtain ⟨rfl, atEnd⟩ := atEnd
    have passesEnd := skipTop_passesEnd (pure ()) (fun _ => .pure ()) settled atEnd
    rwa [bind_pure] at passesEnd
  | afterDelete =>
    obtain ⟨rfl, atEnd⟩ := atEnd
    refine skipTop_passesEnd _ (fun start => ?_) settled atEnd
    exact keepsWithin_of_steps (.discard (steps_skipIf (by decide)))
  | _ => exact atEnd.elim

/-- The tokens that words are passed over have a semicolon outside of groups just if it is taken for a
number. -/
theorem place_iff (settled : before.Settled) (grammar : Grammar) (place : WordPlace) :
    ∃ taken, before.Reaches taken (leaves (place.skip grammar) before) ∧
      ((∃ token ∈ ungrouped 0 taken, token.kind = .symbol .semicolon) ↔
        place.TakesEnd grammar before.tokens) := by
  by_cases takesEnd : place.TakesEnd grammar before.tokens
  · obtain ⟨taken, reaches, passesEnd⟩ := place_passesEnd settled takesEnd
    exact ⟨taken, reaches, iff_of_true passesEnd takesEnd⟩
  · obtain ⟨taken, reaches, within⟩ := (place_within place settled.staysWithin takesEnd).leaves
    refine ⟨taken, reaches, iff_of_false ?_ takesEnd⟩
    rintro ⟨token, isIn, isEnd⟩
    exact within token isIn isEnd

/-- A reading leaves the cursor where it is if it does so whether it succeeds or fails. -/
theorem maintains_eq_iff :
    Maintains (· = cursor) (fun _ after => after = cursor) reading ↔ leaves reading cursor = cursor := by
  rw [leaves]
  constructor
  · intro maintains
    cases read : reading cursor with
    | ok value after => exact maintains.passes rfl read
    | error cause after => exact maintains.fails rfl read
  · intro stays
    constructor
    · rintro _ value after rfl read
      rwa [read] at stays
    · rintro _ cause after rfl read
      rwa [read] at stays

/-- On an end of the text, steps of which none is over any item whatever leave the cursor there. -/
theorem leaves_of_steps (atEnd : cursor.current.kind = .endOfText) (steps : Steps False reading) :
    leaves reading cursor = cursor := by
  have notOn {kinds : List Kind} (noEnd : .endOfText ∉ kinds) : ¬cursor.isOn kinds = true := by
    rwa [isOn_iff, atEnd]
  refine maintains_eq_iff.mp (.of_composed (fun isStep => maintains_eq_iff.mpr ?_) steps)
  cases isStep with
  | asks answer => rfl
  | refuse kinds =>
    rw [leaves, refuse]
    by_cases onKind : cursor.isOn kinds = true
    · rw [if_pos onKind]
    · rw [if_neg onKind]
  | unexpected => rfl
  | unsupported family => rfl
  | skipIf inner =>
    rw [leaves, skipIf, isOn_bind, if_neg (notOn inner.1.1)]
    rfl
  | @accept expected inner =>
    have isOther : cursor.current.kind ≠ expected := by
      rintro rfl
      exact inner.1.1 (by simp [atEnd])
    rw [leaves, accept, current_bind, if_neg isOther]
    rfl
  | namePart =>
    rw [leaves, namePart, current_bind, if_neg (by rw [atEnd]; decide)]
    rfl
  | skipGroup =>
    rw [leaves, skipGroup, isOn_bind, if_neg (notOn (by decide))]
    rfl
  | itemTurn afterDot =>
    rw [leaves, itemTurn, current_bind, if_pos (by simp [atEnd])]
    rfl
  | skipItem allowed => exact allowed.elim

/-- Words are not looked for behind the end of the text. -/
theorem leaves_place_of_end (atEnd : cursor.current.kind = .endOfText) :
    leaves (place.skip grammar) cursor = cursor := by
  have noTop : leaves Grammar.skipTop cursor = cursor := by
    have skipped : skipIf [.sqlServer .TOP] cursor = .ok false cursor := by
      rw [skipIf, isOn_bind, if_neg (by simp [isOn_iff, atEnd])]
      rfl
    rw [skipTop_eq_options, leaves_bind skipped]
    rfl
  have inTurn {first next : Reading Unit} (left : leaves first cursor = cursor)
      (right : leaves next cursor = cursor) : leaves (first >>= fun _ => next) cursor = cursor :=
    maintains_eq_iff.mp (.bind (maintains_eq_iff.mpr left) fun _ => maintains_eq_iff.mpr right)
  by_cases others : grammar = .sqlServer → place ∉ [.afterSelect, .afterUpdate, .afterDelete]
  · exact leaves_of_steps atEnd (steps_place grammar place others)
  · simp only [Classical.not_imp, Decidable.not_not, List.mem_cons, List.not_mem_nil, or_false] at others
    obtain ⟨rfl, rfl | rfl | rfl⟩ := others
    · exact inTurn (leaves_of_steps atEnd (steps_skipAll (by decide))) noTop
    · exact noTop
    · exact inTurn noTop (leaves_of_steps atEnd (.discard (steps_skipIf (by decide))))

end Reading

/-- The words behind the first word of the statement take its end for the number behind `TOP`. -/
def Family.TakesEnd (grammar : Grammar) (tokens : List Token) : Family → Prop
  | select => WordPlace.afterSelect.TakesEnd grammar tokens.tail
  | update => WordPlace.afterUpdate.TakesEnd grammar tokens.tail
  | delete => WordPlace.afterDelete.TakesEnd grammar tokens.tail
  | _ => False

namespace Reading

variable {α : Type} {start before middle after : Cursor} {grammar : Grammar} {family : Family}
  {rule : ShardingRule} {columns found : List String}

/-- An opening stays within the statement, unless it takes the end for the number behind `TOP`. -/
theorem opening_within (stays : start.StaysWithin before)
    (noEnd : ¬family.TakesEnd grammar before.tokens) :
    StaysWithinFrom start before (family.opening grammar) := by
  have keyword : StaysWithinFrom start before (discard <| accept (.reserved family.keyword)) :=
    .discard (.of_keeps (keepsWithin_accept nofun) stays)
  refine keyword.bind fun _ middle accepted staysMiddle => ?_
  obtain ⟨token, accepted⟩ := discard_ok_iff.mp accepted
  obtain ⟨-, -, passed⟩ := (accept_ok_iff stays.settled (by simp)).mp accepted
  have behind : before.tokens.tail = middle.tokens := by rw [passed.tokens]; rfl
  cases family with
  | select => exact place_within .afterSelect staysMiddle (behind ▸ noEnd)
  | update => exact place_within .afterUpdate staysMiddle (behind ▸ noEnd)
  | delete => exact place_within .afterDelete staysMiddle (behind ▸ noEnd)
  | _ =>
    refine .of_keeps (keepsWithin_of_steps (Family.steps_skipWords grammar _ ?_)) staysMiddle
    exact fun _ isOne => absurd isOne (by decide)

/-- An outline stays within the statement, unless its opening takes the end for the number behind `TOP`.
-/
theorem outline_within (stays : start.StaysWithin before)
    (noEnd : ¬family.TakesEnd grammar before.tokens) :
    StaysWithinFrom start before (family.outline grammar) := by
  rw [Family.outline_eq_body]
  exact (opening_within stays noEnd).bind fun _ _ _ stays =>
    .of_keeps ((guarded_of_parts (parts_body grammar family)).keepsWithin start) stays

end Reading

namespace Reading

variable {start before after : Cursor} {columns : List String}

/-- The columns of a statement are written in the tokens that its outline passes. -/
theorem hasPassed_outline {grammar : Grammar} {family : Family} {outline : Outline}
    (settled : before.Settled) (noEnd : ¬family.TakesEnd grammar before.tokens)
    (read : family.outline grammar before = .ok outline after) :
    before.HasPassed outline.columns after := by
  by_cases isInsert : family = .insert
  · subst isInsert
    change insertOutline grammar before = _ at read
    rw [insertOutline_eq_target, bind_ok_iff] at read
    obtain ⟨_, atTable, opened, read⟩ := read
    obtain ⟨settled, taken, toTable, -⟩ := (opening_within settled.staysWithin noEnd).passes opened
    obtain ⟨outline, behind, target, read⟩ := bind_ok_iff.mp read
    obtain ⟨_, _, skipped, read⟩ := bind_ok_iff.mp read
    obtain ⟨rfl, rfl⟩ := pure_ok_iff.mp read
    obtain ⟨table, atColumns, named, target⟩ := bind_ok_iff.mp target
    obtain ⟨columns, _, listed, target⟩ := bind_ok_iff.mp target
    obtain ⟨rfl, rfl⟩ := pure_ok_iff.mp target
    have atTable : before.HasPassed [] atTable := ⟨settled, taken, toTable, nofun⟩
    have atColumns := HasPassed.guarded atTable (guarded_of_steps steps_plainTable) named
    have behindColumns := hasPassed_insertColumns atColumns listed
    exact HasPassed.guarded behindColumns (guarded_of_parts parts_skipUntil) skipped
  · obtain ⟨settled, taken, passed, -⟩ := (outline_within settled.staysWithin noEnd).passes read
    have fits := (ensures_outline grammar family _ _ _ read).1
    have none : outline.columns = [] := by
      cases family with
      | insert => exact absurd rfl isInsert
      | select => exact fits
      | drop | truncate => exact fits.2
      | _ =>
        obtain ⟨_, rfl⟩ := fits
        rfl
    exact ⟨settled, taken, passed, by rw [none]; nofun⟩

/-- Of the kinds, one token at most is passed. -/
theorem reaches_skipIf {kinds : List Kind} (settled : before.Settled) (noEnd : .endOfText ∉ kinds) :
    ∃ taken, before.Reaches taken (leaves (discard (skipIf kinds)) before) ∧ taken.length ≤ 1 ∧
      ∀ token ∈ taken, token.kind ∈ kinds := by
  cases read : skipIf kinds before with
  | ok skipped after =>
    have whole : leaves (discard (skipIf kinds)) before = after := by
      rw [leaves, discard_ok_iff.mpr ⟨skipped, read⟩]
    rw [whole]
    rcases (skipIf_ok_iff settled noEnd).mp read with ⟨-, onKind, passed⟩ | ⟨-, -, rfl⟩
    · exact ⟨_, .passes passed, Nat.le_refl 1, by simpa using onKind⟩
    · exact ⟨[], .passes (.refl _), Nat.zero_le 1, List.forall_mem_nil _⟩
  | error cause after =>
    have whole : leaves (discard (skipIf kinds)) before = after := by
      rw [leaves, discard_error_iff.mpr read]
    refine ⟨[], whole ▸ ?_, Nat.zero_le 1, List.forall_mem_nil _⟩
    rw [skipIf, isOn_bind] at read
    split at read
    · rcases bind_error_iff.mp read with failed | ⟨_, _, -, failed⟩
      · exact reaches_of_advance_error failed
      · cases failed
    · cases read

/-- A parser has passed tokens of one statement and then at most the semicolon that ends it, and the
tables and columns of what it has read are written in these tokens. -/
def ReadsOne (parser : Parser) (before : Cursor) : Prop :=
  ∃ taken ending, before.Reaches (taken ++ ending) (leaves parser before) ∧ WithinStatement taken ∧
    ending.length ≤ 1 ∧ (∀ token ∈ ending, token.kind = .symbol .semicolon) ∧
    ∀ statement after, parser before = .ok statement after →
      (∀ mark ∈ statement.marks, ∃ token ∈ taken, mark = token.mark) ∧
        WrittenIn taken statement.insertColumns

/-- A parser reads one statement, unless it takes the end for the number behind `TOP`. -/
theorem readsOne_of_family {grammar : Grammar} {family : Family} (rule : ShardingRule)
    (settled : before.Settled) (noEnd : ¬family.TakesEnd grammar before.tokens) :
    ReadsOne (family.parser grammar rule) before := by
  have within := outline_within settled.staysWithin noEnd
  cases read : family.outline grammar before with
  | error cause after =>
    obtain ⟨taken, reaches, withinTaken⟩ := within.fails read
    have failed : family.parser grammar rule before = .error cause after := by
      rw [Family.parser_eq, bind_error_iff]
      exact .inl read
    refine ⟨taken, [], ?_, withinTaken, Nat.zero_le 1, nofun, fun statement after passed => ?_⟩
    · rw [List.append_nil, leaves, failed]
      exact reaches
    · rw [failed] at passed
      cases passed
  | ok outline middle =>
    obtain ⟨settledMiddle, taken, toMiddle, withinTaken⟩ := within.passes read
    obtain ⟨ending, toEnd, atMostOne, areEnds⟩ :=
      @reaches_skipIf _ [.symbol .semicolon] settledMiddle (by decide)
    refine ⟨taken, ending, ?_, withinTaken, atMostOne, by simpa using areEnds,
      fun statement after passed => ?_⟩
    · have whole : leaves (family.parser grammar rule) before =
          leaves (discard (skipIf [.symbol .semicolon])) middle := by
        rw [Family.parser_eq, leaves_bind read, leaves_bind_pure]
      rw [whole]
      exact toMiddle.reaches toEnd
    · obtain ⟨found, _, outlined, rfl⟩ := exists_outline_of_statement rule family passed
      obtain ⟨rfl, rfl⟩ := EStateM.Result.ok.inj (read.symm.trans outlined)
      have ends : EndsFor Echo.same grammar := fun _ => id
      obtain ⟨trail, passes, -, marks, -⟩ := retraces_outline ends family () _ _ _ settled read
      obtain ⟨-, written, alsoPasses, writtenIn⟩ := hasPassed_outline settled noEnd read
      obtain rfl : trail.tokens = taken := passes.taken_unique toMiddle
      obtain rfl : written = trail.tokens := alsoPasses.taken_unique toMiddle
      refine ⟨fun mark isMark => ?_, writtenIn⟩
      have isOutlineMark : mark ∈ outline.marks := isMark
      have marks : outline.marks = trail.marked.map Token.mark := marks
      rw [marks] at isOutlineMark
      obtain ⟨token, isMarked, rfl⟩ := List.mem_map.mp isOutlineMark
      exact ⟨token, trail.marked_sublist.subset isMarked, rfl⟩

end Reading

open Reading

/-- Wherever moves into a text have left the cursor, the words of a grammar's own are not looked for at
the end of the text, and they are passed within the statement, unless the semicolon that ends it is
taken for the number behind `TOP`. Where the words behind the first word of a statement do not do so, a
parser reads nothing behind the end of the statement. -/
theorem ownWords_within_statement (dialect : Dialect) (text : String) (moves : Nat)
    (grammar : Grammar) :
    let before := movedInto dialect text moves
    (∀ place : WordPlace,
      (before.current.kind = .endOfText → leaves (place.skip grammar) before = before) ∧
      (before.current.kind ≠ .endOfText →
        ∃ taken, before.Reaches taken (leaves (place.skip grammar) before) ∧
          (∀ token ∈ taken, token.kind ≠ .endOfText) ∧
          ((∃ token ∈ ungrouped 0 taken, token.kind = .symbol .semicolon) ↔
            place.TakesEnd grammar before.tokens))) ∧
    ∀ (rule : ShardingRule) (family : Family), ¬family.TakesEnd grammar before.tokens →
      ReadsOne (family.parser grammar rule) before := by
  intro before
  have isInText := isInText_movedInto dialect text moves
  refine ⟨fun place => ⟨leaves_place_of_end, fun notEnd => ?_⟩, fun rule family noEnd => ?_⟩
  · have settled := isInText.here.resolve_left notEnd
    obtain ⟨taken, reaches, takesEnd⟩ := place_iff settled grammar place
    exact ⟨taken, reaches, reaches.ne_end settled, takesEnd⟩
  · rcases isInText.here with atEnd | settled
    · have stays : IsStuck (family.parser grammar rule) before := isStuck_of_ne (by rw [atEnd]; nofun)
      obtain ⟨cause, failed⟩ := stays
      refine ⟨[], [], ?_, withinStatement_nil, Nat.zero_le 1, nofun, fun statement after passed => ?_⟩
      · rw [leaves, failed]
        exact .passes (.refl before)
      · rw [failed] at passed
        cases passed
    · exact readsOne_of_family rule settled noEnd

/-- A deletion with a number of rows in a group, and another statement behind it. -/
theorem ownWords_within_statement_group :
    let text := "DELETE TOP (1) t_order; DROP x"
    let onTop := movedInto .sqlServer text 2
    let onDelete := movedInto .sqlServer text 1
    onTop.current.kind = .sqlServer .TOP ∧
      (∃ taken, onTop.Reaches taken (leaves (WordPlace.afterDelete.skip .sqlServer) onTop) ∧
        ∀ token ∈ ungrouped 0 taken, token.kind ≠ .symbol .semicolon) ∧
      leaves (WordPlace.afterDelete.skip .sqlServer) (movedInto .sqlServer text 0) =
        movedInto .sqlServer text 0 ∧
      (∃ final, Family.delete.parser .sqlServer .empty onDelete =
        .ok (.ofReferences .delete [⟨⟨15, "t_order"⟩, none⟩]) final) ∧
      ReadsOne (Family.delete.parser .sqlServer .empty) onDelete := by
  intro text onTop onDelete
  have onTop_eq : onTop = ⟨.sqlServer, text, ⟨.sqlServer .TOP, "TOP", 7, 10⟩,
      ⟨[⟨.symbol .leftParen, "(", 11, 12⟩, ⟨.literal .int, "1", 12, 13⟩,
        ⟨.symbol .rightParen, ")", 13, 14⟩, ⟨.literal .identifier, "t_order", 15, 22⟩,
        ⟨.symbol .semicolon, ";", 22, 23⟩, ⟨.reserved .DROP, "DROP", 24, 28⟩,
        ⟨.literal .identifier, "x", 29, 30⟩, .endAt 30], .finished⟩⟩ := by
    decide +kernel
  have onDelete_eq : onDelete = { onTop with
      current := ⟨.reserved .DELETE, "DELETE", 0, 6⟩
      ahead := ⟨onTop.tokens, .finished⟩ } := by
    rw [onTop_eq]
    decide +kernel
  have noEnd : ¬BeginsTopEnd onTop.tokens := by
    rw [onTop_eq]
    rintro ⟨_, _, _, _, tokens, -, isEnd⟩
    cases tokens
    cases isEnd
  have notAtEnd : onTop.current.kind ≠ .endOfText := by rw [onTop_eq]; nofun
  obtain ⟨taken, reaches, -, takesEnd⟩ :=
    ((ownWords_within_statement .sqlServer text 2 .sqlServer).1 .afterDelete).2 notAtEnd
  refine ⟨by rw [onTop_eq], ⟨taken, reaches, fun token isIn isEnd => ?_⟩, ?_, ?_, ?_⟩
  · exact noEnd (takesEnd.mp ⟨token, isIn, isEnd⟩).2
  · exact ((ownWords_within_statement .sqlServer text 0 .sqlServer).1 .afterDelete).1 rfl
  · rw [onDelete_eq, onTop_eq]
    exact ⟨_, rfl⟩
  · refine (ownWords_within_statement .sqlServer text 1 .sqlServer).2 .empty .delete fun takesEnd => ?_
    have tail : onDelete.tokens.tail = onTop.tokens := by rw [onDelete_eq]; rfl
    exact noEnd (tail ▸ takesEnd.2)

/-- A semicolon in the place of the number is stepped over, and the table that is changed stands behind
the end of the statement. -/
theorem exists_table_behind_end :
    let text := "UPDATE TOP; t_order SET a = 1"
    let onTop := movedInto .sqlServer text 2
    onTop.tokens.take 3 = [⟨.sqlServer .TOP, "TOP", 7, 10⟩, ⟨.symbol .semicolon, ";", 10, 11⟩,
        ⟨.literal .identifier, "t_order", 12, 19⟩] ∧
      (leaves (WordPlace.afterUpdate.skip .sqlServer) onTop).tokens = onTop.tokens.drop 2 ∧
      parse .sqlServer .empty text = .ok ⟨.update, ⟨[⟨"t_order", []⟩]⟩, [⟨12, "t_order"⟩], [], none⟩ := by
  exact ⟨by decide +kernel, by decide +kernel, parse_of_toOption (by decide +kernel)⟩

end SqlSharding
