import SqlSharding.Proofs.Faults
import SqlSharding.Proofs.Outline.Target
import SqlSharding.Proofs.Query

/-!
# Behind the opening

What a text is parsed to is decided by what is read behind the opening of its statement, the body. Texts
whose bodies are read alike are parsed to the same statement but for places. The opening of a query or an
update is passed again before a group, so a text may be opened as another one whose body begins with one.
-/

namespace SqlSharding

open Reading

/-- The cursor stands behind the opening of the statement that the text begins with. -/
def Family.OpensAt (family : Family) (dialect : Dialect) (text : String) (here : Cursor) : Prop :=
  ∃ start : Cursor, start.Begins dialect text ∧ family.opening dialect.grammar start = .ok () here

namespace Reading

open Cursor Marked TableMark

variable {dialect : Dialect} {rule : ShardingRule} {text other : String} {family : Family}
  {body : Reading Outline} {here here' before after final : Cursor} {outline : Outline}
  {statement : Statement} {grammar : Grammar}

/-- A query is read by its opening and its body. -/
theorem outline_select (grammar : Grammar) : Family.select.outline grammar = (do
    Family.select.opening grammar
    queryBody grammar) :=
  selectOutline_eq_body grammar

/-- An update is read by its opening and its body. -/
theorem outline_update (grammar : Grammar) : Family.update.outline grammar = (do
    Family.update.opening grammar
    updateRest grammar) :=
  updateOutline_eq_body grammar

section StopsAtGroup

variable {α β : Type} {reading : Reading α} {kinds : List Kind}

/-- Whenever the reading succeeds it has passed tokens, and unless it has come to the end of the text it
passes these tokens with the same value where a group stands behind them. -/
def StopsAtGroup (reading : Reading α) : Prop :=
  ∀ value before after, before.Settled → reading before = .ok value after →
    ∃ taken, before.Passes taken after ∧ (after.current.kind ≠ .endOfText →
      ∀ before' after', before'.Settled → before'.Passes taken after' →
        after'.current.kind = after.current.kind ∨ after'.current.kind = .symbol .leftParen →
          reading before' = .ok value after')

namespace StopsAtGroup

/-- A value passes no tokens. -/
theorem pure (value : α) : StopsAtGroup (pure value) := by
  intro found before after settled read
  obtain ⟨rfl, rfl⟩ := pure_ok_iff.mp read
  refine ⟨[], .refl _, fun _ before' after' _ passed _ => ?_⟩
  rw [passes_nil_iff.mp passed]
  rfl

/-- A sequence stops at a group if its parts do. -/
theorem bind {next : α → Reading β} (starts : StopsAtGroup reading)
    (goesOn : ∀ value, StopsAtGroup (next value)) : StopsAtGroup (reading >>= next) := by
  intro value before after settled read
  obtain ⟨found, middle, start, rest⟩ := bind_ok_iff.mp read
  obtain ⟨taken, toMiddle, again⟩ := starts _ _ _ settled start
  have settledMiddle := toMiddle.settled settled
  obtain ⟨later, toAfter, onward⟩ := goesOn found _ _ _ settledMiddle rest
  refine ⟨taken ++ later, toMiddle.trans toAfter, fun notEnd before' after' settled' passed ahead => ?_⟩
  obtain ⟨middle', toMiddle', toAfter'⟩ := passed.split
  have settledMiddle' := toMiddle'.settled settled'
  have notEndMiddle : middle.current.kind ≠ .endOfText := by
    cases later with
    | nil => rwa [← passes_nil_iff.mp toAfter]
    | cons token later => exact toAfter.current_eq ▸ toAfter.ne_end settledMiddle _ List.mem_cons_self
  have aheadMiddle : middle'.current.kind = middle.current.kind ∨
      middle'.current.kind = .symbol .leftParen := by
    cases later with
    | nil => rwa [← passes_nil_iff.mp toAfter, ← passes_nil_iff.mp toAfter']
    | cons token later => exact .inl (by rw [toAfter.current_eq, toAfter'.current_eq])
  rw [bind_of_ok (again notEndMiddle _ _ settled' toMiddle' aheadMiddle)]
  exact onward notEnd _ _ settledMiddle' toAfter' ahead

/-- A choice stops at a group if both of its ways do. -/
theorem ite {condition : Prop} [Decidable condition] {left right : Reading α}
    (whenTrue : StopsAtGroup left) (whenFalse : StopsAtGroup right) :
    StopsAtGroup (if condition then left else right) := by
  split
  · exact whenTrue
  · exact whenFalse

/-- Leaving out its value, a reading stops at a group as it does. -/
theorem discard (stops : StopsAtGroup reading) : StopsAtGroup (discard reading) :=
  discard_eq reading ▸ stops.bind fun _ => .pure _

end StopsAtGroup

/-- A kind that is not among the kinds is not among them where it is the same or a parenthesis. -/
theorem not_mem_of_ahead {kind kind' : Kind} (ordinary : Ordinary kinds) (notOn : kind ∉ kinds)
    (ahead : kind' = kind ∨ kind' = .symbol .leftParen) : kind' ∉ kinds := by
  rcases ahead with rfl | rfl
  · exact notOn
  · exact ordinary.2

/-- Skipping a token stops at a group behind it or in its place. -/
theorem stopsAtGroup_skipIf (ordinary : Ordinary kinds) : StopsAtGroup (skipIf kinds) := by
  intro value before after settled read
  rcases (skipIf_ok_iff settled ordinary.1).mp read with ⟨rfl, onKind, passed⟩ | ⟨rfl, notOn, rfl⟩
  · exact ⟨_, passed, fun _ _ _ settled' passed' _ =>
      skipIf_of_passes settled' ordinary.1 onKind passed'⟩
  · refine ⟨[], .refl _, fun _ before' after' settled' passed' ahead => ?_⟩
    obtain rfl := passes_nil_iff.mp passed'
    exact skipIf_of_not_mem settled' ordinary.1 (not_mem_of_ahead ordinary notOn ahead)

/-- Demanding a token stops at a group behind it. -/
theorem stopsAtGroup_accept {expected : Kind} (notEnd : expected ≠ .endOfText) :
    StopsAtGroup (accept expected) := by
  intro value before after settled read
  obtain ⟨rfl, isExpected, passed⟩ := (accept_ok_iff settled notEnd).mp read
  exact ⟨_, passed, fun _ _ _ settled' passed' _ => accept_of_passes settled' notEnd isExpected passed'⟩

/-- Skipping all tokens of some kinds stops at a group behind them. -/
theorem stopsAtGroup_skipAll (ordinary : Ordinary kinds) : StopsAtGroup (skipAll kinds) := by
  intro value before after settled read
  obtain ⟨taken, passed, allOn, stopped⟩ := exists_passes_of_skipAll settled ordinary.1 read
  exact ⟨taken, passed, fun _ _ _ settled' passed' ahead =>
    skipAll_of_passes settled' ordinary.1 passed' allOn (not_mem_of_ahead ordinary stopped ahead)⟩

/-- Skipping an item stops at a group behind it. -/
theorem stopsAtGroup_skipItem : StopsAtGroup skipItem := by
  intro value before after settled read
  rw [skipItem, isOn_bind] at read
  by_cases onOpening : before.current.kind = .symbol .leftParen
  · rw [if_pos (isOn_iff.mpr (List.mem_singleton.mpr onOpening)), skipGroup_ok_iff settled,
      if_pos onOpening] at read
    obtain ⟨taken, passed, closes⟩ := read
    refine ⟨taken, passed, fun _ before' after' settled' passed' _ => ?_⟩
    have onOpening' : before'.current.kind = .symbol .leftParen := by
      cases taken with
      | nil => exact closes.elim
      | cons token taken => rw [passed'.current_eq, ← passed.current_eq, onOpening]
    rw [skipItem, isOn_bind, if_pos (isOn_iff.mpr (List.mem_singleton.mpr onOpening')),
      skipGroup_ok_iff settled', if_pos onOpening']
    exact ⟨taken, passed', closes⟩
  · rw [if_neg (by simpa [isOn_iff] using onOpening)] at read
    rcases (advance_ok_iff settled).mp read with passed | ⟨ahead, rfl⟩
    · refine ⟨_, passed, fun _ before' after' settled' passed' _ => ?_⟩
      rw [skipItem, isOn_bind, if_neg (by simpa [isOn_iff, passed'.current_eq] using onOpening)]
      exact advance_of_passes passed'
    · obtain ⟨place, isEnd⟩ := settled.current_of_ahead ahead
      exact ⟨[], .refl _, fun notEnd => absurd (by rw [isEnd]; rfl) notEnd⟩

/-- The row limit stops at a group behind it. -/
theorem stopsAtGroup_skipTop : StopsAtGroup Grammar.skipTop := by
  rw [skipTop_eq]
  refine .bind (stopsAtGroup_skipIf (by decide)) fun _ => .ite ?_ (.pure _)
  refine .bind stopsAtGroup_skipItem fun _ => ?_
  refine .bind (.discard (stopsAtGroup_skipIf (by decide))) fun _ => ?_
  exact .bind (stopsAtGroup_skipIf (by decide)) fun _ =>
    .ite (.discard (stopsAtGroup_accept nofun)) (.pure _)

/-- The opening of a query or an update stops where a group stands behind it. -/
theorem stopsAtGroup_opening {family : Family} (grammar : Grammar)
    (isOne : family = .select ∨ family = .update) : StopsAtGroup (family.opening grammar) := by
  refine .bind (.discard (stopsAtGroup_accept nofun)) fun _ => ?_
  rcases isOne with rfl | rfl
  · cases grammar with
    | sqlServer => exact .bind (stopsAtGroup_skipAll (by decide)) fun _ => stopsAtGroup_skipTop
    | mySQL => exact stopsAtGroup_skipAll (by decide)
    | oracle => exact stopsAtGroup_skipAll (by decide)
    | postgreSQL => exact stopsAtGroup_skipAll (by decide)
  · cases grammar with
    | mySQL => exact stopsAtGroup_skipAll (by decide)
    | sqlServer => exact stopsAtGroup_skipTop
    | oracle => exact .discard (stopsAtGroup_skipIf (by decide))
    | postgreSQL => exact .discard (stopsAtGroup_skipIf (by decide))

end StopsAtGroup

/-- A cursor behind the opening of a text is settled. -/
theorem settled_of_opensAt (opens : family.OpensAt dialect text here) : here.Settled := by
  obtain ⟨start, begins, opened⟩ := opens
  exact settled_of_opening begins.settled opened

/-- Behind the opening of a text without a fault no fault is to come. -/
theorem finished_of_opensAt (isOne : family = .select ∨ family = .update)
    (opens : family.OpensAt dialect text here) (clean : (Tape.ofText dialect text).isClean = true) :
    here.ahead.ending = .finished := by
  obtain ⟨start, begins, opened⟩ := opens
  obtain ⟨taken, passed, -⟩ := stopsAtGroup_opening _ isOne _ _ _ begins.settled opened
  rw [passed.ending, begins.ending]
  simpa [Tape.isClean] using clean

/-- What opens as a text does, and holds the same tokens outside of groups as some tokens behind that
opening, is read from there as these tokens are. -/
theorem exists_opensAt_of_outside {twin : Cursor} {words : List Token}
    (isOne : family = .select ∨ family = .update) (opens : family.OpensAt dialect text here)
    (notEnd : here.current.kind ≠ .endOfText)
    (whole : (Tape.ofText dialect text).tokens = words ++ here.tokens)
    (clean : (Tape.ofText dialect other).isClean = true) (settled : twin.Settled)
    (cleanTwin : twin.ahead.ending = .finished)
    (ahead : twin.current.kind = here.current.kind ∨ twin.current.kind = .symbol .leftParen)
    (same : outside 0 (Tape.ofText dialect other).tokens = outside 0 (words ++ twin.tokens)) :
    ∃ here', family.OpensAt dialect other here' ∧ twin.SameOutside here' := by
  obtain ⟨start, begins, opened⟩ := opens
  obtain ⟨taken, toHere, again⟩ := stopsAtGroup_opening _ isOne _ _ _ begins.settled opened
  obtain rfl : taken = words :=
    List.append_cancel_right (toHere.tokens.symm.trans (begins.tokens.trans whole))
  obtain ⟨start', toTwin⟩ := exists_passes_to taken twin
  have settled' := toTwin.settled_before settled (toHere.ne_end begins.settled)
  have opened' := again notEnd start' twin settled' toTwin ahead
  rw [← toTwin.tokens] at same
  obtain ⟨otherStart, otherBegins⟩ := @exists_begins dialect other (by
    intro empty
    have heads := congrArg List.head? same
    rw [empty, head?_outside, head?_outside] at heads
    cases heads)
  have sameStart : start'.SameOutside otherStart := by
    refine ⟨settled', otherBegins.settled, toTwin.ending.symm.trans cleanTwin, ?_, ?_⟩
    · simpa [Tape.isClean, otherBegins.ending] using clean
    · rw [otherBegins.tokens, same]
  obtain ⟨_, here', -, otherOpened, sameHere⟩ := agree_opening _ isOne _ _ _ _ sameStart opened'
  exact ⟨here', ⟨otherStart, otherBegins, otherOpened⟩, sameHere⟩

section

variable (outline_eq : family.outline dialect.grammar = (do
  family.opening dialect.grammar
  body))
include outline_eq

/-- From the first token of a text on, the outline is read as the body is behind the opening. -/
theorem outline_of_opensAt (opens : family.OpensAt dialect text here) :
    ∃ start : Cursor, start.Begins dialect text ∧ start.current.kind = .reserved family.keyword ∧
      family.outline dialect.grammar start = body here := by
  obtain ⟨start, begins, opened⟩ := opens
  exact ⟨start, begins, onKeyword_of_opening opened, by rw [outline_eq, bind_of_ok opened]⟩

/-- Where the body is read up to an end of the statement, the text is parsed to it. -/
theorem parse_of_body (opens : family.OpensAt dialect text here)
    (read : body here = .ok outline final) (settled : final.Settled)
    (clean : final.ahead.ending = .finished)
    (terminates : final.current.kind = .endOfText ∨ final.current.kind = .symbol .semicolon) :
    parse dialect rule text = .ok (outline.statement rule family) := by
  obtain ⟨start, begins, onKeyword, same⟩ := outline_of_opensAt outline_eq opens
  obtain ⟨after, ended⟩ := skipSemicolon_ok settled clean terminates
  exact (parse_ok_iff_of_begins begins onKeyword).mpr
    ⟨outline, final, after, same.trans read, ended, rfl⟩

/-- Where the body cannot be read, the text is not parsed, for the same cause. -/
theorem parse_of_body_error {cause : ParseError} (opens : family.OpensAt dialect text here)
    (failed : body here = .error cause after) : parse dialect rule text = .error cause := by
  obtain ⟨start, begins, onKeyword, same⟩ := outline_of_opensAt outline_eq opens
  have refused : family.parser dialect.grammar rule start = .error cause after := by
    rw [Family.parser_eq, bind_error_iff]
    exact .inl (same.trans failed)
  rw [parse_of_advance (advance_ofText_ok_iff.mpr begins), statementOf_of_keyword onKeyword, refused]
  rfl

/-- A text is parsed to what its body is read to. -/
theorem exists_body_of_parse (opens : family.OpensAt dialect text here)
    (parsed : parse dialect rule text = .ok statement) :
    ∃ outline after, body here = .ok outline after ∧ statement = outline.statement rule family := by
  obtain ⟨start, begins, onKeyword, same⟩ := outline_of_opensAt outline_eq opens
  obtain ⟨outline, middle, _, read, -, rfl⟩ := (parse_ok_iff_of_begins begins onKeyword).mp parsed
  exact ⟨outline, middle, same.symm.trans read, rfl⟩

/-- Texts whose bodies are read alike are parsed to the same statement but for places. -/
theorem exists_parse_of_body (opens : family.OpensAt dialect text here)
    (opens' : family.OpensAt dialect other here')
    (forth : ∀ outline middle, body here = .ok outline middle → ∃ outline' middle',
      Alike SameName outline outline' ∧ body here' = .ok outline' middle' ∧
        middle.SameOutside middle')
    (parsed : parse dialect rule text = .ok statement) :
    ∃ statement', parse dialect rule other = .ok statement' ∧
      statement'.withoutPlaces = statement.withoutPlaces := by
  obtain ⟨start, begins, onKeyword, same⟩ := outline_of_opensAt outline_eq opens
  obtain ⟨start', begins', onKeyword', same'⟩ := outline_of_opensAt outline_eq opens'
  refine exists_parse_of_outline begins begins' onKeyword onKeyword'
    (fun outline middle read => ?_) parsed
  rw [same']
  exact forth outline middle (same.symm.trans read)

variable {twin : Cursor}

/-- A text is parsed alike where it is read behind its opening as another text is. -/
theorem toOption_parse_eq_of_body (agree : Agree (Alike SameName) body body)
    (opens : family.OpensAt dialect text here) (opens' : family.OpensAt dialect other here')
    (same : twin.SameOutside here') (alike : body twin = body here) :
    (parse dialect rule other).toOption.map Statement.withoutPlaces =
      (parse dialect rule text).toOption.map Statement.withoutPlaces := by
  have forth (outline : Outline) (middle : Cursor) (read : body here = .ok outline middle) :
      ∃ outline' middle', Alike SameName outline outline' ∧ body here' = .ok outline' middle' ∧
        middle.SameOutside middle' :=
    agree _ _ _ _ same (alike.trans read)
  have back (outline : Outline) (middle : Cursor) (read : body here' = .ok outline middle) :
      ∃ outline' middle', Alike SameName outline outline' ∧ body here = .ok outline' middle' ∧
        middle.SameOutside middle' := by
    rw [← alike]
    exact agree _ _ _ _ same.symm read
  refine toOption_parse_eq (fun _ => exists_parse_of_body outline_eq opens opens' forth)
    fun _ parsed => ?_
  obtain ⟨statement, parsed, -⟩ := exists_parse_of_body outline_eq opens' opens back parsed
  exact ⟨statement, parsed⟩

/-- A text is parsed to what is read behind its opening, but for places. -/
theorem toOption_parse_of_body (agree : Agree (Alike SameName) body body)
    (opens : family.OpensAt dialect other here') (same : twin.SameOutside here')
    (read : body twin = .ok outline final)
    (terminates : final.current.kind = .endOfText ∨ final.current.kind = .symbol .semicolon) :
    (parse dialect rule other).toOption.map Statement.withoutPlaces =
      some (outline.statement rule family).withoutPlaces := by
  obtain ⟨outline', final', alike, read', sameFinal⟩ := agree _ _ _ _ same read
  rw [← sameFinal.current.1] at terminates
  rw [parse_of_body outline_eq opens read' sameFinal.settledRight sameFinal.cleanRight terminates]
  refine congrArg some ?_
  rw [← Outline.statement_withoutPlaces, ← Outline.statement_withoutPlaces,
    Outline.withoutPlaces_of_alike alike]

end

end Reading

end SqlSharding
