import SqlSharding.Proofs.Faults
import SqlSharding.Proofs.Tiling

/-!
# What failures point at

The tokens ahead of a cursor are what a lexer answers that stands behind the token under the cursor.
Moves keep this, and where one fails, the cause points at that token, or at the first character behind
it that is neither blank nor in a comment.
-/

namespace SqlSharding

/-- The cause points at the token under the cursor, or at what no token can be read from behind it:
there are only blanks and comments between the two. -/
def ParseError.PointsAt (rules : LexicalRules) (text : List Char) (cursor : Cursor) :
    ParseError → Prop
  | unsupportedClassification _ | unsupportedKeyword _ | unsupportedDialect .. => False
  | unsupportedStatement _ object => object = cursor.current.text
  | unsupportedToken token | unexpectedToken token | expectedToken _ token => token = cursor.current
  | illegalInput input =>
    cursor.current.stop ≤ input.position ∧ input.position < text.length ∧
      Filler rules (text.extract cursor.current.stop input.position)

/-- A fault is pointed at from the place its call began at. -/
theorem IllegalInput.Covers.pointsAt {rules : LexicalRules} {text : List Char} {cursor : Cursor}
    {fault : IllegalInput} {after : Nat} (covers : fault.Covers rules text cursor.current.stop after) :
    (ParseError.illegalInput fault).PointsAt rules text cursor := by
  refine ⟨covers.offset_le, covers.position_lt, covers.ignored.filler_of_ne ?_⟩
  have positionLt := covers.position_lt
  simpa using positionLt

namespace Cursor

/-- The tokens ahead are what a lexer answers that stands behind the token under the cursor. -/
def LooksAhead (rules : LexicalRules) (text : List Char) (cursor : Cursor) : Prop :=
  ∃ lexer : Lexer, lexer.StandsIn rules text ∧ lexer.offset = cursor.current.stop ∧
    cursor.ahead = .ofLexer lexer

/-- The cursor is on a token of the text and has the rest of the text ahead. -/
structure Follows (rules : LexicalRules) (text : List Char) (cursor : Cursor) : Prop where
  covers : ∃ place, cursor.current.Covers rules text place
  ahead : cursor.LooksAhead rules text ∨
    cursor.current.kind = .endOfText ∧ cursor.ahead = ⟨[], .finished⟩

/-- Before its first move a cursor looks ahead to the whole text. -/
theorem looksAhead_ofText (dialect : Dialect) (text : String) :
    (ofText dialect text).LooksAhead (.ofGrammar dialect.grammar) text.toList :=
  ⟨.ofDialect dialect text, Lexer.standsIn_ofText _ dialect text, rfl, rfl⟩

end Cursor

namespace Reading

open Cursor

variable {α : Type} {rules : LexicalRules} {text : List Char} {before after : Cursor}
  {cause : ParseError}

/-- A move is onto the next token of the text or fails behind the token under the cursor. -/
theorem advance_cases (looks : before.LooksAhead rules text) :
    (∃ after, advance before = .ok () after ∧ after.Follows rules text) ∨
      ∃ fault place after, advance before = .error (.illegalInput fault) after ∧
        after.current = before.current ∧ fault.Covers rules text before.current.stop place := by
  obtain ⟨lexer, stands, atStop, ahead⟩ := looks
  obtain ⟨-, covers⟩ := stands.next
  rcases lexer.next_cases stands.keywords with
    ⟨token, next, reads⟩ | ⟨place, next, answer⟩ | ⟨fault, next, answer⟩
  · obtain ⟨standsAfter, isCovered, atToken⟩ := stands.reads reads
    rw [Tape.ofLexer_of_reads stands.keywords reads] at ahead
    refine .inl ⟨{ before with current := token, ahead := .ofLexer next }, ?_, ⟨_, isCovered⟩, .inl ?_⟩
    · simp only [advance, ahead, Tape.cons]
    · exact ⟨next, standsAfter, atToken, rfl⟩
  · rw [answer] at covers
    rw [Tape.ofLexer_of_end answer] at ahead
    refine .inl ⟨{ before with current := .endAt place, ahead := ⟨[], .finished⟩ }, ?_,
      ⟨_, covers.1⟩, .inr ⟨rfl, rfl⟩⟩
    simp only [advance, ahead]
  · rw [answer, atStop] at covers
    obtain ⟨dialect, whole, current, ⟨tokens, ending⟩⟩ := before
    obtain rfl : tokens = [] :=
      (congrArg Tape.tokens ahead).trans (Tape.ofLexer_of_fault answer).1
    have endings := Tape.ending_of_fault answer
    rw [← ahead] at endings
    obtain rfl | ⟨last, rfl⟩ := endings
    · exact .inr ⟨fault, _, _, rfl, rfl, covers⟩
    · exact .inr ⟨fault, _, _, rfl, rfl, covers⟩

/-- At the end a move leaves the cursor at the end. -/
theorem advance_at_end (covers : ∃ place, before.current.Covers rules text place)
    (isEnd : before.current.kind = .endOfText) (nothing : before.ahead = ⟨[], .finished⟩) :
    ∃ after, advance before = .ok () after ∧ after.Follows rules text := by
  obtain ⟨place, covers⟩ := covers
  have stop_eq : before.current.stop = text.length :=
    Nat.le_antisymm covers.stop_le (covers.atEnd isEnd ▸ covers.start_le)
  have lands : Lexer.Lands rules text text.length text.length [] :=
    ⟨Nat.le_refl _, Nat.le_refl _, by simpa using ⟨.inl .nil, not_beginsGap_nil⟩, List.drop_length⟩
  refine ⟨{ before with current := .endAt text.length }, ?_, ⟨_, lands.endAt⟩, .inr ⟨rfl, nothing⟩⟩
  simp only [advance, nothing, stop_eq, Token.endAt]

/-- A failed reading has left the cursor on a token of the text and points at it, or at a fault of the
text behind it. -/
structure FailsAt (rules : LexicalRules) (text : List Char) (cause : ParseError) (cursor : Cursor) :
    Prop where
  pointsAt : cause.PointsAt rules text cursor
  onToken : ∃ place, cursor.current.Covers rules text place
  ofText : ∀ fault, cause = .illegalInput fault → ∃ place stop, fault.Covers rules text place stop

/-- A cause that blames the token under a cursor of the text. -/
theorem failsAt_of_blames {expects : Kind → Prop} (follows : after.Follows rules text)
    (blames : cause.Blames expects after) : FailsAt rules text cause after := by
  refine ⟨?_, follows.covers, ?_⟩
  · cases cause with
    | expectedToken expected actual => exact blames.1
    | illegalInput fault => exact blames.elim
    | _ => exact blames
  · rintro fault rfl
    exact blames.elim

/-- A move goes to the next piece of the text or fails where no piece can be read. -/
theorem maintains_advance : Maintains (Follows rules text) (FailsAt rules text) advance := by
  have moves {before : Cursor} (follows : before.Follows rules text) :
      (∃ after, advance before = .ok () after ∧ after.Follows rules text) ∨
        ∃ cause after, advance before = .error cause after ∧ FailsAt rules text cause after := by
    obtain ⟨onToken, looks | ⟨isEnd, nothing⟩⟩ := follows
    · rcases advance_cases looks with moved | ⟨fault, place, after, failed, same, covers⟩
      · exact .inl moved
      · rw [← same] at covers onToken
        refine .inr ⟨_, after, failed, covers.pointsAt, onToken, fun _ isFault => ?_⟩
        obtain rfl := ParseError.illegalInput.inj isFault
        exact ⟨_, _, covers⟩
    · exact .inl (advance_at_end onToken isEnd nothing)
  constructor
  · intro before value after follows passed
    rcases moves follows with ⟨_, moved, followsAfter⟩ | ⟨cause, _, failed, -⟩
    · rw [moved] at passed
      cases passed
      exact followsAfter
    · rw [failed] at passed
      cases passed
  · intro before cause after follows failed
    rcases moves follows with ⟨_, moved, -⟩ | ⟨_, _, failedSo, failsAt⟩
    · rw [moved] at failed
      cases failed
    · rw [failedSo] at failed
      cases failed
      exact failsAt

/-- Wherever a parser begins in a text, it fails at the token under the cursor. -/
theorem failsAt_of_family {grammar : Grammar} {rule : ShardingRule} {family : Family}
    (follows : before.Follows rules text)
    (failed : family.parser grammar rule before = .error cause after) :
    FailsAt rules text cause after :=
  (Maintains.of_moves maintains_advance failsAt_of_blames (moves_family grammar rule family)).fails
    follows failed

end Reading

/-- The parsers that are dispatched to are those of the families. -/
theorem exists_family_of_dispatch {dialect : Dialect} {kind : Kind} {rule : ShardingRule}
    {cursor : Cursor} {parser : Parser}
    (chosen : (dispatch .builtIn dialect kind rule cursor).value = .ok parser) :
    ∃ family : Family, parser = family.parser dialect.grammar rule := by
  unfold dispatch at chosen
  cases kind with
  | reserved word =>
    simp only [Logged.value_bind] at chosen
    cases found : Family.ofKeyword? word with
    | some family => exact ⟨family, by simpa [found, Factories.builtIn, eq_comm] using chosen⟩
    | none => simp [found] at chosen
  | _ => simp at chosen

/-- Whichever parser is run on the first token of a text, and for whichever dialect, its failure points
at the token under the cursor. -/
theorem pointsAt_of_first_run {dialect other : Dialect} {kind : Kind} {rule : ShardingRule}
    {text : String} {cursor after : Cursor} {parser : Parser} {cause : ParseError}
    (advanced : Reading.advance (.ofText dialect text) = .ok () cursor)
    (chosen : (dispatch .builtIn other kind rule cursor).value = .ok parser)
    (failed : parser cursor = .error cause after) :
    cause.PointsAt (.ofGrammar dialect.grammar) text.toList after := by
  obtain ⟨family, rfl⟩ := exists_family_of_dispatch chosen
  have follows : cursor.Follows (.ofGrammar dialect.grammar) text.toList := by
    rcases Reading.advance_cases (Cursor.looksAhead_ofText dialect text) with
      ⟨found, moved, follows⟩ | ⟨fault, place, found, failed, -⟩
    · rw [advanced] at moved
      cases moved
      exact follows
    · rw [advanced] at failed
      cases failed
  exact (Reading.failsAt_of_family follows failed).pointsAt

/-- A quote that is not closed stands behind a table name and a comment. -/
theorem pointsAt_of_first_run_quote :
    let text := "DELETE FROM t -- c\n \"x"
    let fault : IllegalInput := ⟨20, "\"x"⟩
    let table : Token := ⟨.literal .identifier, "t", 12, 13⟩
    let first : Cursor := ⟨.oracle, text, ⟨.reserved .DELETE, "DELETE", 0, 6⟩,
      ⟨[⟨.reserved .FROM, "FROM", 7, 11⟩, table], .unclosed fault (.endAt 22)⟩⟩
    let last : Cursor := ⟨.oracle, text, table, ⟨[.endAt 22], .finished⟩⟩
    Reading.advance (.ofText .oracle text) = .ok () first ∧
      (dispatch .builtIn .oracle first.current.kind .empty first).value =
        .ok (Family.delete.parser .oracle .empty) ∧
      Family.delete.parser .oracle .empty first = .error (.illegalInput fault) last ∧
      (ParseError.illegalInput fault).PointsAt (.ofGrammar .oracle) text.toList last := by
  intro text fault table first last
  have advanced : Reading.advance (.ofText .oracle text) = .ok () first :=
    Reading.advance_ofText_ok_iff.mpr ⟨rfl, rfl, by decide +kernel, by decide +kernel⟩
  have chosen : (dispatch .builtIn .oracle first.current.kind .empty first).value =
      .ok (Family.delete.parser .oracle .empty) := rfl
  have failed : Family.delete.parser .oracle .empty first = .error (.illegalInput fault) last := rfl
  exact ⟨advanced, chosen, failed, pointsAt_of_first_run advanced chosen failed⟩

end SqlSharding
