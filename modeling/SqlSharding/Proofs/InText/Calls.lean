import SqlSharding.Proofs.InText

/-!
# Moves and calls

A cursor that is moved through a text calls the lexer of the text once for each move. What is ahead of the
cursor is what the lexer is going to answer, or else the end or a fault that it has answered already. So
the tokens ahead stand behind the token under the cursor, there are no more of them than characters are
left, and a piece of the text is made up of its tokens and of blanks and comments between them.
-/

namespace SqlSharding

/-- The token is no end and is answered by a lexer that stands in the text. -/
def Token.IsRead (rules : LexicalRules) (text : List Char) (token : Token) : Prop :=
  ∃ before after : Lexer, before.StandsIn rules text ∧ before.Reads token after

variable {rules : LexicalRules} {text : List Char} {lexer after : Lexer} {token last : Token}
  {tokens : List Token}

namespace Lexer

/-- Behind the tokens that calls answer, the lexer stands where the last one ends. -/
theorem StandsIn.offset_of_yields (stands : lexer.StandsIn rules text)
    (yields : lexer.Yields (tokens ++ [last]) after) : after.offset = last.stop := by
  induction tokens generalizing lexer with
  | nil =>
    cases yields with
    | cons reads later =>
      cases later
      exact (stands.reads reads).2.2
  | cons token tokens inductionHypothesis =>
    cases yields with
    | cons reads later => exact inductionHypothesis (stands.reads reads).1 later

/-- The tokens of a tape are answered behind the lexer, and there are no more of them than characters, the
end apart. -/
theorem StandsIn.tokens_ofLexer (stands : lexer.StandsIn rules text) :
    (∀ token ∈ (Tape.ofLexer lexer).tokens, lexer.offset ≤ token.start ∧ token.start ≤ token.stop ∧
        (token.kind = .endOfText ∨ token.IsRead rules text)) ∧
      (Tape.ofLexer lexer).tokens.countP (·.kind ≠ .endOfText) ≤ lexer.rest.length := by
  induction bound : lexer.rest.length using Nat.strongRecOn generalizing lexer with
  | _ bound inductionHypothesis =>
    rcases lexer.next_cases stands.keywords with
      ⟨token, after, reads⟩ | ⟨place, after, answer⟩ | ⟨fault, after, answer⟩
    · obtain ⟨standsBehind, covers, atStop⟩ := stands.reads reads
      have shorter := reads.shorter stands.keywords
      obtain ⟨places, count⟩ := inductionHypothesis _ (bound ▸ shorter) standsBehind rfl
      have toStart := covers.offset_le
      have toStop := covers.start_le
      rw [Tape.ofLexer_of_reads stands.keywords reads]
      refine ⟨List.forall_mem_cons.mpr ⟨⟨toStart, toStop, .inr ⟨lexer, after, stands, reads⟩⟩, ?_⟩, ?_⟩
      · intro later isLater
        obtain ⟨behind, ordered⟩ := places later isLater
        exact ⟨by omega, ordered⟩
      · change (token :: (Tape.ofLexer after).tokens).countP _ ≤ _
        rw [List.countP_cons]
        split <;> omega
    · have covers := stands.next.2
      rw [answer] at covers
      rw [Tape.ofLexer_of_end answer]
      refine ⟨List.forall_mem_cons.mpr ⟨⟨covers.1.offset_le, Nat.le_refl _, .inl rfl⟩, nofun⟩, ?_⟩
      simp [Token.endAt]
    · rw [(Tape.ofLexer_of_fault answer).1]
      exact ⟨nofun, Nat.zero_le _⟩

end Lexer

namespace Cursor

/-- What is ahead of a cursor, by the lexer that has been called once for each of its moves. -/
inductive Awaits (text : List Char) (lexer : Lexer) (cursor : Cursor) : Prop
  /-- What the lexer is going to answer. -/
  | answers (atStop : lexer.offset = cursor.current.stop) (ahead : cursor.ahead = .ofLexer lexer)
  /-- A fault that has been answered, and is answered again. -/
  | fault {fault : IllegalInput} (ahead : cursor.ahead = ⟨[], .blocked fault⟩)
  /-- The end of the text, behind a quote that is not closed. -/
  | onlyEnd (ahead : cursor.ahead = ⟨[.endAt text.length], .finished⟩)
  /-- The end, which has been answered. -/
  | nothing (ahead : cursor.ahead = ⟨[], .finished⟩)

/-- A cursor and the lexer of its text, which has been called once for each of the moves. -/
structure InStep (rules : LexicalRules) (text : List Char) (lexer : Lexer) (cursor : Cursor) : Prop where
  stands : lexer.StandsIn rules text
  current : cursor.current.kind = .endOfText ∨ cursor.current.IsRead rules text
  awaits : cursor.Awaits text lexer

variable {cursor : Cursor}

/-- A move and a call keep the cursor and the lexer in step, whether the move succeeds or fails. -/
theorem InStep.move (inStep : cursor.InStep rules text lexer) :
    (Reading.leaves Reading.advance cursor).InStep rules text lexer.next.2 := by
  obtain ⟨dialect, whole, current, tape⟩ := cursor
  obtain ⟨stands, onToken, awaits⟩ := inStep
  have standsBehind := stands.next.1
  cases awaits with
  | answers atStop ahead =>
    obtain rfl : tape = _ := ahead
    rcases lexer.next_cases stands.keywords with
      ⟨token, after, reads⟩ | ⟨place, after, answer⟩ | ⟨fault, after, answer⟩
    · obtain ⟨-, -, atStop⟩ := stands.reads reads
      rw [Tape.ofLexer_of_reads stands.keywords reads]
      rw [reads.answer] at standsBehind ⊢
      exact ⟨standsBehind, .inr ⟨lexer, after, stands, reads⟩, .answers atStop rfl⟩
    · rw [Tape.ofLexer_of_end answer]
      exact ⟨standsBehind, .inl rfl, .nothing rfl⟩
    · have tells := stands.ending_tells
      have noTokens := (Tape.ofLexer_of_fault answer).1
      have endings := Tape.ending_of_fault answer
      revert tells noTokens endings
      generalize Tape.ofLexer lexer = tape
      obtain ⟨tokens, ending⟩ := tape
      rintro tells rfl (rfl | ⟨final, rfl⟩)
      · exact ⟨standsBehind, onToken, .fault rfl⟩
      · obtain ⟨-, rfl⟩ := tells
        exact ⟨standsBehind, onToken, .onlyEnd rfl⟩
  | fault ahead =>
    obtain rfl : tape = _ := ahead
    exact ⟨standsBehind, onToken, .fault rfl⟩
  | onlyEnd ahead =>
    obtain rfl : tape = _ := ahead
    exact ⟨standsBehind, .inl rfl, .nothing rfl⟩
  | nothing ahead =>
    obtain rfl : tape = _ := ahead
    exact ⟨standsBehind, .inl rfl, .nothing rfl⟩

/-- The tokens ahead stand behind the token under the cursor. -/
theorem InStep.places_ahead (inStep : cursor.InStep rules text lexer)
    (notEnd : cursor.current.kind ≠ .endOfText) :
    cursor.current.start < cursor.current.stop ∧
      ∀ token ∈ cursor.ahead.tokens, cursor.current.stop ≤ token.start ∧ token.start ≤ token.stop := by
  obtain ⟨before, after, stands, reads⟩ := inStep.current.resolve_left notEnd
  obtain ⟨-, covers, -⟩ := stands.reads reads
  refine ⟨covers.notEmpty notEnd, ?_⟩
  cases inStep.awaits with
  | answers atStop ahead =>
    rw [ahead, ← atStop]
    intro token isAhead
    obtain ⟨behind, ordered, -⟩ := inStep.stands.tokens_ofLexer.1 token isAhead
    exact ⟨behind, ordered⟩
  | fault ahead =>
    rw [ahead]
    nofun
  | onlyEnd ahead =>
    rw [ahead]
    exact List.forall_mem_cons.mpr ⟨⟨covers.stop_le, Nat.le_refl _⟩, nofun⟩
  | nothing ahead =>
    rw [ahead]
    nofun

/-- No token from the cursor on ends before the token under the cursor begins. -/
theorem InStep.start_le_of_mem (inStep : cursor.InStep rules text lexer)
    (notEnd : cursor.current.kind ≠ .endOfText) (isIn : token ∈ cursor.tokens) :
    cursor.current.start ≤ token.stop := by
  obtain ⟨notEmpty, places⟩ := inStep.places_ahead notEnd
  rcases List.mem_cons.mp isIn with rfl | isAhead
  · exact Nat.le_of_lt notEmpty
  · obtain ⟨behind, ordered⟩ := places token isAhead
    omega

/-- The token under the cursor and those ahead are answers of the lexer, the end apart. -/
theorem InStep.isRead_of_mem (inStep : cursor.InStep rules text lexer) (isIn : token ∈ cursor.tokens) :
    token.kind = .endOfText ∨ token.IsRead rules text := by
  rcases List.mem_cons.mp isIn with rfl | isAhead
  · exact inStep.current
  cases inStep.awaits with
  | answers atStop ahead =>
    rw [ahead] at isAhead
    exact (inStep.stands.tokens_ofLexer.1 token isAhead).2.2
  | fault ahead => simp [ahead] at isAhead
  | onlyEnd ahead =>
    rw [ahead, List.mem_singleton] at isAhead
    exact .inl (isAhead ▸ rfl)
  | nothing ahead => simp [ahead] at isAhead

/-- There are no more tokens ahead than characters that are left, the end apart. -/
theorem InStep.countP_ahead_le (inStep : cursor.InStep rules text lexer) :
    cursor.ahead.tokens.countP (·.kind ≠ .endOfText) ≤ lexer.rest.length := by
  cases inStep.awaits with
  | answers atStop ahead =>
    rw [ahead]
    exact inStep.stands.tokens_ofLexer.2
  | fault ahead => simp [ahead]
  | onlyEnd ahead => simp [ahead, Token.endAt]
  | nothing ahead => simp [ahead]

/-- From the token under the cursor up to one with another one behind it, the text is made up of the tokens
and of blanks and comments before each. -/
theorem InStep.exists_pieces (inStep : cursor.InStep rules text lexer) {front later : List Token}
    {next : Token} (notEnd : cursor.current.kind ≠ .endOfText)
    (tokens : cursor.tokens = front ++ last :: next :: later) :
    ∃ pieces : List (List Char × Token), pieces.map Prod.snd = front ++ [last] ∧
      (∀ piece ∈ pieces, Filler rules piece.1) ∧
      pieces.flatMap Lexer.pieceWritten = text.extract cursor.current.start last.stop := by
  obtain ⟨before, after, stands, reads⟩ := inStep.current.resolve_left notEnd
  obtain ⟨-, covers, -⟩ := stands.reads reads
  have single : Lexer.pieceWritten ([], cursor.current) = text.extract cursor.current.start cursor.current.stop :=
    covers.written.symm
  cases front with
  | nil =>
    obtain ⟨rfl, -⟩ := List.cons.inj tokens
    refine ⟨[([], cursor.current)], rfl, ?_, ?_⟩
    · exact List.forall_mem_singleton.mpr .nil
    · rw [List.flatMap_singleton, single]
  | cons first front =>
    obtain ⟨rfl, behind⟩ := List.cons.inj tokens
    replace behind : cursor.ahead.tokens = (front ++ [last]) ++ next :: later := by
      rw [behind, List.append_assoc]
      rfl
    cases inStep.awaits with
    | answers atStop ahead =>
      rw [ahead] at behind
      obtain ⟨final, yields, -⟩ := Tape.exists_yields inStep.stands.keywords behind (List.cons_ne_nil _ _)
      obtain ⟨count, pieces, areTokens, fillers, whole⟩ := inStep.stands.exists_pieces_of_yields yields
      have atLast := inStep.stands.offset_of_yields yields
      refine ⟨([], cursor.current) :: pieces, ?_, ?_, ?_⟩
      · rw [List.map_cons, areTokens, List.cons_append]
      · exact List.forall_mem_cons.mpr ⟨.nil, fillers⟩
      · rw [List.flatMap_cons, whole, single, atStop, atLast]
        exact Lexer.extract_append covers.start_le (by omega)
    | fault ahead => simp [ahead] at behind
    | onlyEnd ahead => simp [ahead, List.singleton_eq_append_iff] at behind
    | nothing ahead => simp [ahead] at behind

end Cursor

namespace Reading

/-- However often a cursor has been moved, it is in step with a lexer that has been called as often. -/
theorem inStep_movedInto (dialect : Dialect) (text : String) (moves : Nat) :
    (movedInto dialect text moves).InStep (.ofGrammar dialect.grammar) text.toList
      ((Lexer.ofDialect dialect text).afterCalls moves) := by
  induction moves with
  | zero => exact ⟨Lexer.standsIn_ofText _ dialect text, .inl rfl, .answers rfl rfl⟩
  | succ moves inductionHypothesis =>
    rw [movedInto, Function.iterate_succ_apply', Lexer.afterCalls_succ]
    exact inductionHypothesis.move

/-- A move that succeeds or fails keeps the text of the cursor. -/
theorem text_leaves_advance (cursor : Cursor) : (leaves advance cursor).text = cursor.text := by
  obtain ⟨dialect, text, current, ⟨tokens, ending⟩⟩ := cursor
  cases tokens with
  | cons token later => rfl
  | nil => cases ending <;> rfl

/-- However often it has been moved, a cursor keeps its text. -/
theorem text_movedInto (dialect : Dialect) (text : String) (moves : Nat) :
    (movedInto dialect text moves).text = text := by
  induction moves with
  | zero => rfl
  | succ moves inductionHypothesis =>
    rw [movedInto, Function.iterate_succ_apply', text_leaves_advance]
    exact inductionHypothesis

end Reading

end SqlSharding
