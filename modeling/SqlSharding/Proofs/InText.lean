import SqlSharding.Proofs.Retries

/-!
# Cursors in a text

A cursor that moves have left anywhere in a text is settled there or stands on the end, although moves may
have failed on the way and left the end of the text ahead.
-/

namespace SqlSharding

/-- The tape ends as the tape of a text does: without a fault the end token is the last token, and an end
token stands nowhere else, a token to come behind a fault among them. -/
structure Tape.EndsWell (tape : Tape) : Prop where
  last : tape.ending = .finished → tape.tokens = [] ∨ ∃ place, tape.tokens.getLast? = some (.endAt place)
  nothingAfter : ∀ first token later, tape.tokens = first ++ token :: later →
    token.kind = .endOfText → later = [] ∧ tape.ending = .finished
  unclosed : ∀ fault last, tape.ending = .unclosed fault last → ∃ place, last = .endAt place

namespace Tape.EndsWell

variable {token : Token} {later : List Token} {ending : Ending}

/-- The tape of a text ends well. -/
theorem ofText (dialect : Dialect) (text : String) : (Tape.ofText dialect text).EndsWell where
  last finished := by
    obtain ⟨tokens, place, whole⟩ := ofText_finished finished
    exact .inr ⟨place, by rw [whole, List.getLast?_concat]⟩
  nothingAfter _ _ _ := ofLexer_nothingAfter (Dictionary.hasKeywords_ofDialect dialect)
  unclosed fault last isUnclosed := by
    have tells := (Lexer.standsIn_ofText (.ofGrammar dialect.grammar) dialect text).ending_tells
    change (Tape.ofText dialect text).ending.Tells _ _ at tells
    rw [isUnclosed] at tells
    exact ⟨_, tells.2⟩

/-- A tape of the end alone ends well. -/
theorem endAt (place : Nat) : EndsWell ⟨[.endAt place], .finished⟩ where
  last _ := .inr ⟨place, rfl⟩
  nothingAfter first token later tokens _ := by
    rw [List.singleton_eq_append_iff] at tokens
    simp_all
  unclosed _ _ isUnclosed := nomatch isUnclosed

/-- A tape still ends well when its first token is gone. -/
theorem tail (endsWell : EndsWell ⟨token :: later, ending⟩) : EndsWell ⟨later, ending⟩ where
  last finished := by
    rcases endsWell.last finished with nothing | ⟨place, last⟩
    · cases nothing
    · cases later with
      | nil => exact .inl rfl
      | cons next later => exact .inr ⟨place, by rwa [List.getLast?_cons_cons] at last⟩
  nothingAfter first found rest tokens :=
    endsWell.nothingAfter (token :: first) found rest (congrArg (token :: ·) tokens)
  unclosed := endsWell.unclosed

/-- A cursor on the first token of a tape that ends well is settled. -/
theorem settled (endsWell : EndsWell ⟨token :: later, ending⟩) (dialect : Dialect) (text : String) :
    Cursor.Settled ⟨dialect, text, token, ⟨later, ending⟩⟩ where
  last finished := (endsWell.last finished).resolve_left (List.cons_ne_nil _ _)
  nothingAfter := endsWell.nothingAfter

end Tape.EndsWell

namespace Cursor

/-- The cursor is on an end token or in its text, and so are the cursors that it may be moved to. -/
structure IsInText (cursor : Cursor) : Prop where
  here : cursor.current.kind = .endOfText ∨ cursor.Settled
  ahead : cursor.ahead.EndsWell

/-- A move, whether it succeeds or fails, leaves the cursor in its text. -/
theorem IsInText.move {cursor : Cursor} (isInText : cursor.IsInText) :
    (Reading.leaves Reading.advance cursor).IsInText := by
  obtain ⟨dialect, text, current, ⟨tokens, ending⟩⟩ := cursor
  obtain ⟨here, ahead⟩ := isInText
  cases tokens with
  | cons token later => exact ⟨.inr (ahead.settled dialect text), ahead.tail⟩
  | nil =>
    cases ending with
    | finished => exact ⟨.inl rfl, ahead⟩
    | blocked fault => exact ⟨here, ahead⟩
    | unclosed fault last =>
      obtain ⟨place, rfl⟩ := ahead.unclosed fault last rfl
      refine ⟨here.imp_right fun settled => ⟨fun _ => ⟨place, rfl⟩, ?_⟩, .endAt place⟩
      intro first token later tokens isEnd
      cases first with
      | nil =>
        obtain ⟨rfl, -⟩ := List.cons.inj tokens
        exact nomatch (settled.nothingAfter [] current [] rfl isEnd).2
      | cons _ first =>
        exact (Tape.EndsWell.endAt place).nothingAfter first token later (List.cons.inj tokens).2 isEnd

end Cursor

namespace Reading

/-- The cursor as some moves from in front of a text leave it, of which any may fail. -/
def movedInto (dialect : Dialect) (text : String) (moves : Nat) : Cursor :=
  (leaves advance)^[moves] (.ofText dialect text)

/-- However often it has been moved, a cursor is in its text. -/
theorem isInText_movedInto (dialect : Dialect) (text : String) (moves : Nat) :
    (movedInto dialect text moves).IsInText := by
  induction moves with
  | zero => exact ⟨.inl rfl, .ofText dialect text⟩
  | succ moves inductionHypothesis =>
    rw [movedInto, Function.iterate_succ_apply']
    exact inductionHypothesis.move

end Reading

end SqlSharding
