import SqlSharding.Proofs.Lexing
import SqlSharding.Tape

/-!
# Tapes of lexers

A tape begins with the tokens of successive calls and goes on with the tape of the lexer after them.
It has an end token only as its last token, and only if no fault comes first.
-/

namespace SqlSharding

/-- The ending so many characters further on. -/
def Ending.shift (count : Nat) : Ending → Ending
  | finished => finished
  | blocked fault => blocked (fault.shift count)
  | unclosed fault last => unclosed (fault.shift count) (last.shift count)

namespace Tape

/-- The tape so many characters further on. -/
def shift (count : Nat) (tape : Tape) : Tape :=
  ⟨tape.tokens.map (Token.shift count), tape.ending.shift count⟩

/-- The tape with tokens before it. -/
def prepend (tokens : List Token) (tape : Tape) : Tape :=
  { tape with tokens := tokens ++ tape.tokens }

variable {lexer after : Lexer} {token : Token}

/-- Calls beyond one for each character answer nothing new. -/
theorem record_congr (keywords : lexer.dictionary.HasKeywords) {left right : Nat}
    (leftEnough : lexer.rest.length < left) (rightEnough : lexer.rest.length < right) :
    record left lexer = record right lexer := by
  induction left generalizing right lexer with
  | zero => omega
  | succ left inductionHypothesis =>
    obtain ⟨right, rfl⟩ : ∃ count, right = count + 1 := ⟨right - 1, by omega⟩
    rw [record, record]
    split
    · rename_i token after answer
      split
      · rfl
      · rename_i notEnd
        have reads : lexer.Reads token after := ⟨answer, notEnd⟩
        have shorter := reads.shorter keywords
        have same : record left after = record right after :=
          inductionHypothesis (reads.dictionary_eq keywords ▸ keywords) (by omega) (by omega)
        rw [same]
    · rfl

/-- A token that is read comes before the tape of the lexer behind it. -/
theorem ofLexer_of_reads (keywords : lexer.dictionary.HasKeywords)
    (reads : lexer.Reads token after) : ofLexer lexer = (ofLexer after).cons token := by
  rw [ofLexer, record]
  simp only [reads.answer, if_neg reads.notEnd]
  rw [ofLexer, record_congr (reads.dictionary_eq keywords ▸ keywords) (reads.shorter keywords)
    (Nat.lt_succ_self _)]

/-- Where the end is answered, the tape has the end only. -/
theorem ofLexer_of_end {place : Nat} (answer : lexer.next = (.ok (.endAt place), after)) :
    ofLexer lexer = ⟨[.endAt place], .finished⟩ := by
  rw [ofLexer, record]
  simp only [answer]
  rfl

/-- Where a fault is answered, the tape has no tokens and is not finished. -/
theorem ofLexer_of_fault {fault : IllegalInput} (answer : lexer.next = (.error fault, after)) :
    (ofLexer lexer).tokens = [] ∧ (ofLexer lexer).ending ≠ .finished := by
  rw [ofLexer, record]
  simp only [answer]
  split <;> simp

/-- A fault that is answered blocks the tape, or is that of a quote that is not closed. -/
theorem ending_of_fault {fault : IllegalInput} (answer : lexer.next = (.error fault, after)) :
    (ofLexer lexer).ending = .blocked fault ∨ ∃ last, (ofLexer lexer).ending = .unclosed fault last := by
  rw [ofLexer, record]
  simp only [answer]
  split <;> simp

/-- The tokens of successive calls come before the tape of the lexer behind them. -/
theorem ofLexer_of_yields {tokens : List Token} (keywords : lexer.dictionary.HasKeywords)
    (yields : lexer.Yields tokens after) : ofLexer lexer = (ofLexer after).prepend tokens := by
  induction yields with
  | nil => rfl
  | cons reads later inductionHypothesis =>
    rw [ofLexer_of_reads keywords reads,
      inductionHypothesis (reads.dictionary_eq keywords ▸ keywords)]
    rfl

/-- Tokens at the front of a tape, with a token behind them, are answers of calls. -/
theorem exists_yields {first later : List Token} (keywords : lexer.dictionary.HasKeywords)
    (tokens : (ofLexer lexer).tokens = first ++ later) (goesOn : later ≠ []) :
    ∃ after, lexer.Yields first after ∧ (ofLexer after).tokens = later ∧
      (ofLexer after).ending = (ofLexer lexer).ending := by
  induction first generalizing lexer with
  | nil => exact ⟨lexer, .nil, tokens, rfl⟩
  | cons token first inductionHypothesis =>
    rcases lexer.next_cases keywords with
      ⟨found, middle, reads⟩ | ⟨place, middle, answer⟩ | ⟨fault, middle, answer⟩
    · rw [ofLexer_of_reads keywords reads] at tokens ⊢
      obtain ⟨rfl, rest⟩ := List.cons.inj tokens
      obtain ⟨after, yields, rest, ending⟩ :=
        inductionHypothesis (reads.dictionary_eq keywords ▸ keywords) rest
      exact ⟨after, .cons reads yields, rest, ending⟩
    · rw [ofLexer_of_end answer] at tokens
      have nothing := (List.cons.inj tokens).2.symm
      exact absurd (List.append_eq_nil_iff.mp nothing).2 goesOn
    · rw [(ofLexer_of_fault answer).1] at tokens
      cases tokens

/-- A tape without a fault ends with the end token. -/
theorem ofLexer_finished (keywords : lexer.dictionary.HasKeywords)
    (finished : (ofLexer lexer).ending = .finished) :
    ∃ tokens place, (ofLexer lexer).tokens = tokens ++ [.endAt place] := by
  induction bound : lexer.rest.length using Nat.strongRecOn generalizing lexer with
  | _ bound inductionHypothesis =>
    rcases lexer.next_cases keywords with
      ⟨token, middle, reads⟩ | ⟨place, middle, answer⟩ | ⟨fault, middle, answer⟩
    · rw [ofLexer_of_reads keywords reads] at finished ⊢
      obtain ⟨tokens, place, rest⟩ := inductionHypothesis _ (bound ▸ reads.shorter keywords)
        (reads.dictionary_eq keywords ▸ keywords) finished rfl
      exact ⟨token :: tokens, place, congrArg (token :: ·) rest⟩
    · exact ⟨[], place, by rw [ofLexer_of_end answer]; rfl⟩
    · exact absurd finished (ofLexer_of_fault answer).2

/-- The calls that answer the tokens of a tape without a fault, and the call that answers its end. -/
theorem exists_yields_of_finished (keywords : lexer.dictionary.HasKeywords)
    (finished : (ofLexer lexer).ending = .finished) :
    ∃ tokens after place next, (ofLexer lexer).tokens = tokens ++ [.endAt place] ∧
      lexer.Yields tokens after ∧ after.next = (.ok (.endAt place), next) := by
  obtain ⟨tokens, place, whole⟩ := ofLexer_finished keywords finished
  obtain ⟨after, yields, last, -⟩ := exists_yields keywords whole (by simp)
  have afterKeywords : after.dictionary.HasKeywords := yields.dictionary_eq keywords ▸ keywords
  rcases after.next_cases afterKeywords with
    ⟨token, next, reads⟩ | ⟨place', next, answer⟩ | ⟨fault, next, answer⟩
  · rw [ofLexer_of_reads afterKeywords reads] at last
    have isEnd := (List.cons.inj last).1
    exact absurd (by rw [isEnd]; rfl) reads.notEnd
  · rw [ofLexer_of_end answer] at last
    have samePlace := (List.cons.inj last).1
    exact ⟨tokens, after, place, next, whole, yields, samePlace ▸ answer⟩
  · rw [(ofLexer_of_fault answer).1] at last
    cases last

/-- Nothing comes after an end token on a tape. -/
theorem ofLexer_nothingAfter {first later : List Token} {token : Token}
    (keywords : lexer.dictionary.HasKeywords)
    (tokens : (ofLexer lexer).tokens = first ++ token :: later) (isEnd : token.kind = .endOfText) :
    later = [] ∧ (ofLexer lexer).ending = .finished := by
  induction first generalizing lexer with
  | nil =>
    rcases lexer.next_cases keywords with
      ⟨found, middle, reads⟩ | ⟨place, middle, answer⟩ | ⟨fault, middle, answer⟩
    · rw [ofLexer_of_reads keywords reads] at tokens
      have same := (List.cons.inj tokens).1
      exact absurd (same ▸ isEnd) reads.notEnd
    · rw [ofLexer_of_end answer] at tokens ⊢
      exact ⟨(List.cons.inj tokens).2.symm, rfl⟩
    · rw [(ofLexer_of_fault answer).1] at tokens
      cases tokens
  | cons other first inductionHypothesis =>
    rcases lexer.next_cases keywords with
      ⟨found, middle, reads⟩ | ⟨place, middle, answer⟩ | ⟨fault, middle, answer⟩
    · rw [ofLexer_of_reads keywords reads] at tokens ⊢
      exact inductionHypothesis (reads.dictionary_eq keywords ▸ keywords) (List.cons.inj tokens).2
    · rw [ofLexer_of_end answer] at tokens
      have rest := (List.cons.inj tokens).2
      simp at rest
    · rw [(ofLexer_of_fault answer).1] at tokens
      cases tokens

/-- A lexer further on records the same tokens, as far further on. -/
theorem record_shift (calls count : Nat) (lexer : Lexer) :
    record calls (lexer.shift count) = (record calls lexer).shift count := by
  induction calls generalizing lexer with
  | zero => rfl
  | succ calls inductionHypothesis =>
    rw [record, record, Lexer.next_shift]
    rcases lexer.next with ⟨_ | token, after⟩
    · simp only [Lexer.shiftAnswer, Lexer.next_shift]
      rcases after.next with ⟨_ | last, final⟩ <;> rfl
    · simp only [Lexer.shiftAnswer, inductionHypothesis, Token.shift_kind]
      split <;> rfl

/-- A tape has the same tokens wherever the places are counted from. -/
theorem ofLexer_shift (count : Nat) (lexer : Lexer) :
    ofLexer (lexer.shift count) = (ofLexer lexer).shift count :=
  record_shift _ count lexer

/-- The tape of a text without a fault ends with the end token. -/
theorem ofText_finished {dialect : Dialect} {text : String}
    (finished : (ofText dialect text).ending = .finished) :
    ∃ tokens place, (ofText dialect text).tokens = tokens ++ [.endAt place] :=
  ofLexer_finished (Dictionary.hasKeywords_ofDialect dialect) finished

end Tape

end SqlSharding
