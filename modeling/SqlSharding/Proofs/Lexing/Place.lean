import SqlSharding.Proofs.Lexing.Tape

/-!
# Places of tokens

The places that a token carries are those of its characters, and tokens stand in the text one behind
the other.
-/

namespace SqlSharding

/-- The token is a piece of the text, between the places it carries. -/
structure Token.StandsIn (text : String) (token : Token) : Prop where
  written : (text.toList.drop token.start).take token.text.length = token.text.toList
  notEmpty : 0 < token.text.length
  stop : token.stop = token.start + token.text.length

/-- A string is no name. -/
theorem Kind.ne_chars_of_isName {kind : Kind} (isName : kind.isName = true) :
    kind ≠ .literal .chars := by
  rintro rfl
  cases isName

namespace Lexer

variable {lexer after : Lexer} {tokens first later : List Token} {token : Token}

/-- The calls up to a token, the one that answers it, and those behind it. -/
theorem Yields.split (yields : lexer.Yields (first ++ token :: later) after) :
    ∃ middle next, lexer.Yields first middle ∧ middle.Reads token next ∧ next.Yields later after := by
  induction first generalizing lexer with
  | nil =>
    cases yields with
    | cons reads behind => exact ⟨lexer, _, .nil, reads, behind⟩
  | cons other first inductionHypothesis =>
    cases yields with
    | cons reads behind =>
      obtain ⟨middle, next, front, atToken, behind⟩ := inductionHypothesis behind
      exact ⟨middle, next, .cons reads front, atToken, behind⟩

/-- Tokens do not overlap, and none stands before the lexer. -/
theorem Yields.ordered (keywords : lexer.dictionary.HasKeywords)
    (yields : lexer.Yields tokens after) :
    (∀ token ∈ tokens, lexer.offset ≤ token.start ∧ token.start < token.stop) ∧
      tokens.Pairwise fun left right => left.stop ≤ right.start := by
  induction yields with
  | nil => exact ⟨by simp, .nil⟩
  | @cons lexer middle after token tokens reads later inductionHypothesis =>
    obtain ⟨gap, written, readsAs⟩ := reads.exists_readsAs keywords
    obtain ⟨places, ordered⟩ := inductionHypothesis (reads.dictionary_eq keywords ▸ keywords)
    have atStop : middle.offset = token.stop := by
      rw [readsAs.landed, moveTo_offset]
    have notEmpty := List.length_pos_iff.mpr readsAs.notEmpty
    have start := readsAs.start
    have stop := readsAs.stop
    refine ⟨?_, List.pairwise_cons.mpr ⟨fun other isLater => ?_, ordered⟩⟩
    · rw [List.forall_mem_cons]
      refine ⟨by omega, fun other isLater => ?_⟩
      have place := places other isLater
      omega
    · have place := places other isLater
      omega

/-- What is answered before a token stands before it, and what is answered later stands behind it. -/
theorem Yields.around (keywords : lexer.dictionary.HasKeywords)
    (yields : lexer.Yields (first ++ token :: later) after) :
    (∀ other ∈ first, other.start < token.start) ∧ ∀ other ∈ later, token.start < other.start := by
  obtain ⟨notEmpty, ordered⟩ := yields.ordered keywords
  rw [List.pairwise_append, List.pairwise_cons] at ordered
  obtain ⟨-, ⟨tokenFirst, -⟩, leftFirst⟩ := ordered
  constructor
  · intro other isIn
    have stops := leftFirst other isIn token List.mem_cons_self
    have here := notEmpty other (List.mem_append_left _ isIn)
    omega
  · intro other isIn
    have stops := tokenFirst other isIn
    have here := notEmpty token (by simp)
    omega

/-- The characters before a token, its own, and those behind it. -/
theorem Yields.exists_place {dialect : Dialect} {text : String} {middle next : Lexer}
    (yields : (Lexer.ofDialect dialect text).Yields first middle) (reads : middle.Reads token next) :
    ∃ passed gap written, (Lexer.ofDialect dialect text).YieldsAs passed first middle ∧
      middle.ReadsAs gap written token next ∧
        text.toList = (passed ++ gap) ++ (written ++ next.rest) ∧
          token.start = (passed ++ gap).length := by
  have keywords := Dictionary.hasKeywords_ofDialect dialect
  obtain ⟨passed, passedAs⟩ := yields.exists_yieldsAs keywords
  obtain ⟨gap, written, readsAs⟩ := reads.exists_readsAs (yields.dictionary_eq keywords ▸ keywords)
  refine ⟨passed, gap, written, passedAs, readsAs, ?_, ?_⟩
  · have whole : text.toList = passed ++ middle.rest := passedAs.rest
    rw [whole, readsAs.rest, List.append_assoc]
  · have landed : middle.offset = 0 + passed.length := by
      rw [passedAs.landed]
      rfl
    rw [readsAs.start, landed, List.length_append, Nat.zero_add]

/-- The text of a token, unless it is a string, is what stands in its place. -/
theorem ReadsAs.toList_text {gap written : List Char} (readsAs : lexer.ReadsAs gap written token after)
    (notChars : token.kind ≠ .literal .chars) : token.text.toList = written := by
  rw [readsAs.text notChars, String.toList_ofList]

/-- A token that calls have answered stands in the text at the place it carries; a string is written
with more than its value. -/
theorem Yields.standsIn {dialect : Dialect} {text : String}
    (yields : (Lexer.ofDialect dialect text).Yields tokens after) (isIn : token ∈ tokens)
    (notChars : token.kind ≠ .literal .chars) : token.StandsIn text := by
  obtain ⟨first, later, rfl⟩ := List.append_of_mem isIn
  obtain ⟨middle, next, front, atToken, -⟩ := yields.split
  obtain ⟨passed, gap, written, -, readsAs, characters, start⟩ := front.exists_place atToken
  have isWritten := readsAs.toList_text notChars
  have length : token.text.length = written.length := by
    rw [← String.length_toList, isWritten]
  refine ⟨?_, ?_, ?_⟩
  · rw [characters, start, List.drop_left, length, List.take_left, isWritten]
  · rw [length]
    exact List.length_pos_iff.mpr readsAs.notEmpty
  · rw [length, readsAs.stop]

end Lexer

end SqlSharding
