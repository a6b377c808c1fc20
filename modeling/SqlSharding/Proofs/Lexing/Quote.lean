import SqlSharding.Proofs.Lexing.Place
import SqlSharding.Statement.Tables

/-!
# Writing a quoted name

A name between double quotes can stand in the place of any token. The tokens before it stay, and the
tokens behind it are the same a little further on.
-/

namespace SqlSharding

/-- The name between double quotes. -/
def quoteName (name : String) : String :=
  String.ofList ('"' :: (name.toList ++ ['"']))

/-- A quoted name is the name between two quotes. -/
@[simp] theorem toList_quoteName (name : String) :
    (quoteName name).toList = '"' :: (name.toList ++ ['"']) :=
  String.toList_ofList

/-- Quoting makes a name two characters longer. -/
theorem length_quoteName (name : String) : (quoteName name).length = name.length + 2 := by
  rw [← String.length_toList, toList_quoteName, ← String.length_toList]
  simp

/-- Without its quotation marks a quoted name is the name. -/
theorem unquote_quoteName (name : String) : unquote (quoteName name) = name := by
  unfold unquote
  rw [toList_quoteName]
  cases characters : name.toList with
  | nil =>
    have empty : name = String.ofList [] := by rw [← characters, String.ofList_toList]
    simp [areQuotes, empty]
  | cons first rest =>
    have whole : name = String.ofList (first :: rest) := by rw [← characters, String.ofList_toList]
    have last : (first :: (rest ++ ['"'])).getLast (by simp) = '"' := by
      rw [List.getLast_cons (by simp), List.getLast_concat]
    have front : (first :: (rest ++ ['"'])).dropLast = first :: rest := by
      rw [← List.cons_append, List.dropLast_concat]
    simp only [List.cons_append, last, front, ← whole]
    rfl

/-- No more than a quotation mark on either side is taken off. -/
theorem length_le_unquote (written : String) : written.length ≤ (unquote written).length + 2 := by
  unfold unquote
  split
  · rename_i first second rest characters
    split
    · have length : written.length = rest.length + 2 := by
        rw [← String.length_toList, characters]
        rfl
      rw [length, String.length_ofList, List.length_dropLast]
      simp
    · omega
  · omega

/-- The token of a quoted name. -/
def Token.quoted (name : String) (start : Nat) : Token :=
  ⟨.literal .identifier, quoteName name, start, start + (quoteName name).length⟩

/-- The text with other characters in the place of a mark. -/
def TableMark.replaceIn (mark : TableMark) (written text : String) : String :=
  String.ofList (text.toList.take mark.position ++
    (written.toList ++ text.toList.drop (mark.position + mark.written.length)))

/-- A name between double quotes is scanned as an identifier, under any rules. -/
theorem Scan.lexeme_quote (rules : LexicalRules) (dictionary : Dictionary) {name rest : List Char}
    (noQuote : '"' ∉ name) :
    Scan.lexeme rules dictionary '"' (name ++ '"' :: rest) =
      .ok ⟨.literal .identifier, '"' :: (name ++ ['"']), rest⟩ := by
  have others : ∀ c ∈ name, (c != '"') = true := by
    intro c isIn
    simpa using fun isQuote : c = '"' => noQuote (isQuote ▸ isIn)
  have front : (name ++ '"' :: rest).takeWhile (· != '"') = name := by
    rw [List.takeWhile_append_of_pos others]
    simp
  have behind : (name ++ '"' :: rest).dropWhile (· != '"') = '"' :: rest := by
    rw [List.dropWhile_append_of_pos others]
    simp
  rw [lexeme, if_neg (by simp), if_neg (by decide), if_neg (by simp), if_neg (by simp),
    if_neg (by decide), if_pos rfl, quotedIdentifier, front, behind]
  rfl

/-- A call reads a quoted name in the place of a token, and leaves the lexer as far in front of the
same characters. -/
theorem Lexer.ReadsAs.quoted {lexer after : Lexer} {gap written : List Char} {token : Token}
    {name : String} {more : Nat} (readsAs : lexer.ReadsAs gap written token after)
    (noQuote : '"' ∉ name.toList) (longer : (quoteName name).length = written.length + more) :
    (lexer.moveTo lexer.offset (gap ++ ((quoteName name).toList ++ after.rest))).Reads
      (.quoted name token.start) (after.shift more) := by
  have characters : (quoteName name).toList ++ after.rest =
      '"' :: (name.toList ++ '"' :: after.rest) := by
    simp
  have skips := readsAs.skips.cut (by simp [readsAs.notEmpty]) lexer.offset
    ('"' :: (name.toList ++ '"' :: after.rest)) (.here rfl)
  have scanned : Scan.lexeme lexer.rules lexer.dictionary '"' (name.toList ++ '"' :: after.rest) = _ :=
    Scan.lexeme_quote _ _ noQuote
  have answer := next_of_skips
    (lexer.moveTo lexer.offset (gap ++ '"' :: (name.toList ++ '"' :: after.rest))) skips scanned
  have length : Lexeme.written ⟨.literal .identifier, '"' :: (name.toList ++ ['"']), after.rest⟩ =
      (quoteName name).toList := by
    rw [Lexeme.written, Scan.written_of_ne (by simp), toList_quoteName]
  have landed : after.shift more =
      lexer.moveTo (token.start + (quoteName name).length) after.rest := by
    have offset : after.offset = token.start + written.length := by
      rw [readsAs.landed, moveTo_offset, readsAs.stop]
    rw [shift, offset, Nat.add_assoc, ← longer, readsAs.landed]
    rfl
  refine ⟨?_, by simp [Token.quoted]⟩
  rw [characters, answer, landed, length, String.length_toList, readsAs.start]
  rfl

/-- A token no further on is the token. -/
theorem Token.shift_zero : Token.shift 0 = id := rfl

namespace Tape

/-- Where a quoted name stands in the place of a token, the tape has the quoted name there. -/
theorem ofText_replaceIn {dialect : Dialect} {text name : String} {left : List Token} {token : Token}
    {middle next : Lexer} (yields : (Lexer.ofDialect dialect text).Yields left middle)
    (reads : middle.Reads token next) (notChars : token.kind ≠ .literal .chars)
    (noQuote : '"' ∉ name.toList) {more : Nat}
    (longer : (quoteName name).length = token.text.length + more) :
    ofText dialect (TableMark.replaceIn ⟨token.start, token.text⟩ (quoteName name) text) =
      (((ofLexer next).shift more).cons (.quoted name token.start)).prepend left := by
  have keywords := Dictionary.hasKeywords_ofDialect dialect
  obtain ⟨passed, gap, written, passedAs, readsAs, characters, start⟩ := yields.exists_place reads
  have length : token.text.length = written.length := by
    rw [← String.length_toList, readsAs.toList_text notChars]
  have replaced : (TableMark.replaceIn ⟨token.start, token.text⟩ (quoteName name) text).toList =
      passed ++ (gap ++ ((quoteName name).toList ++ next.rest)) := by
    rw [TableMark.replaceIn, String.toList_ofList, characters, length, start, List.take_left,
      ← List.drop_drop, List.drop_left, List.drop_left, List.append_assoc]
  have breaks : Breaks middle.rest (gap ++ ((quoteName name).toList ++ next.rest)) := by
    rw [readsAs.rest]
    exact Breaks.append gap (by rw [toList_quoteName]; exact .here rfl)
  have front := passedAs.again 0 _ (.inr breaks)
  rw [Token.shift_zero, List.map_id] at front
  have atQuote : middle.moveTo middle.offset = (Lexer.ofDialect dialect text).moveTo
      ((Lexer.ofDialect dialect text).offset + passed.length + 0) := by
    rw [passedAs.landed]
    rfl
  have quoted := readsAs.quoted noQuote (length ▸ longer)
  rw [atQuote] at quoted
  have begins : ofText dialect (TableMark.replaceIn ⟨token.start, token.text⟩ (quoteName name) text) =
      ofLexer ((Lexer.ofDialect dialect text).moveTo
        ((Lexer.ofDialect dialect text).offset + 0)
          (passed ++ (gap ++ ((quoteName name).toList ++ next.rest)))) := by
    rw [← replaced]
    rfl
  rw [begins, ofLexer_of_yields keywords front, ofLexer_of_reads keywords quoted, ofLexer_shift]

end Tape

end SqlSharding
