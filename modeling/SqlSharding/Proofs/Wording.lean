import SqlSharding.CommandLine.Session
import SqlSharding.Proofs.Blame
import SqlSharding.Proofs.Routing

/-!
# Wording

What is said about a text of one line is said in one line: the wording has no line feeds of its own, and
what it quotes stands in the text.
-/

namespace SqlSharding

/-- A text of one line. -/
def Text.OneLine (text : String) : Prop :=
  '\n' ∉ text.toList

namespace Text

instance (text : String) : Decidable (OneLine text) :=
  inferInstanceAs (Decidable (_ ∉ _))

/-- Two texts are one line together exactly if each of them is. -/
theorem oneLine_append {left right : String} :
    OneLine (left ++ right) ↔ OneLine left ∧ OneLine right := by
  simp [OneLine, String.toList_append]

/-- A number is written in one line. -/
theorem oneLine_toString (number : Nat) : OneLine (toString number) := by
  intro isIn
  have isDigit := Nat.isDigit_of_mem_toDigits (by decide) (by decide) (Nat.toList_repr ▸ isIn)
  cases isDigit

end Text

open Text

variable {rules : LexicalRules} {text : List Char}

/-- The label of a kind is one line. -/
theorem Kind.oneLine_label (kind : Kind) : OneLine kind.label := by
  cases kind with
  | endOfText => decide
  | _ part => cases part <;> decide

/-- What is in the text of a token is in its characters. -/
theorem Kind.mem_written {kind : Kind} {characters : List Char} {c : Char} (isIn : c ∈ characters) :
    c ∈ kind.written characters := by
  unfold Kind.written
  split
  · have isDoubled : c ∈ doubleQuotes characters :=
      List.mem_flatMap.mpr ⟨c, isIn, by by_cases isQuote : c = '\'' <;> simp [isQuote]⟩
    simp [isDoubled]
  · exact isIn

/-- The text of a token is made of characters that the token covers. -/
theorem Token.Covers.oneLine_text {token : Token} {place : Nat} (covers : token.Covers rules text place)
    (oneLine : '\n' ∉ text) : OneLine token.text := by
  intro isIn
  have isWritten := @Kind.mem_written token.kind _ _ isIn
  rw [← covers.written, List.extract_eq_take_drop] at isWritten
  exact oneLine (List.mem_of_mem_drop (List.mem_of_mem_take isWritten))

/-- The label of a token is one line if its text is. -/
theorem Token.oneLine_label {token : Token} (oneLine : OneLine token.text) : OneLine token.label := by
  simp only [label, oneLine_append]
  exact ⟨⟨⟨⟨token.kind.oneLine_label, by decide⟩, oneLine⟩, by decide⟩, oneLine_toString _⟩

/-- The text of a fault is the quote or the character that stands at its place. -/
theorem IllegalInput.Covers.oneLine_text {fault : IllegalInput} {place after : Nat}
    (covers : fault.Covers rules text place after) (oneLine : '\n' ∉ text) : OneLine fault.text := by
  intro isIn
  by_cases isOpen : OpenQuote rules (text.drop fault.position)
  · rw [(covers.unclosed isOpen).1] at isIn
    exact oneLine (List.mem_of_mem_drop isIn)
  · rw [(covers.illegal isOpen).1] at isIn
    exact oneLine (List.mem_of_mem_drop (List.mem_of_mem_take isIn))

/-- A fault is reported in one line if the text it quotes is one. -/
theorem IllegalInput.oneLine_message {fault : IllegalInput} (oneLine : OneLine fault.text) :
    OneLine (ParseError.illegalInput fault).message := by
  change OneLine ("Illegal input '" ++ fault.text ++ "' at position " ++ toString fault.position)
  simp only [oneLine_append]
  exact ⟨⟨⟨by decide, oneLine⟩, by decide⟩, oneLine_toString _⟩

namespace Reading

/-- The cause of a failed reading quotes the token under the cursor or the fault behind it. -/
theorem FailsAt.oneLine_message {cursor : Cursor} {cause : ParseError}
    (failsAt : FailsAt rules text cause cursor) (oneLine : '\n' ∉ text) : OneLine cause.message := by
  obtain ⟨pointsAt, ⟨place, onToken⟩, ofText⟩ := failsAt
  have current := onToken.oneLine_text oneLine
  have label := Token.oneLine_label current
  cases cause with
  | unsupportedClassification kind => exact pointsAt.elim
  | unsupportedKeyword kind => exact pointsAt.elim
  | unsupportedDialect dialect family => exact pointsAt.elim
  | unsupportedStatement family object =>
    obtain rfl : object = cursor.current.text := pointsAt
    change OneLine ("Unsupported statement: " ++ (Kind.reserved family.keyword).label ++ " " ++ _)
    simp only [oneLine_append]
    exact ⟨⟨⟨by decide, (Kind.reserved family.keyword).oneLine_label⟩, by decide⟩, current⟩
  | unsupportedToken token =>
    obtain rfl : token = cursor.current := pointsAt
    exact oneLine_append.mpr ⟨by decide, label⟩
  | unexpectedToken token =>
    obtain rfl : token = cursor.current := pointsAt
    exact oneLine_append.mpr ⟨by decide, label⟩
  | expectedToken expected token =>
    obtain rfl : token = cursor.current := pointsAt
    change OneLine ("Expected token: " ++ expected.label ++ ", found: " ++ _)
    simp only [oneLine_append]
    exact ⟨⟨⟨by decide, expected.oneLine_label⟩, by decide⟩, label⟩
  | illegalInput fault =>
    obtain ⟨place, stop, covers⟩ := ofText fault rfl
    exact IllegalInput.oneLine_message (covers.oneLine_text oneLine)

/-- Why a text of one line is not parsed is said in one line. -/
theorem oneLine_message_of_parse {dialect : Dialect} {rule : ShardingRule} {text : String}
    {cause : ParseError} (oneLine : OneLine text) (failed : parse dialect rule text = .error cause) :
    OneLine cause.message := by
  rcases advance_cases (Cursor.looksAhead_ofText dialect text) with
    ⟨cursor, moved, follows⟩ | ⟨fault, place, after, notMoved, -, covers⟩
  · rw [parse_of_advance moved] at failed
    rcases cursor.current.kind.keyword_cases with
      ⟨family, onKeyword⟩ | ⟨word, onWord, notKeyword⟩ | unreserved
    · rw [statementOf_of_keyword onKeyword] at failed
      cases result : family.parser dialect.grammar rule cursor with
      | ok statement after => simp [result, outcome] at failed
      | error found after =>
        obtain rfl : found = cause := by simpa [result, outcome] using failed
        exact (failsAt_of_family follows result).oneLine_message oneLine
    · rw [statementOf_of_otherWord onWord notKeyword] at failed
      cases failed
      exact oneLine_append.mpr ⟨by decide, Kind.oneLine_label _⟩
    · rw [statementOf_of_unreserved unreserved] at failed
      cases failed
      exact oneLine_append.mpr ⟨by decide, Kind.oneLine_label _⟩
  · rw [parse_of_advance_error notMoved] at failed
    cases failed
    exact IllegalInput.oneLine_message (covers.oneLine_text oneLine)

end Reading

/-- A text of one line that is refused is refused in one line. -/
theorem Session.oneLine_of_parseLines {session : Session} {text : String} {failure : Failure}
    (oneLine : OneLine text) (failed : session.parseLines text = .error failure) :
    OneLine failure.line := by
  unfold parseLines at failed
  split at failed
  · cases failed
  · rename_i cause notParsed
    cases failed
    have message := Reading.oneLine_message_of_parse oneLine notParsed
    have line : (Failure.refusedStatement session.dialect cause).line =
        "Failed to parse " ++ session.dialect.productName ++ " statement" ++ ": " ++ cause.message :=
      rfl
    have product : OneLine session.dialect.productName := by cases session.dialect <;> decide
    simp only [line, oneLine_append]
    exact ⟨⟨⟨⟨by decide, product⟩, by decide⟩, by decide⟩, message⟩

end SqlSharding
