import SqlSharding.Json.Reader
import SqlSharding.Json.Writer
import SqlSharding.Proofs.Json.Text

/-!
# Values in JSON, written and read

A reader takes a value from its written form, whatever follows. There is one rule for each form: a
string, a list and an object, whose members have to be the fields of the record that is read.
-/

namespace SqlSharding.Json.Reader

variable {α β σ : Type} {rest : List Char}

/-- Whether a value may begin with the character: it is not blank and closes no bracket. -/
def beginsValue (c : Char) : Bool :=
  !isSpace c && c != ']' && c != '\x7d'

/-- The reader takes the value from its written form, whatever follows it. -/
structure Takes (reader : Reader α) (written : List Char) (value : α) : Prop where
  begins : written.head?.any beginsValue = true
  run : ∀ rest, StateT.run reader (written ++ rest) = .ok (value, rest)

/-- The first character of what begins as a value. -/
theorem exists_cons_of_begins {written : List Char} (begins : written.head?.any beginsValue = true) :
    ∃ c others, written = c :: others ∧ isSpace c = false ∧ c ≠ ']' ∧ c ≠ '\x7d' := by
  cases written with
  | nil => cases begins
  | cons c others => exact ⟨c, others, rfl, by simpa [beginsValue, and_assoc] using begins⟩

/-- Behind the answer of its first reader, a sequence goes on with the next one. -/
theorem run_bind_of_run {reader : Reader α} {next : α → Reader β} {characters : List Char} {value : α}
    (answer : StateT.run reader characters = .ok (value, rest)) :
    StateT.run (reader >>= next) characters = StateT.run (next value) rest := by
  rw [StateT.run_bind, answer]
  rfl

/-- A character that is not blank is seen where it stands. -/
theorem run_skipSpace_peek? {next : Option Char → Reader β} {c : Char} (notSpace : isSpace c = false) :
    StateT.run (skipSpace >>= fun _ => peek? >>= next) (c :: rest) =
      StateT.run (next (some c)) (c :: rest) := by
  have skips : StateT.run skipSpace (c :: rest) = .ok ((), c :: rest) := by
    have stays : (c :: rest).dropWhile isSpace = c :: rest := by simp [notSpace]
    exact congrArg (fun characters => Except.ok ((), characters)) stays
  have sees : StateT.run peek? (c :: rest) = .ok (some c, c :: rest) := rfl
  rw [run_bind_of_run skips, run_bind_of_run sees]

/-- Dropping a character gives nothing and leaves the rest. -/
theorem run_drop (c : Char) : StateT.run drop (c :: rest) = .ok ((), rest) := rfl

/-- Characters that are asked for are dropped where they stand. -/
theorem run_literal (characters rest : List Char) :
    StateT.run (literal characters) (characters ++ rest) = .ok ((), rest) := by
  have isFront : characters.isPrefixOf (characters ++ rest) = true := by simp
  have answer : StateT.run (literal characters) (characters ++ rest) =
      StateT.run (set ((characters ++ rest).drop characters.length) : Reader Unit)
        (characters ++ rest) := by
    rw [literal, run_bind_of_run rfl, if_pos isFront]
  rw [answer, List.drop_left]
  rfl

/-- A string is read back from its written form. -/
theorem run_string (value : String) (rest : List Char) :
    StateT.run string (Writer.text value ++ rest) = .ok (value, rest) := by
  have decoded := Text.decode?_encoded value.toList rest
  have taken : StateT.run (take Text.decode?) (value.toList.flatMap Text.encodeChar ++ '"' :: rest) =
      .ok (value.toList, rest) := by
    rw [take, run_bind_of_run rfl, decoded]
    rfl
  have whole : Writer.text value ++ rest =
      '"' :: (value.toList.flatMap Text.encodeChar ++ '"' :: rest) := by
    simp [Writer.text, Text.encode]
  rw [whole, string, run_bind_of_run (run_drop '"'), run_bind_of_run taken, String.ofList_toList]
  rfl

namespace Takes

variable {reader : Reader α} {written : List Char} {value : α}

/-- A sequence takes the value of its first reader, if the next one gives it on without reading. -/
theorem bind {next : α → Reader β} {result : β} (takes : Takes reader written value)
    (gives : ∀ rest, StateT.run (next value) rest = .ok (result, rest)) :
    Takes (reader >>= next) written result where
  begins := takes.begins
  run rest := by rw [run_bind_of_run (takes.run rest), gives]

/-- A list item that passes its check. -/
theorem checked {check : α → Except String β} {result : β} (takes : Takes reader written value)
    (passes : check value = .ok result) : Takes (checked reader check) written result :=
  takes.bind fun rest => by
    rw [passes]
    rfl

/-- A text is taken from its written form. -/
theorem text (value : String) : Takes text (Writer.text value) value where
  begins := rfl
  run rest := by
    change StateT.run Reader.text ('"' :: _) = _
    rw [Reader.text, run_skipSpace_peek? rfl, if_pos rfl]
    exact run_string value rest

/-- A text that may be missing is taken from its written form. -/
theorem text? (value? : Option String) : Takes text? (Writer.text? value?) value? where
  begins := by cases value? <;> rfl
  run rest := by
    cases value? with
    | none =>
      change StateT.run Reader.text? ('n' :: _) = _
      rw [Reader.text?, run_skipSpace_peek? rfl, if_pos rfl]
      exact run_bind_of_run (run_literal ['n', 'u', 'l', 'l'] rest)
    | some value =>
      change StateT.run Reader.text? ('"' :: _) = _
      rw [Reader.text?, run_skipSpace_peek? rfl, if_neg (by simp)]
      exact run_bind_of_run ((text value).run rest)

end Takes

/-- What is written from an item on, up to the bracket: the first item of all has no comma before
it. -/
def remaining (isFirst : Bool) : List (List Char) → List Char
  | [] => []
  | item :: others =>
    if isFirst then Writer.separated (item :: others) else ',' :: Writer.separated (item :: others)

/-- Items with commas between them are the first one and what remains behind it. -/
theorem separated_cons (item : List Char) (others : List (List Char)) :
    Writer.separated (item :: others) = item ++ remaining false others := by
  cases others with
  | nil => simp [Writer.separated, remaining]
  | cons => rfl

/-- A bracket around items or members. -/
def isClosing (c : Char) : Bool :=
  c == ']' || c == '\x7d'

/-- A closing bracket is no blank. -/
theorem isSpace_of_isClosing {c : Char} (isClosing : isClosing c = true) : isSpace c = false := by
  rcases (by simpa [Reader.isClosing] using isClosing) with rfl | rfl <;> rfl

/-- At the closing bracket there is no further item. -/
theorem run_hasItem_nil {closing : Char} (isClosing : isClosing closing = true) (isFirst : Bool) :
    StateT.run (hasItem closing isFirst) (closing :: rest) = .ok (false, closing :: rest) := by
  rw [hasItem, run_skipSpace_peek? (isSpace_of_isClosing isClosing), if_pos rfl]
  rfl

/-- Before an item there is a further item, and the comma in front of it is dropped. -/
theorem run_hasItem_cons {closing : Char} {item : List Char}
    (isClosing : isClosing closing = true) (begins : item.head?.any beginsValue = true)
    (others : List (List Char)) (isFirst : Bool) :
    StateT.run (hasItem closing isFirst) (remaining isFirst (item :: others) ++ rest) =
      .ok (true, item ++ (remaining false others ++ rest)) := by
  obtain ⟨c, body, rfl, notSpace, notBracket, notBrace⟩ := exists_cons_of_begins begins
  have isOther : c ≠ closing := by
    rcases (by simpa [Reader.isClosing] using isClosing) with rfl | rfl
    · exact notBracket
    · exact notBrace
  rw [remaining, separated_cons]
  cases isFirst with
  | true =>
    simp only [if_true, List.cons_append, List.append_assoc]
    rw [hasItem, run_skipSpace_peek? notSpace, if_neg (by simpa using isOther), if_pos rfl]
    rfl
  | false =>
    simp only [Bool.false_eq_true, if_false, List.cons_append, List.append_assoc]
    have notClosing : ',' ≠ closing := by
      rintro rfl
      cases isClosing
    rw [hasItem, run_skipSpace_peek? rfl, if_neg (by simpa using notClosing), if_neg (by simp),
      if_pos rfl, run_bind_of_run (run_drop ','), run_skipSpace_peek? notSpace]
    simp only [if_neg isOther]
    rfl

/-- The closing bracket is dropped where it stands. -/
theorem run_close {closing : Char} (isClosing : isClosing closing = true) :
    StateT.run (close closing) (closing :: rest) = .ok ((), rest) := by
  rw [close, run_skipSpace_peek? (isSpace_of_isClosing isClosing), if_pos rfl, run_drop]

/-- Items are taken up to the bracket, if no more of them follow than the bound. -/
theorem run_itemsWithin {item : Reader α} {write : α → List Char} {values : List α} {bound : Nat}
    (takes : ∀ value ∈ values, Takes item (write value) value) (enough : values.length < bound)
    (isFirst : Bool) (rest : List Char) :
    StateT.run (itemsWithin item bound isFirst) (remaining isFirst (values.map write) ++ ']' :: rest) =
      .ok (values, ']' :: rest) := by
  induction values generalizing bound isFirst with
  | nil =>
    obtain ⟨bound, rfl⟩ := Nat.exists_eq_succ_of_ne_zero (Nat.ne_of_gt enough)
    exact run_bind_of_run (run_hasItem_nil rfl isFirst)
  | cons value values inductionHypothesis =>
    obtain ⟨bound, rfl⟩ := Nat.exists_eq_succ_of_ne_zero (Nat.ne_zero_of_lt enough)
    have takesFirst := takes value List.mem_cons_self
    have others := inductionHypothesis (fun value isIn => takes value (List.mem_cons_of_mem _ isIn))
      (Nat.lt_of_succ_lt_succ enough) false
    rw [itemsWithin, List.map_cons, run_bind_of_run (run_hasItem_cons rfl takesFirst.begins _ isFirst),
      if_pos rfl, run_bind_of_run (takesFirst.run _), run_bind_of_run others]
    rfl

/-- There are no more items than characters that remain, since an item is not empty. -/
theorem length_le_remaining {items : List (List Char)}
    (begins : ∀ item ∈ items, item.head?.any beginsValue = true) (isFirst : Bool) :
    items.length ≤ (remaining isFirst items).length := by
  induction items generalizing isFirst with
  | nil => simp
  | cons item items inductionHypothesis =>
    have others := inductionHypothesis (fun item isIn => begins item (List.mem_cons_of_mem _ isIn)) false
    obtain ⟨c, body, rfl, -⟩ := exists_cons_of_begins (begins item List.mem_cons_self)
    rw [remaining, separated_cons]
    split <;> simp <;> omega

/-- No more items are written than characters follow, so the bound on them is not reached. -/
theorem length_lt_remaining {items : List (List Char)}
    (begins : ∀ item ∈ items, item.head?.any beginsValue = true) (isFirst : Bool)
    (after : List Char) : items.length < (remaining isFirst items ++ after).length + 1 := by
  have counted := length_le_remaining begins isFirst
  rw [List.length_append]
  omega

/-- A list is taken from its written form, if its items are. -/
theorem Takes.list {item : Reader α} {write : α → List Char} {values : List α}
    (takes : ∀ value ∈ values, Takes item (write value) value) :
    Takes (list item) (Writer.list (values.map write)) values where
  begins := rfl
  run rest := by
    have whole : Writer.list (values.map write) ++ rest =
        '[' :: (remaining true (values.map write) ++ ']' :: rest) := by
      cases values <;> simp [Writer.list, remaining, Writer.separated]
    have begins : ∀ written ∈ values.map write, written.head?.any beginsValue = true := by
      intro written isIn
      obtain ⟨value, isValue, rfl⟩ := List.mem_map.mp isIn
      exact (takes value isValue).begins
    have enough := length_lt_remaining begins true (']' :: rest)
    rw [List.length_map] at enough
    rw [whole, Reader.list, run_skipSpace_peek? rfl, if_pos rfl, run_bind_of_run (run_drop '['),
      run_bind_of_run rfl, run_bind_of_run (run_itemsWithin takes enough true rest),
      run_bind_of_run (run_close rfl)]
    rfl

/-- How a member of an object is written. -/
def memberWritten (member : String × List Char) : List Char :=
  Writer.text member.1 ++ ':' :: member.2

/-- Written members lead from a record to another: each is a field that is not set before it, and the
reader of the field takes its value. -/
inductive Fills (fields : List (Field σ)) : σ → List (String × List Char) → σ → Prop
  | nil {record : σ} : Fills fields record [] record
  | cons {record next final : σ} {name : String} {written : List Char}
      {members : List (String × List Char)} (field : Field σ)
      (found : fields.find? (·.name == name) = some field) (notSet : field.isSet record = false)
      (takes : Takes (field.read record) written next) (later : Fills fields next members final) :
      Fills fields record ((name, written) :: members) final

/-- A member of an object is read by the reader of its field. -/
theorem run_member {fields : List (Field σ)} {field : Field σ} {record next : σ} {name : String}
    {written : List Char} (found : fields.find? (·.name == name) = some field)
    (notSet : field.isSet record = false) (takes : Takes (field.read record) written next)
    (rest : List Char) :
    StateT.run (member fields record) (memberWritten (name, written) ++ rest) = .ok (next, rest) := by
  have isQuote : StateT.run peek? (memberWritten (name, written) ++ rest) =
      .ok (some '"', memberWritten (name, written) ++ rest) := rfl
  have named : StateT.run string (memberWritten (name, written) ++ rest) =
      .ok (name, ':' :: (written ++ rest)) := by
    rw [memberWritten, List.append_assoc, List.cons_append]
    exact run_string name _
  have skips : StateT.run skipSpace (':' :: (written ++ rest)) = .ok ((), ':' :: (written ++ rest)) :=
    rfl
  have colon : StateT.run (literal [':']) (':' :: (written ++ rest)) = .ok ((), written ++ rest) :=
    run_literal [':'] _
  rw [member, run_bind_of_run isQuote, if_pos rfl, run_bind_of_run named]
  simp only [found, notSet, Bool.false_eq_true, if_false]
  rw [run_bind_of_run skips, run_bind_of_run colon, takes.run]

/-- Members are taken up to the brace, if no more of them follow than the bound. -/
theorem Fills.run {fields : List (Field σ)} {record final : σ} {members : List (String × List Char)}
    {bound : Nat} (fills : Fills fields record members final) (enough : members.length < bound)
    (isFirst : Bool) (rest : List Char) :
    StateT.run (membersWithin fields bound isFirst record)
        (remaining isFirst (members.map memberWritten) ++ '\x7d' :: rest) =
      .ok (final, '\x7d' :: rest) := by
  induction fills generalizing bound isFirst with
  | nil =>
    obtain ⟨bound, rfl⟩ := Nat.exists_eq_succ_of_ne_zero (Nat.ne_of_gt enough)
    exact run_bind_of_run (run_hasItem_nil rfl isFirst)
  | cons field found notSet takes later inductionHypothesis =>
    obtain ⟨bound, rfl⟩ := Nat.exists_eq_succ_of_ne_zero (Nat.ne_zero_of_lt enough)
    rw [membersWithin, List.map_cons, run_bind_of_run (run_hasItem_cons rfl rfl _ isFirst), if_pos rfl,
      run_bind_of_run (run_member found notSet takes _)]
    exact inductionHypothesis (Nat.lt_of_succ_lt_succ enough) false

/-- A record is taken from its written form, if the members fill its fields and complete it. -/
theorem Takes.record {expected : String} {fields : List (Field σ)} {blank final : σ} {value : α}
    {complete : Layout → σ → Except Cause α} {members : List (String × List Char)}
    (fills : Fills fields blank members final) (completes : complete .object final = .ok value) :
    Takes (record expected fields blank complete) (Writer.object members) value where
  begins := rfl
  run rest := by
    have whole : Writer.object members ++ rest =
        '\x7b' :: (remaining true (members.map memberWritten) ++ '\x7d' :: rest) := by
      change ('\x7b' :: Writer.separated (members.map memberWritten) ++ ['\x7d']) ++ rest = _
      cases members <;> simp [remaining, Writer.separated]
    have begins : ∀ written ∈ members.map memberWritten, written.head?.any beginsValue = true := by
      intro written isIn
      obtain ⟨member, -, rfl⟩ := List.mem_map.mp isIn
      rfl
    have enough := length_lt_remaining begins true ('\x7d' :: rest)
    rw [List.length_map] at enough
    rw [whole, Reader.record, run_skipSpace_peek? rfl]
    change StateT.run (drop >>= _) _ = _
    rw [run_bind_of_run (run_drop '\x7b'), run_bind_of_run rfl,
      run_bind_of_run (fills.run enough true rest), completes, finish,
      run_bind_of_run (run_close rfl)]
    rfl

/-- A text that is a written value is read as the value. -/
theorem Takes.run_ofList {reader : Reader α} {written : List Char} {value : α}
    (takes : Takes reader written value) : reader.run (String.ofList written) = .ok value := by
  have taken := takes.run []
  rw [List.append_nil] at taken
  rw [Reader.run, String.toList_ofList, taken]
  rfl

end SqlSharding.Json.Reader
