import SqlSharding.Proofs.Passage.Skipping

/-!
# Names and aliases

The shapes of the tokens that are read as a name or as an alias, and the passing of these shapes. What
follows an alias matters: without one, no token may follow that would be read as one.
-/

namespace SqlSharding

/-- Further parts of a name behind one of its parts, each after a dot, and the last part of all. -/
inductive MoreParts : (part : Token) → List Token → (last : Token) → Prop
  | nil {part : Token} : MoreParts part [] part
  | part {first dot part last : Token} {rest : List Token} (isDot : dot.kind = .symbol .dot)
      (isName : part.kind.isName = true) (later : MoreParts part rest last) :
      MoreParts first (dot :: part :: rest) last

/-- The parts of a name, and the last one. -/
inductive DottedName : List Token → (last : Token) → Prop
  | mk {first last : Token} {rest : List Token} (isName : first.kind.isName = true)
      (more : MoreParts first rest last) : DottedName (first :: rest) last

/-- Further parts of a name are dots and names. -/
theorem MoreParts.forall_kind {part last : Token} {rest : List Token} (more : MoreParts part rest last) :
    ∀ token ∈ rest, token.kind = .symbol .dot ∨ token.kind.isName = true := by
  induction more with
  | nil => exact nofun
  | part isDot isName _ inductionHypothesis =>
    rw [List.forall_mem_cons, List.forall_mem_cons]
    exact ⟨.inl isDot, .inr isName, inductionHypothesis⟩

/-- A name is written with names and dots. -/
theorem DottedName.forall_kind {name : List Token} {last : Token} (isName : DottedName name last) :
    ∀ token ∈ name, token.kind = .symbol .dot ∨ token.kind.isName = true := by
  obtain ⟨isFirst, more⟩ := isName
  exact List.forall_mem_cons.mpr ⟨.inr isFirst, more.forall_kind⟩

/-- The last of the parts is the last token. -/
theorem MoreParts.getLast?_eq {part last : Token} {rest : List Token} (more : MoreParts part rest last) :
    (part :: rest).getLast? = some last := by
  induction more with
  | nil => rfl
  | part _ _ _ inductionHypothesis => rwa [List.getLast?_cons_cons, List.getLast?_cons_cons]

/-- The last part of a name is its last token. -/
theorem DottedName.getLast?_eq {name : List Token} {last : Token} (isName : DottedName name last) :
    name.getLast? = some last := by
  obtain ⟨-, more⟩ := isName
  exact more.getLast?_eq

/-- The last part of a name is one of its tokens. -/
theorem DottedName.last_mem {name : List Token} {last : Token} (isName : DottedName name last) :
    last ∈ name :=
  List.mem_of_getLast? isName.getLast?_eq

/-- The last part of a name is a name itself. -/
theorem DottedName.last_isName {name : List Token} {last : Token} (isName : DottedName name last) :
    last.kind.isName = true := by
  obtain ⟨isFirst, more⟩ := isName
  induction more with
  | nil => exact isFirst
  | part _ isName _ inductionHypothesis => exact inductionHypothesis isName

/-- An alias, or no tokens where the kind that follows begins no alias. -/
inductive Alias (next : Kind) : List Token → Option String → Prop
  | none (notWord : next ≠ .reserved .AS) (notIdentifier : next ≠ .literal .identifier) :
      Alias next [] none
  | word {word name : Token} (isWord : word.kind = .reserved .AS) (isName : name.kind.isName = true) :
      Alias next [word, name] (some (unquote name.text))
  | bare {name : Token} (isIdentifier : name.kind = .literal .identifier) :
      Alias next [name] (some (unquote name.text))

namespace Reading

open Cursor

variable {before after : Cursor}

/-- Reading a further part of a name takes tokens. -/
theorem consumes_partTurn : Consumes (turnAfter [.symbol .dot] fun _ => namePart) :=
  consumes_turnAfter (by decide) fun _ => proceeds_namePart

/-- Behind a part of a name, further parts are passed as long as there are dots. -/
theorem partsLoop_ok_iff (settled : before.Settled) {part last : Token} :
    repeatTurns (turnAfter [.symbol .dot] fun _ => namePart) part before = .ok last after ↔
      ∃ rest, before.Passes rest after ∧ MoreParts part rest last ∧
        after.current.kind ≠ .symbol .dot := by
  have noEnd : Kind.endOfText ∉ [Kind.symbol .dot] := by decide
  constructor
  · intro passed
    replace passed := turns_of_repeatTurns consumes_partTurn passed
    induction passed with
    | last done =>
      obtain ⟨skipped, rfl⟩ := turnAfter_done_iff.mp done
      obtain ⟨notOn, rfl⟩ := (skipIf_false_iff settled noEnd).mp skipped
      exact ⟨[], .refl _, .nil, by simpa using notOn⟩
    | again taken _ inductionHypothesis =>
      obtain ⟨behindDot, skipped, read⟩ := turnAfter_again_iff.mp taken
      obtain ⟨onDot, toDot⟩ := (skipIf_true_iff settled noEnd).mp skipped
      obtain ⟨-, isName, toPart⟩ := (namePart_ok_iff (toDot.settled settled)).mp read
      have toMiddle := toDot.trans toPart
      obtain ⟨later, toAfter, more, stopped⟩ := inductionHypothesis (toMiddle.settled settled)
      exact ⟨_, toMiddle.trans toAfter, .part (by simpa using onDot) isName more, stopped⟩
  · rintro ⟨rest, passed, more, stopped⟩
    induction more generalizing before with
    | nil =>
      obtain rfl := passes_nil_iff.mp passed
      refine repeatTurns_of_done consumes_partTurn (turnAfter_done_iff.mpr ⟨?_, rfl⟩)
      exact (skipIf_false_iff settled noEnd).mpr ⟨by simpa using stopped, rfl⟩
    | @part first dot part last rest isDot isName later inductionHypothesis =>
      obtain ⟨behindDot, toDot, onward⟩ := passed.uncons
      obtain ⟨behindPart, toPart, onward⟩ := onward.uncons
      have skipped := skipIf_of_passes settled noEnd (by simp [isDot]) toDot
      have settled := toDot.settled settled
      have read := (namePart_ok_iff settled).mpr ⟨toPart.current_eq.symm, isName, toPart⟩
      rw [repeatTurns_of_again consumes_partTurn
        (turnAfter_again_iff.mpr ⟨behindDot, skipped, read⟩)]
      exact inductionHypothesis (toPart.settled settled) onward

/-- A name is read exactly where a dotted name stands that goes on with no further dot. -/
theorem qualifiedName_ok_iff (settled : before.Settled) {last : Token} :
    qualifiedName before = .ok last after ↔
      ∃ tokens, before.Passes tokens after ∧ DottedName tokens last ∧
        after.current.kind ≠ .symbol .dot := by
  rw [qualifiedName_eq, bind_ok_iff]
  constructor
  · rintro ⟨first, middle, read, loop⟩
    obtain ⟨rfl, isName, start⟩ := (namePart_ok_iff settled).mp read
    obtain ⟨rest, passed, more, stopped⟩ := (partsLoop_ok_iff (start.settled settled)).mp loop
    exact ⟨_, start.trans passed, .mk isName more, stopped⟩
  · rintro ⟨tokens, passed, ⟨isName, more⟩, stopped⟩
    obtain ⟨middle, start, onward⟩ := passed.uncons
    have read := (namePart_ok_iff settled).mpr ⟨start.current_eq.symm, isName, start⟩
    exact ⟨_, middle, read, (partsLoop_ok_iff (start.settled settled)).mpr ⟨_, onward, more, stopped⟩⟩

/-- What is made of a name is made of its last part. -/
theorem ofName_ok_iff {α : Type} (settled : before.Settled) (made : Token → α) {value : α} :
    (qualifiedName >>= fun last => pure (made last) : Reading α) before = .ok value after ↔
      ∃ tokens last, before.Passes tokens after ∧ DottedName tokens last ∧
        after.current.kind ≠ .symbol .dot ∧ value = made last := by
  simp only [bind_ok_iff, qualifiedName_ok_iff settled, pure_ok_iff]
  constructor
  · rintro ⟨last, _, ⟨tokens, passed, isName, stopped⟩, rfl, rfl⟩
    exact ⟨tokens, last, passed, isName, stopped, rfl⟩
  · rintro ⟨tokens, last, passed, isName, stopped, rfl⟩
    exact ⟨last, after, ⟨tokens, passed, isName, stopped⟩, rfl, rfl⟩

/-- A table is marked exactly where a dotted name stands, at its last part. -/
theorem tableMark_ok_iff (settled : before.Settled) {mark : TableMark} :
    tableMark before = .ok mark after ↔
      ∃ tokens last, before.Passes tokens after ∧ DottedName tokens last ∧
        after.current.kind ≠ .symbol .dot ∧ mark = ⟨last.start, last.text⟩ :=
  ofName_ok_iff settled fun last => TableMark.mk last.start last.text

/-- A dotted name is marked at its last part. -/
theorem tableMark_of_passes {tokens : List Token} {last : Token} (settled : before.Settled)
    (isName : DottedName tokens last) (passed : before.Passes tokens after)
    (stopped : after.current.kind ≠ .symbol .dot) :
    tableMark before = .ok ⟨last.start, last.text⟩ after :=
  (tableMark_ok_iff settled).mpr ⟨tokens, last, passed, isName, stopped, rfl⟩

/-- A table without an alias is read exactly where a dotted name stands. -/
theorem plainTable_ok_iff (settled : before.Settled) {reference : TableReference} :
    plainTable before = .ok reference after ↔
      ∃ tokens last, before.Passes tokens after ∧ DottedName tokens last ∧
        after.current.kind ≠ .symbol .dot ∧ reference = ⟨⟨last.start, last.text⟩, none⟩ := by
  have plainTable_eq : plainTable = (qualifiedName >>= fun last =>
      pure ⟨⟨last.start, last.text⟩, none⟩) := by
    simp only [plainTable, tableMark, bind_assoc, pure_bind]
  rw [plainTable_eq]
  exact ofName_ok_iff settled fun last => TableReference.mk ⟨last.start, last.text⟩ none

/-- An alias is read where it stands, and none where no alias begins. -/
theorem alias?_of_passes {tokens : List Token} {alias? : Option String} (settled : before.Settled)
    (isAlias : Alias after.current.kind tokens alias?) (passed : before.Passes tokens after) :
    Reading.alias? before = .ok alias? after := by
  have noEnd : Kind.endOfText ∉ [Kind.reserved .AS] := by simp
  cases isAlias with
  | none notWord notIdentifier =>
    obtain rfl := passes_nil_iff.mp passed
    have skipped := (skipIf_false_iff settled noEnd).mpr ⟨by simpa using notWord, rfl⟩
    refine bind_ok_iff.mpr ⟨false, after, skipped, ?_⟩
    rw [if_neg Bool.false_ne_true, isOn_bind, if_neg (by simpa [isOn_iff] using notIdentifier)]
    rfl
  | @word word name isWord isName =>
    obtain ⟨middle, toWord, toName⟩ := passed.uncons
    have skipped : skipIf [.reserved .AS] before = .ok true middle := by
      rw [skipIf_true_iff settled noEnd, toWord.current_eq]
      exact ⟨by simp [isWord], toWord⟩
    have read := (namePart_ok_iff (toWord.settled settled)).mpr
      ⟨toName.current_eq.symm, isName, toName⟩
    refine bind_ok_iff.mpr ⟨true, middle, skipped, ?_⟩
    exact bind_ok_iff.mpr ⟨name, after, read, rfl⟩
  | @bare name isIdentifier =>
    have onName := passed.current_eq
    have skipped : skipIf [.reserved .AS] before = .ok false before := by
      rw [skipIf_false_iff settled noEnd, onName]
      exact ⟨by simp [isIdentifier], rfl⟩
    have read := (namePart_ok_iff settled).mpr
      ⟨onName.symm, by simp [isIdentifier, Kind.isName], passed⟩
    refine bind_ok_iff.mpr ⟨false, before, skipped, ?_⟩
    rw [if_neg Bool.false_ne_true, isOn_bind, if_pos (by simp [isOn_iff, onName, isIdentifier])]
    exact bind_ok_iff.mpr ⟨name, after, read, rfl⟩

/-- What is read as an alias is one, or nothing where no alias begins. -/
theorem alias?_ok_iff (settled : before.Settled) {alias? : Option String} :
    Reading.alias? before = .ok alias? after ↔
      ∃ tokens, before.Passes tokens after ∧ Alias after.current.kind tokens alias? := by
  constructor
  · intro passed
    obtain ⟨isWord, middle, skipped, rest⟩ := bind_ok_iff.mp passed
    rcases (skipIf_ok_iff settled (by simp)).mp skipped with ⟨rfl, onWord, toWord⟩ | ⟨rfl, notWord, rfl⟩
    · rw [if_pos rfl] at rest
      obtain ⟨name, final, read, ends⟩ := bind_ok_iff.mp rest
      obtain ⟨rfl, rfl⟩ := pure_ok_iff.mp ends
      obtain ⟨-, isName, toName⟩ := (namePart_ok_iff (toWord.settled settled)).mp read
      exact ⟨_, toWord.trans toName, .word (by simpa using onWord) isName⟩
    · rw [if_neg Bool.false_ne_true, isOn_bind] at rest
      split at rest
      · rename_i onIdentifier
        obtain ⟨name, final, read, ends⟩ := bind_ok_iff.mp rest
        obtain ⟨rfl, rfl⟩ := pure_ok_iff.mp ends
        obtain ⟨rfl, -, toName⟩ := (namePart_ok_iff settled).mp read
        exact ⟨_, toName, .bare (by simpa [isOn_iff] using onIdentifier)⟩
      · rename_i notIdentifier
        obtain ⟨rfl, rfl⟩ := pure_ok_iff.mp rest
        exact ⟨[], .refl _, .none (by simpa using notWord) (by simpa [isOn_iff] using notIdentifier)⟩
  · rintro ⟨tokens, passed, isAlias⟩
    exact alias?_of_passes settled isAlias passed

/-- A table with an alias is passed when its name ends where its alias begins. -/
theorem aliasedTable_ok_iff (settled : before.Settled) {reference : TableReference} :
    aliasedTable before = .ok reference after ↔
      ∃ name last aliasPart alias?, before.Passes (name ++ aliasPart) after ∧ DottedName name last ∧
        kindAhead aliasPart after.current.kind ≠ .symbol .dot ∧
        Alias after.current.kind aliasPart alias? ∧
        reference = ⟨⟨last.start, last.text⟩, alias?⟩ := by
  constructor
  · intro passed
    obtain ⟨mark, middle, read, passed⟩ := bind_ok_iff.mp passed
    obtain ⟨name, last, toName, isName, stopped, rfl⟩ := (tableMark_ok_iff settled).mp read
    obtain ⟨alias?, _, read, ends⟩ := bind_ok_iff.mp passed
    obtain ⟨rfl, rfl⟩ := pure_ok_iff.mp ends
    obtain ⟨aliasPart, toAlias, isAlias⟩ := (alias?_ok_iff (toName.settled settled)).mp read
    rw [toAlias.kindAhead] at stopped
    exact ⟨name, last, aliasPart, alias?, toName.trans toAlias, isName, stopped, isAlias, rfl⟩
  · rintro ⟨name, last, aliasPart, alias?, passed, isName, stopped, isAlias, rfl⟩
    obtain ⟨middle, toName, toAlias⟩ := passed.split
    rw [← toAlias.kindAhead] at stopped
    have read := alias?_of_passes (toName.settled settled) isAlias toAlias
    exact bind_ok_iff.mpr ⟨_, middle, tableMark_of_passes settled isName toName stopped,
      bind_ok_iff.mpr ⟨alias?, after, read, rfl⟩⟩

end Reading

end SqlSharding
