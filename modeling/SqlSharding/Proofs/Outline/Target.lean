import SqlSharding.Proofs.Composition.Parts
import SqlSharding.Proofs.Groups.Marks

/-!
# Openings and targets

A statement opens with its first word and with the words that its grammar allows before the table or,
in a query, before the list. They are passed without a look into groups. Behind the opening of an
update or a deletion stands the one table that is changed.
-/

namespace SqlSharding

open Reading

/-- Tokens that begin with one table, which may have an alias: neither the name nor the alias goes on in
the rest, and the rest does not begin with a token that makes the table one of several. -/
inductive OneTable (rest : List Token) : List Token → TableReference → Prop
  | mk {name aliasPart : List Token} {last : Token} {alias? : Option String}
      (isName : DottedName name last)
      (nameEnds : kindAhead (aliasPart ++ rest) .endOfText ≠ .symbol .dot)
      (isAlias : Alias (kindAhead rest .endOfText) aliasPart alias?)
      (isAlone : kindAhead rest .endOfText ∉ otherTableKinds) :
      OneTable rest (name ++ (aliasPart ++ rest)) ⟨last.mark, alias?⟩

/-- The rest behind one table is what is left of the tokens. -/
theorem OneTable.exists_taken {rest tokens : List Token} {reference : TableReference}
    (one : OneTable rest tokens reference) : ∃ taken, tokens = taken ++ rest := by
  obtain @⟨name, aliasPart, -, -, -, -, -, -⟩ := one
  exact ⟨name ++ aliasPart, (List.append_assoc ..).symm⟩

namespace Reading

open Cursor

variable {grammar : Grammar} {family : Family} {before after : Cursor} {tokens : List Token}

/-- Where one table stands under a cursor, it is read. -/
theorem oneTable_iff (settled : before.Settled) {reference : TableReference} :
    aliasedTable before = .ok reference after ∧ after.current.kind ∉ otherTableKinds ↔
      ∃ taken, before.Passes taken after ∧ OneTable after.tokens before.tokens reference := by
  constructor
  · rintro ⟨read, isAlone⟩
    obtain ⟨name, last, aliasPart, alias?, passed, isName, nameEnds, isAlias, rfl⟩ :=
      (aliasedTable_ok_iff settled).mp read
    refine ⟨_, passed, ?_⟩
    have one : OneTable after.tokens (name ++ (aliasPart ++ after.tokens)) ⟨last.mark, alias?⟩ := by
      refine .mk isName ?_ isAlias isAlone
      cases aliasPart with
      | nil => exact nameEnds
      | cons token aliasPart => exact nameEnds
    rwa [passed.tokens, List.append_assoc]
  · rintro ⟨taken, passed, one⟩
    generalize whole : before.tokens = tokens at one
    obtain @⟨name, aliasPart, last, alias?, isName, nameEnds, isAlias, isAlone⟩ := one
    have taken_eq : taken = name ++ aliasPart := by
      rw [passed.tokens, ← List.append_assoc] at whole
      exact List.append_cancel_right whole
    refine ⟨(aliasedTable_ok_iff settled).mpr ?_, isAlone⟩
    refine ⟨name, last, aliasPart, alias?, taken_eq ▸ passed, isName, ?_, isAlias, rfl⟩
    cases aliasPart with
    | nil => exact nameEnds
    | cons token aliasPart => exact nameEnds

/-- The one table of an update or a deletion is read exactly where the tokens begin with one table. -/
theorem oneTarget_ok_iff (settled : before.Settled) {outline : Outline} :
    oneTarget before = .ok outline after ↔
      ∃ taken reference, before.Passes taken after ∧ OneTable after.tokens before.tokens reference ∧
        outline = ⟨[reference], []⟩ := by
  simp only [oneTarget, bind_ok_iff, pure_ok_iff]
  constructor
  · rintro ⟨reference, _, named, _, _, alone, rfl, rfl⟩
    obtain ⟨isAlone, rfl⟩ := refuse_ok_iff.mp alone
    obtain ⟨taken, passed, one⟩ := (oneTable_iff settled).mp ⟨named, isAlone⟩
    exact ⟨taken, reference, passed, one, rfl⟩
  · rintro ⟨taken, reference, passed, one, rfl⟩
    obtain ⟨named, isAlone⟩ := (oneTable_iff settled).mpr ⟨taken, passed, one⟩
    exact ⟨reference, after, named, (), after, refuse_ok_iff.mpr ⟨isAlone, rfl⟩, rfl, rfl⟩

/-- An opening begins with the first word of the statement. -/
theorem onKeyword_of_opening (opened : family.opening grammar before = .ok () after) :
    before.current.kind = .reserved family.keyword := by
  obtain ⟨_, _, accepted, -⟩ := bind_ok_iff.mp opened
  exact kind_of_discard_accept accepted

/-- No opening stops inside of a group. -/
theorem standsOutside_of_opening (outside : before.StandsOutside tokens)
    (opened : family.opening grammar before = .ok () after) : after.StandsOutside tokens := by
  obtain ⟨_, behindWord, accepted, words⟩ := bind_ok_iff.mp opened
  have ordinary : Ordinary [Kind.reserved family.keyword] := by simp [Ordinary]
  obtain ⟨outside, -⟩ :=
    FromOutside.discard (staysOutside_accept ordinary) _ _ _ outside accepted
  exact (staysOutside_of_steps (family.steps_skipWords grammar fun _ _ => trivial) _ _ _ outside words).1

/-- An opening leaves the cursor in its text. -/
theorem settled_of_opening (settled : before.Settled)
    (opened : family.opening grammar before = .ok () after) : after.Settled :=
  (standsOutside_of_opening ⟨settled, [], rfl, rfl⟩ opened).settled

end Reading

end SqlSharding
