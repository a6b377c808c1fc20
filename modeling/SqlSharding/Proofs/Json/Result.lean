import SqlSharding.Json.Reader

/-!
# What readers give

Properties of the values that readers give, whatever text they are taken from: what a check lets
through, what holds of all items of a list, and what every field of a record keeps.
-/

namespace SqlSharding.Json.Reader

variable {α β σ : Type} {reader : Reader α} {post : α → Prop}

/-- Every value that the reader gives has the property. -/
def Gives (reader : Reader α) (post : α → Prop) : Prop :=
  ∀ characters value rest, StateT.run reader characters = .ok (value, rest) → post value

namespace Gives

/-- A sequence gives what its second reader gives behind the values that the first one may give. -/
theorem bind_of {next : α → Reader β} {after : β → Prop} (starts : Gives reader post)
    (goesOn : ∀ value, post value → Gives (next value) after) : Gives (reader >>= next) after := by
  intro characters result rest taken
  rw [StateT.run_bind] at taken
  cases first : StateT.run reader characters with
  | error fault =>
    rw [first] at taken
    cases taken
  | ok answer =>
    rw [first] at taken
    exact goesOn _ (starts _ _ _ first) _ _ _ taken

/-- A sequence gives what its second reader gives behind any value. -/
theorem bind {next : α → Reader β} {after : β → Prop} (goesOn : ∀ value, Gives (next value) after) :
    Gives (reader >>= next) after :=
  have starts : Gives reader fun _ => True := fun _ _ _ _ => trivial
  starts.bind_of fun value _ => goesOn value

/-- A value with the property is given as it is. -/
theorem pure {value : α} (holds : post value) : Gives (pure value) post := by
  rintro characters result rest taken
  cases taken
  exact holds

/-- A reader that always fails gives nothing. -/
theorem malformed : Gives malformed post := by
  rintro characters value rest ⟨⟩

/-- A reader that refuses gives nothing. -/
theorem refuse (cause : Cause) : Gives (refuse cause) post := by
  rintro characters value rest ⟨⟩

/-- A reader that misses a type gives nothing. -/
theorem wrongType (expected : String) : Gives (wrongType expected) post :=
  bind fun _ => refuse _

/-- A choice gives what both of its ways give. -/
theorem ite {condition : Prop} [Decidable condition] {left right : Reader α}
    (whenTrue : Gives left post) (whenFalse : Gives right post) :
    Gives (if condition then left else right) post := by
  split
  · exact whenTrue
  · exact whenFalse

/-- A reader that refuses behind what stands in a bracket gives nothing. -/
theorem refuseInside (closing : Char) (cause : Cause) : Gives (refuseInside closing cause) post :=
  bind fun _ => bind fun _ => ite (bind fun _ => refuse cause)
    (ite (bind fun _ => bind fun _ => refuse cause) (refuse cause))

/-- What passes a check is what the check makes of some value. -/
theorem checked {item : Reader α} {check : α → Except String β} {after : β → Prop}
    (passes : ∀ value result, check value = .ok result → after result) :
    Gives (checked item check) after := by
  refine bind fun value => ?_
  split
  · rename_i result isPassed
    exact pure (passes value result isPassed)
  · exact refuseInside _ _

/-- Within any bound, all items that are given have the property of an item. -/
theorem itemsWithin {item : Reader α} (gives : Gives item post) (bound : Nat) (isFirst : Bool) :
    Gives (itemsWithin item bound isFirst) fun values => ∀ value ∈ values, post value := by
  induction bound generalizing isFirst with
  | zero => exact malformed
  | succ bound inductionHypothesis =>
    refine bind fun hasItem => ite ?_ (pure (by simp))
    refine gives.bind_of fun first isFirst => ?_
    refine (inductionHypothesis false).bind_of fun others areOthers => pure ?_
    exact List.forall_mem_cons.mpr ⟨isFirst, areOthers⟩

/-- All items of a list have the property of an item. -/
theorem list {item : Reader α} (gives : Gives item post) :
    Gives (list item) fun values => ∀ value ∈ values, post value := by
  refine bind fun _ => bind fun _ => ite ?_ (wrongType _)
  refine bind fun _ => bind fun rest => ?_
  exact (gives.itemsWithin _ true).bind_of fun items areItems => bind fun _ => pure areItems

variable {fields : List (Field σ)} {holds : σ → Prop}

/-- A member of an object keeps what every field keeps. -/
theorem member (keeps : ∀ field ∈ fields, ∀ record, holds record → Gives (field.read record) holds)
    {record : σ} (before : holds record) : Gives (member fields record) holds := by
  refine bind fun _ => ite (bind fun name => ?_) malformed
  split
  · rename_i field found
    exact ite (refuseInside _ _) (bind fun _ => bind fun _ =>
      keeps field (List.mem_of_find?_eq_some found) record before)
  · exact bind fun _ => bind fun _ => bind fun _ => pure before

/-- Within any bound, the members of an object keep what every field keeps. -/
theorem membersWithin
    (keeps : ∀ field ∈ fields, ∀ record, holds record → Gives (field.read record) holds)
    (bound : Nat) (isFirst : Bool) {record : σ} (before : holds record) :
    Gives (membersWithin fields bound isFirst record) holds := by
  induction bound generalizing isFirst record with
  | zero => exact malformed
  | succ bound inductionHypothesis =>
    refine bind fun hasItem => ite ?_ (pure before)
    exact (member keeps before).bind_of fun next after => inductionHypothesis false after

/-- The values of a record in a list keep what every field keeps. -/
theorem values (keeps : ∀ field ∈ fields, ∀ record, holds record → Gives (field.read record) holds)
    (isFirst : Bool) {record : σ} (before : holds record) :
    Gives (values isFirst fields record) holds := by
  induction fields generalizing isFirst record with
  | nil => exact pure before
  | cons field fields inductionHypothesis =>
    obtain ⟨keepsFirst, keepsOthers⟩ := List.forall_mem_cons.mp keeps
    refine bind fun hasItem => ite ?_ (pure before)
    exact (keepsFirst record before).bind_of fun next after =>
      inductionHypothesis keepsOthers false after

/-- What holds of a blank record and is kept by every field holds of the record that is completed. -/
theorem record {expected : String} {blank : σ} {complete : Layout → σ → Except Cause α}
    (atFirst : holds blank)
    (keeps : ∀ field ∈ fields, ∀ record, holds record → Gives (field.read record) holds)
    (completes : ∀ layout record value, holds record → complete layout record = .ok value → post value) :
    Gives (record expected fields blank complete) post := by
  have finishes : ∀ layout closing record, holds record →
      Gives (finish closing (complete layout record)) post := by
    intro layout closing record isRead
    cases completed : complete layout record with
    | ok value => exact bind fun _ => pure (completes layout record value isRead completed)
    | error cause => exact refuseInside closing cause
  refine bind fun _ => bind fun next? => ?_
  split
  · refine bind fun _ => bind fun _ => ?_
    exact (membersWithin keeps _ true atFirst).bind_of fun record => finishes .object _ record
  · refine bind fun _ => ?_
    exact (values keeps true atFirst).bind_of fun record => finishes .array _ record
  · exact wrongType expected

/-- What a reader gives for a whole text has the property. -/
theorem run {text : String} {value : α} (gives : Gives reader post)
    (isRead : reader.run text = .ok value) : post value := by
  rw [Reader.run] at isRead
  cases taken : StateT.run reader text.toList with
  | error fault =>
    rw [taken] at isRead
    cases isRead
  | ok answer =>
    obtain ⟨found, rest⟩ := answer
    have given : (if rest.all isSpace then Except.ok found else Except.error Fault.malformed) =
        .ok value := by
      rw [taken] at isRead
      exact isRead
    split at given
    · exact Except.ok.inj given ▸ gives _ _ _ taken
    · cases given

end Gives

end SqlSharding.Json.Reader
