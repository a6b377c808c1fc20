import SqlSharding.Proofs.Outline.Target
import SqlSharding.Proofs.Passage.Words

/-!
# Openings of removals and emptyings

Before its tables a `DROP` or a `TRUNCATE` has its first word, the word `TABLE` and words that a
grammar allows there. Each of these words is passed where it stands and may be missing where it is
optional, so an opening is known by its tokens.
-/

namespace SqlSharding

/-- Whether `DROP` takes the word for temporary tables. -/
def Grammar.dropsTemporary : Grammar → Bool
  | .mySQL => true
  | .oracle | .sqlServer | .postgreSQL => false

/-- The tokens before the tables of a removal or an emptying. -/
inductive ListOpening (grammar : Grammar) : Family → List Token → Prop
  | drop {word table : Token} {temporary guard : List Token} (isWord : word.kind = .reserved .DROP)
      (isTemporary : Optionally grammar.dropsTemporary [.reserved .TEMPORARY] temporary)
      (isTable : table.kind = .reserved .TABLE)
      (isGuard : Optionally grammar.ifExistsGuards [.reserved .IF, .reserved .EXISTS] guard) :
      ListOpening grammar .drop (word :: (temporary ++ table :: guard))
  | truncate {word : Token} {table : List Token} (isWord : word.kind = .reserved .TRUNCATE)
      (isTable : Optionally true [.reserved .TABLE] table)
      (required : grammar.truncateTableRequired = true → table ≠ []) :
      ListOpening grammar .truncate (word :: table)

/-- Only removals and emptyings have an opening before a list of tables. -/
theorem ListOpening.isListing {grammar : Grammar} {family : Family} {opening : List Token}
    (isOpening : ListOpening grammar family opening) : family = .drop ∨ family = .truncate := by
  cases isOpening with
  | drop => exact .inl rfl
  | truncate => exact .inr rfl

/-- Whether a word that keeps the statement from inheriting tables may stand before each table. -/
def Family.takesOnly : Grammar → Family → Bool
  | .postgreSQL, .truncate => true
  | _, _ => false

/-- Whether the grammar takes several tables in a removal or an emptying. -/
def Family.takesList (grammar : Grammar) : Family → Bool
  | truncate => grammar.multipleTruncateTables
  | _ => grammar.multipleDropTables

namespace Reading

open Cursor

variable {before after : Cursor} {grammar : Grammar} {family : Family}

/-- The word behind `DROP` is `TEMPORARY`, in the grammar that takes it. -/
theorem skipDropModifiers_eq (grammar : Grammar) :
    grammar.skipDropModifiers = skipWord grammar.dropsTemporary .TEMPORARY := by
  cases grammar <;> rfl

/-- The word before a table is `ONLY`, in the grammar that takes it in an emptying. -/
theorem skipOnly_eq (grammar : Grammar) :
    grammar.skipOnly = skipWord (Family.truncate.takesOnly grammar) .ONLY := by
  cases grammar <;> rfl

/-- The word `TABLE` is passed exactly where it stands. -/
theorem expectTable_ok_iff (settled : before.Settled) :
    expectTable family before = .ok () after ↔
      ∃ table, before.Passes [table] after ∧ table.kind = .reserved .TABLE := by
  rw [expectTable, bind_ok_iff]
  simp only [skipIfWord_ok_iff settled]
  constructor
  · rintro ⟨skipped, middle, ⟨rfl, isTable⟩ | ⟨rfl, -, rfl⟩, rest⟩
    · obtain ⟨-, rfl⟩ := pure_ok_iff.mp rest
      exact isTable
    · rw [if_neg Bool.false_ne_true, current_bind] at rest
      exact absurd rest throw_not_ok
  · intro isTable
    exact ⟨true, after, .inl ⟨rfl, isTable⟩, rfl⟩

/-- The guard is passed where it stands and is allowed, and otherwise no `IF` may stand there in a
grammar that has it. -/
theorem skipIfExists_ok_iff (settled : before.Settled) :
    skipIfExists grammar before = .ok () after ↔
      ∃ guard, before.Passes guard after ∧
        Optionally grammar.ifExistsGuards [.reserved .IF, .reserved .EXISTS] guard ∧
        (guard = [] → grammar.ifExistsGuards = true → after.current.kind ≠ .reserved .IF) := by
  rw [skipIfExists]
  cases grammar.ifExistsGuards with
  | false =>
    rw [if_neg Bool.false_ne_true, pure_ok_iff]
    simp only [optionally_false_iff]
    constructor
    · rintro ⟨-, rfl⟩
      exact ⟨[], .refl _, rfl, nofun⟩
    · rintro ⟨_, passed, rfl, -⟩
      exact ⟨trivial, passes_nil_iff.mp passed⟩
  | true =>
    rw [if_pos rfl, bind_ok_iff]
    simp only [skipIfWord_ok_iff settled]
    constructor
    · rintro ⟨skipped, middle, ⟨rfl, onIf, toIf, isIf⟩ | ⟨rfl, notOn, rfl⟩, rest⟩
      · obtain ⟨onExists, toExists, isExists⟩ := (acceptWord_ok_iff (toIf.settled settled)).mp rest
        refine ⟨_, toIf.trans toExists, .written rfl ?_, nofun⟩
        rw [List.singleton_append, List.map_cons, List.map_singleton, isIf, isExists]
      · obtain ⟨-, rfl⟩ := pure_ok_iff.mp rest
        exact ⟨[], .refl _, .missing, fun _ _ => notOn⟩
    · rintro ⟨guard, passed, isOptional, stopped⟩
      cases isOptional with
      | missing =>
        obtain rfl := passes_nil_iff.mp passed
        exact ⟨false, _, .inr ⟨rfl, stopped rfl trivial, rfl⟩, rfl⟩
      | written _ areWords =>
        obtain ⟨onIf, others, rfl, isIf, areWords⟩ := List.map_eq_cons_iff.mp areWords
        obtain ⟨onExists, rfl, isExists⟩ := List.map_eq_singleton_iff.mp areWords
        obtain ⟨middle, toIf, toExists⟩ := passed.uncons
        exact ⟨true, middle, .inl ⟨rfl, onIf, toIf, isIf⟩,
          (acceptWord_ok_iff (toIf.settled settled)).mpr ⟨onExists, toExists, isExists⟩⟩

/-- The word `TABLE` of an emptying is passed where it stands, and may be missing only where it is not
needed. -/
theorem skipTable_ok_iff (settled : before.Settled) :
    skipTable grammar before = .ok () after ↔
      ∃ table, before.Passes table after ∧ Optionally true [.reserved .TABLE] table ∧
        (grammar.truncateTableRequired = true → table ≠ []) ∧
        (table = [] → after.current.kind ≠ .reserved .TABLE) := by
  rw [skipTable]
  cases grammar.truncateTableRequired with
  | true =>
    rw [if_pos rfl, acceptWord_ok_iff settled]
    constructor
    · rintro ⟨table, passed, isTable⟩
      exact ⟨[table], passed, .written rfl (congrArg (· :: []) isTable), fun _ => List.cons_ne_nil _ _,
        fun isEmpty => absurd isEmpty (List.cons_ne_nil _ _)⟩
    · rintro ⟨table, passed, isOptional, required, -⟩
      cases isOptional with
      | missing => exact absurd rfl (required rfl)
      | written _ areWords =>
        obtain ⟨token, rfl, isTable⟩ := List.map_eq_singleton_iff.mp areWords
        exact ⟨token, passed, isTable⟩
  | false =>
    have skipWord_eq : discard (skipIf [.reserved .TABLE]) = skipWord true .TABLE := rfl
    rw [if_neg Bool.false_ne_true, skipWord_eq, skipWord_ok_iff settled]
    simp

/-- An opening is passed where no word behind it goes on with it. -/
theorem opening_of_passes (settled : before.Settled) {opening : List Token}
    (isOpening : ListOpening grammar family opening) (passed : before.Passes opening after)
    (notTable : after.current.kind ≠ .reserved .TABLE) (notIf : after.current.kind ≠ .reserved .IF) :
    family.opening grammar before = .ok () after := by
  cases isOpening with
  | @drop word table temporary guard isWord isTemporary isTable isGuard =>
    obtain ⟨behindWord, toWord, onward⟩ := passed.uncons
    obtain ⟨atTable, toTable, onward⟩ := onward.split
    obtain ⟨behindTable, pastTable, onward⟩ := onward.uncons
    have accepted := (acceptWord_ok_iff settled).mpr ⟨word, toWord, isWord⟩
    replace settled := toWord.settled settled
    have modifiers : grammar.skipDropModifiers behindWord = .ok () atTable := by
      rw [skipDropModifiers_eq, skipWord_ok_iff settled]
      refine ⟨temporary, toTable, isTemporary, fun _ _ onTemporary => ?_⟩
      rw [pastTable.current_eq, isTable] at onTemporary
      cases onTemporary
    replace settled := toTable.settled settled
    have expected : expectTable .drop atTable = .ok () behindTable :=
      (expectTable_ok_iff settled).mpr ⟨table, pastTable, isTable⟩
    have guarded := (skipIfExists_ok_iff (pastTable.settled settled)).mpr
      ⟨guard, onward, isGuard, fun _ _ => notIf⟩
    exact bind_ok_iff.mpr ⟨_, _, accepted, bind_ok_iff.mpr ⟨_, _, modifiers,
      bind_ok_iff.mpr ⟨_, _, expected, guarded⟩⟩⟩
  | @truncate word table isWord isTable required =>
    obtain ⟨behindWord, toWord, onward⟩ := passed.uncons
    have accepted := (acceptWord_ok_iff settled).mpr ⟨word, toWord, isWord⟩
    have skipped := (skipTable_ok_iff (toWord.settled settled)).mpr
      ⟨table, onward, isTable, required, fun _ => notTable⟩
    exact bind_ok_iff.mpr ⟨_, _, accepted, skipped⟩

/-- Whatever is passed before the tables of a removal or an emptying is an opening. -/
theorem exists_listOpening (isListing : family = .drop ∨ family = .truncate)
    (settled : before.Settled) (opened : family.opening grammar before = .ok () after) :
    ∃ opening, before.Passes opening after ∧ ListOpening grammar family opening := by
  obtain ⟨_, behindWord, accepted, words⟩ := bind_ok_iff.mp opened
  obtain ⟨word, toWord, isWord⟩ := (acceptWord_ok_iff settled).mp accepted
  replace settled := toWord.settled settled
  rcases isListing with rfl | rfl
  · obtain ⟨_, atTable, modifiers, words⟩ := bind_ok_iff.mp words
    rw [skipDropModifiers_eq, skipWord_ok_iff settled] at modifiers
    obtain ⟨temporary, toTable, isTemporary, -⟩ := modifiers
    replace settled := toTable.settled settled
    obtain ⟨_, behindTable, expected, guarded⟩ := bind_ok_iff.mp words
    obtain ⟨table, pastTable, isTable⟩ := (expectTable_ok_iff settled).mp expected
    obtain ⟨guard, toAfter, isGuard, -⟩ :=
      (skipIfExists_ok_iff (pastTable.settled settled)).mp guarded
    exact ⟨_, toWord.trans (toTable.trans (pastTable.trans toAfter)),
      .drop isWord isTemporary isTable isGuard⟩
  · obtain ⟨table, toAfter, isTable, required, -⟩ := (skipTable_ok_iff settled).mp words
    exact ⟨_, toWord.trans toAfter, .truncate isWord isTable required⟩

end Reading

end SqlSharding
