import SqlSharding.Proofs.Tables

/-!
# Tables added one after another

A collection of tables is built by additions of a name with at most one alias. It is a set of names
without regard to letter case: each name has one entry, spelled and placed as it first appeared, and
the entry has the aliases given to the name, each in its first spelling. A lookup goes by names
before it goes by aliases, and an addition lets an entry only grow at its end.
-/

namespace SqlSharding

namespace Text

/-- Of a list of names, the first spelling of each, in the order in which they first appear. -/
structure FirstSpellings (names kept : List String) : Prop where
  /-- What is kept is spelled as the first name that is the same. -/
  spelling : ∀ name ∈ kept, names.find? (sameName name) = some name
  complete : ∀ name ∈ names, ∃ first ∈ kept, sameName name first = true
  distinct : kept.Pairwise fun left right => sameName left right = false
  inOrder : kept.Pairwise fun left right =>
    names.findIdx (sameName left) < names.findIdx (sameName right)

/-- A name that differs from one of two names that are the same differs from the other one, too. -/
theorem differs_of_same {first second third : String} (same : sameName first third = true)
    (differs : sameName second first = false) : sameName second third = false := by
  refine Bool.eq_false_iff.mpr fun alsoSame => ?_
  have contrary := sameName_trans alsoSame ((sameName_comm _ _).trans same)
  exact Bool.false_ne_true (differs.symm.trans contrary)

/-- A name is found where it was, whatever names come behind. -/
theorem findIdx_append_of_mem {names : List String} {name other : String} (behind : List String)
    (isIn : other ∈ names) (same : sameName name other = true) :
    (names ++ behind).findIdx (sameName name) = names.findIdx (sameName name) := by
  rw [List.findIdx_append, if_pos (List.findIdx_lt_length_of_exists ⟨other, isIn, same⟩)]

/-- The names that are kept stand in the order of their first appearances. -/
theorem inOrder_distinctNames (names : List String) :
    (distinctNames names).Pairwise fun left right =>
      names.findIdx (sameName left) < names.findIdx (sameName right) := by
  induction names using List.reverseRecOn with
  | nil => exact .nil
  | append_singleton names last inductionHypothesis =>
    have place : ∀ kept ∈ distinctNames names,
        (names ++ [last]).findIdx (sameName kept) = names.findIdx (sameName kept) := fun kept isKept =>
      findIdx_append_of_mem [last] (mem_of_mem_distinctNames isKept) (sameName_refl kept)
    have earlier : (distinctNames names).Pairwise fun left right =>
        (names ++ [last]).findIdx (sameName left) < (names ++ [last]).findIdx (sameName right) := by
      refine inductionHypothesis.imp_of_mem fun isLeft isRight before => ?_
      rw [place _ isLeft, place _ isRight]
      exact before
    rw [distinctNames_concat]
    split
    · exact earlier
    · rename_i isNew
      -- The new name is found at the very end, and every other one before.
      refine List.pairwise_append.mpr ⟨earlier, List.pairwise_singleton _ _, ?_⟩
      intro kept isKept right isLast
      obtain rfl := List.mem_singleton.mp isLast
      have inFront : names.findIdx (sameName kept) < names.length :=
        List.findIdx_lt_length_of_exists
          ⟨kept, mem_of_mem_distinctNames isKept, sameName_refl kept⟩
      have notBefore : names.findIdx (sameName right) = names.length := by
        refine List.findIdx_eq_length.mpr fun name isIn => ?_
        obtain ⟨other, isOther, same⟩ := exists_mem_distinctNames isIn
        refine Bool.eq_false_iff.mpr fun sameRight => isNew ?_
        exact List.any_eq_true.mpr ⟨other, isOther, sameName_trans sameRight same⟩
      rw [place _ isKept, List.findIdx_append, notBefore, if_neg (Nat.lt_irrefl _)]
      exact Nat.lt_of_lt_of_le inFront (Nat.le_add_left _ _)

/-- What is kept of names are their first spellings. -/
theorem firstSpellings_distinctNames (names : List String) :
    FirstSpellings names (distinctNames names) where
  spelling _ isKept := find?_of_mem_distinctNames isKept
  complete _ isIn := exists_mem_distinctNames isIn
  distinct := pairwise_distinctNames names
  inOrder := inOrder_distinctNames names

end Text

namespace Table

/-- The entry of a name that has been given aliases. -/
def ofAliases (aliases : List String) (name : String) : Table :=
  ⟨name, Text.distinctNames aliases⟩

/-- An entry with another alias is the entry of the aliases with that one behind them. -/
theorem addAlias_ofAliases (name given : String) (aliases : List String) :
    (ofAliases aliases name).addAlias given = ofAliases (aliases ++ [given]) name := by
  have isRepeated : (ofAliases aliases name).hasAlias given =
      (Text.distinctNames aliases).any (Text.sameName given) :=
    congrArg (List.any _) (funext fun _ => Text.sameName_comm _ _)
  rw [addAlias, isRepeated, ofAliases, ofAliases, Text.distinctNames_concat]
  split <;> rfl

/-- An entry with other aliases is the entry of all of them, in order. -/
theorem foldl_addAlias_ofAliases (name : String) (later aliases : List String) :
    later.foldl addAlias (ofAliases aliases name) = ofAliases (aliases ++ later) name := by
  induction later generalizing aliases with
  | nil => rw [List.foldl_nil, List.append_nil]
  | cons given later inductionHypothesis =>
    rw [List.foldl_cons, addAlias_ofAliases, inductionHypothesis, List.append_assoc,
      List.singleton_append]

/-- An entry goes on as another one: with its name and its aliases, and perhaps more of them. -/
structure GrowsTo (earlier later : Table) : Prop where
  name : later.name = earlier.name
  aliases : earlier.aliases <+: later.aliases

/-- An entry goes on as itself. -/
theorem GrowsTo.refl (table : Table) : table.GrowsTo table :=
  ⟨rfl, List.prefix_refl _⟩

/-- An entry goes on as what it goes on as later. -/
theorem GrowsTo.trans {first second third : Table} (left : first.GrowsTo second)
    (right : second.GrowsTo third) : first.GrowsTo third :=
  ⟨right.name.trans left.name, left.aliases.trans right.aliases⟩

/-- With another alias an entry goes on. -/
theorem growsTo_addAlias (table : Table) (given : String) : table.GrowsTo (table.addAlias given) := by
  refine ⟨addAlias_name _ _, ?_⟩
  rw [addAlias]
  split
  · exact List.prefix_refl _
  · exact List.prefix_append _ _

/-- With other aliases an entry goes on. -/
theorem growsTo_foldl_addAlias (aliases : List String) (table : Table) :
    table.GrowsTo (aliases.foldl addAlias table) := by
  induction aliases generalizing table with
  | nil => exact .refl table
  | cons given aliases inductionHypothesis =>
    exact (growsTo_addAlias table given).trans (inductionHypothesis _)

end Table

namespace Tables

/-- A name and the alias given with it, if there is one. -/
abbrev Addition := String × Option String

/-- The collection after additions, from none. -/
def ofAdded (added : List Addition) : Tables :=
  added.foldl (fun tables addition => tables.add (.ofName addition.1 addition.2)) .empty

/-- The aliases added under a name, in any letter case of it. -/
def aliasesOf (added : List Addition) (name : String) : List String :=
  (added.filter fun addition => Text.sameName name addition.1).filterMap (·.2)

/-- The collection after additions is the one before the last of them, with that one added. -/
theorem ofAdded_concat (added : List Addition) (addition : Addition) :
    ofAdded (added ++ [addition]) = (ofAdded added).add (.ofName addition.1 addition.2) := by
  rw [ofAdded, List.foldl_append]
  rfl

/-- References are additions of their names and aliases. -/
theorem ofReferences_eq (references : List TableReference) :
    ofReferences references =
      ofAdded (references.map fun reference => (reference.mark.name, reference.alias?)) := by
  rw [ofReferences, ofAdded, List.foldl_map]
  rfl

/-- The aliases under a name are those of the front, and that of the last addition if it is under the
name. -/
theorem aliasesOf_concat (added : List Addition) (addition : Addition) (name : String) :
    aliasesOf (added ++ [addition]) name =
      aliasesOf added name ++ if Text.sameName name addition.1 then addition.2.toList else [] := by
  rw [aliasesOf, List.filter_append, List.filterMap_append, aliasesOf, List.filter_singleton]
  cases Text.sameName name addition.1 with
  | false => rfl
  | true =>
    obtain ⟨_, given?⟩ := addition
    cases given? <;> rfl

/-- Under a name that is kept of none of the additions no alias was added. -/
theorem aliasesOf_eq_nil {added : List Addition} {name : String}
    (isNew : (Text.distinctNames (added.map (·.1))).any (Text.sameName name) = false) :
    aliasesOf added name = [] := by
  have noneUnder : added.filter (fun addition => Text.sameName name addition.1) = [] := by
    refine List.filter_eq_nil_iff.mpr fun addition isIn same => ?_
    obtain ⟨kept, isKept, sameKept⟩ :=
      Text.exists_mem_distinctNames (List.mem_map_of_mem (f := (·.1)) isIn)
    have repeated : (Text.distinctNames (added.map (·.1))).any (Text.sameName name) = true :=
      List.any_eq_true.mpr ⟨kept, isKept, Text.sameName_trans same sameKept⟩
    exact Bool.false_ne_true (isNew.symm.trans repeated)
  rw [aliasesOf, noneUnder, List.filterMap_nil]

/-- No two of the entries have the same name in any letter case. -/
def HasDistinctNames (entries : List Table) : Prop :=
  entries.Pairwise fun left right => Text.sameName left.name right.name = false

/-- Where each name has one entry, a table goes into the entry of its name or behind all entries. -/
theorem insert_eq_of_distinct (table : Table) {entries : List Table}
    (distinct : HasDistinctNames entries) :
    insert table entries =
      if entries.any (·.hasName table.name) then
        entries.map fun entry =>
          if entry.hasName table.name then table.aliases.foldl Table.addAlias entry else entry
      else entries ++ [table] := by
  induction distinct with
  | nil => rfl
  | @cons entry entries isOther _ inductionHypothesis =>
    rw [insert, List.any_cons, List.map_cons]
    cases isSame : entry.hasName table.name with
    | true =>
      have unchanged : ∀ other ∈ entries, other.hasName table.name = false := fun other isIn =>
        Text.differs_of_same isSame ((Text.sameName_comm _ _).trans (isOther other isIn))
      have sameEntries : (entries.map fun other =>
          if other.hasName table.name then table.aliases.foldl Table.addAlias other else other) =
            entries := by
        refine (List.map_congr_left fun other isIn => ?_).trans (List.map_id entries)
        rw [unchanged other isIn, if_neg Bool.false_ne_true, id]
      rw [Bool.true_or, if_pos rfl, if_pos rfl, if_pos rfl, sameEntries]
    | false =>
      rw [if_neg Bool.false_ne_true, Bool.false_or, inductionHypothesis, if_neg Bool.false_ne_true]
      split <;> rfl

/-- The entries of names, each with the aliases added under it. -/
def entriesOf (added : List Addition) (names : List String) : List Table :=
  names.map fun name => .ofAliases (aliasesOf added name) name

/-- The entries of distinct names have distinct names. -/
theorem hasDistinctNames_entriesOf (added : List Addition) (names : List String) :
    HasDistinctNames (entriesOf added (Text.distinctNames names)) :=
  List.pairwise_map.mpr (Text.pairwise_distinctNames names)

/-- Under a name that has an entry, the alias is added to that entry. -/
theorem entriesOf_concat (added : List Addition) (addition : Addition) (names : List String) :
    entriesOf (added ++ [addition]) names =
      (entriesOf added names).map fun entry =>
        if entry.hasName addition.1 then addition.2.toList.foldl Table.addAlias entry else entry := by
  rw [entriesOf, entriesOf, List.map_map]
  refine List.map_congr_left fun kept _ => ?_
  have hasName : (Table.ofAliases (aliasesOf added kept) kept).hasName addition.1 =
      Text.sameName kept addition.1 := rfl
  rw [Function.comp_apply, hasName, aliasesOf_concat]
  cases Text.sameName kept addition.1 with
  | true => rw [if_pos rfl, if_pos rfl, Table.foldl_addAlias_ofAliases]
  | false => rw [if_neg Bool.false_ne_true, if_neg Bool.false_ne_true, List.append_nil]

/-- Under a name that has no entry, the other entries stay as they are. -/
theorem entriesOf_concat_of_new {added : List Addition} {addition : Addition} {names : List String}
    (isNew : names.any (Text.sameName addition.1) = false) :
    entriesOf (added ++ [addition]) names = entriesOf added names := by
  refine List.map_congr_left fun kept isKept => ?_
  have isOther : Text.sameName kept addition.1 = false := by
    rw [Text.sameName_comm]
    exact Bool.eq_false_iff.mpr (List.any_eq_false.mp isNew kept isKept)
  rw [aliasesOf_concat, isOther, if_neg Bool.false_ne_true, List.append_nil]

/-- The names that were added, each with the aliases added under it. -/
theorem entries_ofAdded (added : List Addition) :
    (ofAdded added).entries = entriesOf added (Text.distinctNames (added.map (·.1))) := by
  induction added using List.reverseRecOn with
  | nil => rfl
  | append_singleton added addition inductionHypothesis =>
    have distinct := hasDistinctNames_entriesOf added (added.map (·.1))
    have anyIsSame : (entriesOf added (Text.distinctNames (added.map (·.1)))).any
        (·.hasName addition.1) =
          (Text.distinctNames (added.map (·.1))).any (Text.sameName addition.1) := by
      rw [entriesOf, List.any_map]
      exact congrArg (List.any _) (funext fun _ => Text.sameName_comm _ _)
    have name : (Table.ofName addition.1 addition.2).name = addition.1 := rfl
    have aliases : (Table.ofName addition.1 addition.2).aliases = addition.2.toList := rfl
    rw [ofAdded_concat, add, inductionHypothesis, insert_eq_of_distinct _ distinct, name, aliases,
      anyIsSame, List.map_append, List.map_singleton, Text.distinctNames_concat]
    cases isRepeated : (Text.distinctNames (added.map (·.1))).any (Text.sameName addition.1) with
    | true => rw [if_pos rfl, if_pos rfl, entriesOf_concat]
    | false =>
      have newEntry : entriesOf (added ++ [addition]) [addition.1] =
          [.ofName addition.1 addition.2] := by
        rw [entriesOf, List.map_singleton, aliasesOf_concat, aliasesOf_eq_nil isRepeated,
          Text.sameName_refl, if_pos rfl]
        cases addition.2 <;> rfl
      rw [if_neg Bool.false_ne_true, if_neg Bool.false_ne_true, ← newEntry,
        ← entriesOf_concat_of_new isRepeated]
      exact List.map_append.symm

/-- The tables of references are their distinct names, each with the distinct aliases given to it. -/
theorem ofReferences_eq_distinct (references : List TableReference) :
    ofReferences references =
      ⟨(Text.distinctNames (references.map (·.mark.name))).map fun name =>
        ⟨name, Text.distinctNames
          ((references.filter fun reference => Text.sameName name reference.mark.name).filterMap
            (·.alias?))⟩⟩ := by
  let addition (reference : TableReference) : Addition := (reference.mark.name, reference.alias?)
  have names : (references.map addition).map (·.1) = references.map (·.mark.name) := List.map_map
  have aliases (name : String) : aliasesOf (references.map addition) name =
      (references.filter fun reference => Text.sameName name reference.mark.name).filterMap
        (·.alias?) := by
    rw [aliasesOf, List.filter_map, List.filterMap_map]
    rfl
  have entries := entries_ofAdded (references.map addition)
  simp only [entriesOf, Table.ofAliases, names, aliases] at entries
  rw [ofReferences_eq]
  exact congrArg Tables.mk entries

/-- A collection goes on as another one: what stands at a place only grows. -/
def GrowsTo (earlier later : Tables) : Prop :=
  ∀ (place : Nat) (entry : Table), earlier.entries[place]? = some entry →
    ∃ grown, later.entries[place]? = some grown ∧ entry.GrowsTo grown

/-- A collection goes on as itself. -/
theorem GrowsTo.refl (tables : Tables) : tables.GrowsTo tables :=
  fun _ entry isEntry => ⟨entry, isEntry, .refl entry⟩

/-- A collection goes on as what it goes on as later. -/
theorem GrowsTo.trans {first second third : Tables} (left : first.GrowsTo second)
    (right : second.GrowsTo third) : first.GrowsTo third := by
  intro place entry isEntry
  obtain ⟨grown, isGrown, toGrown⟩ := left place entry isEntry
  obtain ⟨final, isFinal, toFinal⟩ := right place grown isGrown
  exact ⟨final, isFinal, toGrown.trans toFinal⟩

/-- With a table added to its entries a collection goes on. -/
theorem growsTo_insert (table : Table) (entries : List Table) :
    GrowsTo ⟨entries⟩ ⟨insert table entries⟩ := by
  induction entries with
  | nil => exact fun _ _ isEntry => nomatch isEntry
  | cons first entries inductionHypothesis =>
    intro place entry isEntry
    rw [insert]
    cases place with
    | zero =>
      obtain rfl : first = entry := Option.some.inj isEntry
      split
      · exact ⟨_, rfl, Table.growsTo_foldl_addAlias _ _⟩
      · exact ⟨_, rfl, .refl first⟩
    | succ place =>
      split
      · exact ⟨entry, isEntry, .refl entry⟩
      · exact inductionHypothesis place entry isEntry

/-- No addition changes the name, the place or the aliases of an earlier entry. -/
theorem growsTo_ofAdded (earlier later : List Addition) :
    (ofAdded earlier).GrowsTo (ofAdded (earlier ++ later)) := by
  induction later using List.reverseRecOn with
  | nil =>
    rw [List.append_nil]
    exact .refl _
  | append_singleton later addition inductionHypothesis =>
    rw [← List.append_assoc, ofAdded_concat]
    exact inductionHypothesis.trans (growsTo_insert _ _)

/-- The entry that a name leads to: the one of that name, or else the first one with that alias. -/
inductive Finds (tables : Tables) (name : String) : Table → Prop
  | byName {entry : Table} (isEntry : entry ∈ tables.entries) (hasName : entry.hasName name = true) :
      tables.Finds name entry
  | byAlias {before behind : List Table} {entry : Table}
      (isNoName : ∀ other ∈ tables.entries, other.hasName name = false)
      (places : tables.entries = before ++ entry :: behind) (hasAlias : entry.hasAlias name = true)
      (isFirst : ∀ other ∈ before, other.hasAlias name = false) : tables.Finds name entry

/-- Where each name has one entry, an entry is the first one of its name. -/
theorem find?_hasName_of_mem {entries : List Table}
    (distinct : HasDistinctNames entries) {entry : Table} (isEntry : entry ∈ entries) {name : String}
    (hasName : entry.hasName name = true) : entries.find? (·.hasName name) = some entry := by
  obtain ⟨before, behind, rfl⟩ := List.append_of_mem isEntry
  refine List.find?_eq_some_iff_append.mpr ⟨hasName, before, behind, rfl, fun other isBefore => ?_⟩
  have isOther : Text.sameName other.name entry.name = false :=
    (List.pairwise_append.mp distinct).2.2 other isBefore entry List.mem_cons_self
  exact (Bool.not_eq_true' _).mpr (Text.differs_of_same hasName isOther)

/-- A lookup finds the entry that the name leads to, where each name has one entry. -/
theorem find?_eq_some_iff {tables : Tables} (distinct : HasDistinctNames tables.entries)
    {name : String} {entry : Table} : tables.find? name = some entry ↔ tables.Finds name entry := by
  constructor
  · intro found
    rw [find?] at found
    cases named : tables.entries.find? (·.hasName name) with
    | some other =>
      rw [named] at found
      obtain rfl : other = entry := Option.some.inj found
      have hasName : other.hasName name = true := by
        simpa using List.find?_some named
      exact .byName (List.mem_of_find?_eq_some named) hasName
    | none =>
      rw [named] at found
      have isNoName : ∀ other ∈ tables.entries, other.hasName name = false := fun other isOther =>
        Bool.eq_false_iff.mpr (List.find?_eq_none.mp named other isOther)
      obtain ⟨hasAlias, before, behind, places, isFirst⟩ := List.find?_eq_some_iff_append.mp found
      exact .byAlias isNoName places hasAlias fun other isBefore =>
        (Bool.not_eq_true' _).mp (isFirst other isBefore)
  · intro finds
    rw [find?]
    cases finds with
    | byName isEntry hasName =>
      rw [find?_hasName_of_mem distinct isEntry hasName]
      rfl
    | @byAlias before behind _ isNoName places hasAlias isFirst =>
      have named : tables.entries.find? (·.hasName name) = none :=
        List.find?_eq_none.mpr fun other isOther => Bool.eq_false_iff.mp (isNoName other isOther)
      rw [named]
      exact List.find?_eq_some_iff_append.mpr ⟨hasAlias, before, behind, places,
        fun other isBefore => (Bool.not_eq_true' _).mpr (isFirst other isBefore)⟩

/-- A lookup fails for what is neither a name nor an alias, and for nothing else. -/
theorem find?_eq_none_iff {tables : Tables} {name : String} :
    tables.find? name = none ↔
      ∀ entry ∈ tables.entries, entry.hasName name = false ∧ entry.hasAlias name = false := by
  rw [find?, Option.orElse_eq_orElse, Option.orElse_eq_or, Option.or_eq_none_iff,
    List.find?_eq_none, List.find?_eq_none]
  constructor
  · rintro ⟨isNoName, isNoAlias⟩ entry isEntry
    exact ⟨Bool.eq_false_iff.mpr (isNoName entry isEntry),
      Bool.eq_false_iff.mpr (isNoAlias entry isEntry)⟩
  · intro isNeither
    exact ⟨fun entry isEntry => Bool.eq_false_iff.mp (isNeither entry isEntry).1,
      fun entry isEntry => Bool.eq_false_iff.mp (isNeither entry isEntry).2⟩

/-- The names of a collection are the first spellings of the names that were added. -/
theorem firstSpellings_names (added : List Addition) :
    Text.FirstSpellings (added.map (·.1)) (ofAdded added).names := by
  have names : (ofAdded added).names = Text.distinctNames (added.map (·.1)) := by
    rw [Tables.names, entries_ofAdded, entriesOf, List.map_map]
    exact List.map_id _
  rw [names]
  exact Text.firstSpellings_distinctNames _

/-- The aliases of an entry are the first spellings of those that were added under its name. -/
theorem firstSpellings_aliases {added : List Addition} {entry : Table}
    (isEntry : entry ∈ (ofAdded added).entries) :
    Text.FirstSpellings (aliasesOf added entry.name) entry.aliases := by
  rw [entries_ofAdded] at isEntry
  obtain ⟨name, -, rfl⟩ := List.mem_map.mp isEntry
  exact Text.firstSpellings_distinctNames _

/-- What was added is in an entry: the name in some letter case, and the alias too. -/
theorem exists_entry_of_mem {added : List Addition} {addition : Addition} (isIn : addition ∈ added) :
    ∃ entry ∈ (ofAdded added).entries, entry.hasName addition.1 = true ∧
      ∀ given ∈ addition.2, entry.hasAlias given = true := by
  obtain ⟨name, isName, same⟩ :=
    (firstSpellings_names added).complete addition.1 (List.mem_map_of_mem isIn)
  obtain ⟨entry, isEntry, rfl⟩ := List.mem_map.mp isName
  have hasName : entry.hasName addition.1 = true := (Text.sameName_comm _ _).trans same
  refine ⟨entry, isEntry, hasName, fun given isGiven => ?_⟩
  have isAlias : given ∈ aliasesOf added entry.name :=
    List.mem_filterMap.mpr ⟨addition, List.mem_filter.mpr ⟨isIn, hasName⟩, isGiven⟩
  obtain ⟨first, isFirst, sameAlias⟩ := (firstSpellings_aliases isEntry).complete given isAlias
  exact List.any_eq_true.mpr ⟨first, isFirst, (Text.sameName_comm _ _).trans sameAlias⟩

/-- What a collection of tables is after additions. -/
structure Collects (added : List Addition) (tables : Tables) : Prop where
  names : Text.FirstSpellings (added.map (·.1)) tables.names
  aliases : ∀ entry ∈ tables.entries, Text.FirstSpellings (aliasesOf added entry.name) entry.aliases
  lookup : ∀ name entry, tables.find? name = some entry ↔ tables.Finds name entry
  noLookup : ∀ name, tables.find? name = none ↔
    ∀ entry ∈ tables.entries, entry.hasName name = false ∧ entry.hasAlias name = false
  foundByName : ∀ addition ∈ added, ∃ entry, tables.find? addition.1 = some entry ∧
    entry.hasName addition.1 = true
  foundByAlias : ∀ addition ∈ added, ∀ given ∈ addition.2, ∃ entry, tables.find? given = some entry ∧
    (entry.hasName given = true ∨ entry.hasAlias given = true)
  /-- Whatever was collected earlier is still at its place. -/
  kept : ∀ earlier later, added = earlier ++ later → (ofAdded earlier).GrowsTo tables

/-- Tables added one after another make an ordered set of names, each with its aliases. -/
theorem collects_ofAdded (added : List Addition) : Collects added (ofAdded added) := by
  have distinct : HasDistinctNames (ofAdded added).entries :=
    List.pairwise_map.mp (firstSpellings_names added).distinct
  exact {
    names := firstSpellings_names added
    aliases := fun entry isEntry => firstSpellings_aliases isEntry
    lookup := fun name entry => find?_eq_some_iff distinct
    noLookup := fun name => find?_eq_none_iff
    foundByName := by
      intro addition isIn
      obtain ⟨entry, isEntry, hasName, -⟩ := exists_entry_of_mem isIn
      exact ⟨entry, (find?_eq_some_iff distinct).mpr (.byName isEntry hasName), hasName⟩
    foundByAlias := by
      intro addition isIn given isGiven
      obtain ⟨entry, isEntry, -, hasAlias⟩ := exists_entry_of_mem isIn
      cases found : (ofAdded added).find? given with
      | none =>
        have noAlias : entry.hasAlias given = false := (find?_eq_none_iff.mp found entry isEntry).2
        exact absurd (noAlias.symm.trans (hasAlias given isGiven)) Bool.false_ne_true
      | some other =>
        refine ⟨other, rfl, ?_⟩
        cases (find?_eq_some_iff distinct).mp found with
        | byName _ hasName => exact .inl hasName
        | byAlias _ _ otherHasAlias _ => exact .inr otherHasAlias
    kept := by
      rintro earlier later rfl
      exact growsTo_ofAdded earlier later }

end Tables

end SqlSharding
