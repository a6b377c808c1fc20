/-!
# Case-blind comparison of names

Names of tables, columns and aliases are compared without regard to the case of ASCII letters; all
other characters must be equal. The comparison is equality of the folded texts, so it is an
equivalence.
-/

namespace SqlSharding.Text

/-- The text with each ASCII capital letter made small. -/
def foldCase (text : String) : String :=
  String.ofList (text.toList.map Char.toLower)

/-- Whether two names are equal up to the case of ASCII letters. -/
def sameName (left right : String) : Bool :=
  foldCase left == foldCase right

/-- The names without those that repeat an earlier one up to the case of ASCII letters. -/
def distinctNames (names : List String) : List String :=
  names.foldl (fun kept name => if kept.any (sameName name) then kept else kept ++ [name]) []

/-- Names are the same if they are equal in one letter case. -/
theorem sameName_iff {left right : String} : sameName left right ↔ foldCase left = foldCase right := by
  simp [sameName]

/-- A name is the same as itself. -/
@[simp] theorem sameName_refl (name : String) : sameName name name := by
  simp [sameName]

/-- Being the same name goes both ways. -/
theorem sameName_comm (left right : String) : sameName left right = sameName right left := by
  simp [sameName, BEq.comm]

/-- Names that are the same as one name are the same. -/
theorem sameName_trans {first second third : String}
    (left : sameName first second) (right : sameName second third) : sameName first third := by
  rw [sameName_iff] at *
  exact left.trans right

end SqlSharding.Text
