/-!
# Tables of code points

Unicode properties are stored as inclusive ranges of code points, and letter-case mappings as runs
of characters at a constant distance from their images.
-/

namespace SqlSharding.Text.CodePoints

/-- Whether one of the inclusive ranges holds the character. -/
def covers (ranges : List (Nat × Nat)) (c : Char) : Bool :=
  ranges.any fun range => range.1 ≤ c.toNat && c.toNat ≤ range.2

/-- A run `(first, last, step, target)`: the characters `first, first + step, …, last` have the
images `target, target + step, …`. -/
abbrev Run := Nat × Nat × Nat × Nat

/-- The image of a code point that belongs to the run. -/
def Run.image? (run : Run) (point : Nat) : Option Nat :=
  let (first, last, step, target) := run
  if first ≤ point ∧ point ≤ last ∧ (point - first) % step = 0 then
    some (target + (point - first))
  else
    none

/-- The image of a character under the runs; a character in no run is its own image. -/
def image (runs : List Run) (c : Char) : Char :=
  match runs.findSome? (·.image? c.toNat) with
  | some point => Char.ofNat point
  | none => c

end SqlSharding.Text.CodePoints
