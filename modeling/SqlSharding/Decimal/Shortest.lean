/-!
# Shortest decimals

The shortest decimal that reads back as a given binary floating-point number. A number `m · 2 ^ q` is
the nearest one to every real in an interval around it, ends included when `m` is even. Among the
powers of ten, the largest one with a multiple in the interval is taken, and of its multiples the one
nearest to the number.
-/

namespace SqlSharding.Decimal

/-- A decimal `digits · 10 ^ exponent`. -/
structure Scaled where
  digits : Nat
  exponent : Int
  deriving DecidableEq

/-- The bounds of the reals nearest to a number, and the number itself, as multiples of a common
unit. -/
structure Neighbourhood where
  low : Nat
  value : Nat
  high : Nat
  /-- Whether the bounds belong to the neighbourhood. -/
  isClosed : Bool
  deriving DecidableEq

/-- The neighbourhood of a positive number with the given bits of exponent and fraction, and the
power of two that is its unit. -/
def Neighbourhood.ofBits (exponentBits fraction : Nat) : Neighbourhood × Int :=
  let significand := if exponentBits = 0 then fraction else fraction + Nat.pow 2 52
  let power : Int := if exponentBits = 0 then -1074 else (exponentBits : Int) - 1075
  let below := if fraction = 0 ∧ 1 < exponentBits then 1 else 2
  (⟨4 * significand - below, 4 * significand, 4 * significand + 2, significand % 2 == 0⟩, power - 2)

/-- Whether a multiple of the unit lies in the neighbourhood. -/
def Neighbourhood.contains (around : Neighbourhood) (point : Nat) : Bool :=
  if around.isClosed then around.low ≤ point && point ≤ around.high
  else around.low < point && point < around.high

/-- The neighbourhood in a unit that is `factor` times smaller. -/
def Neighbourhood.scale (around : Neighbourhood) (factor : Nat) : Neighbourhood :=
  { around with
    low := around.low * factor, value := around.value * factor, high := around.high * factor }

/-- The multiple of `step` in the neighbourhood that is nearest to its value; of two at the same
distance, the even multiple. -/
def nearestMultiple? (around : Neighbourhood) (step : Nat) : Option Nat :=
  let below := around.value / step
  let above := below + 1
  let toBelow := around.value - below * step
  let toAbove := above * step - around.value
  let order :=
    if toBelow < toAbove ∨ (toBelow = toAbove ∧ below % 2 = 0) then [below, above]
    else [above, below]
  order.find? fun multiple => around.contains (multiple * step)

/-- The nearest multiple of a power of ten, for a neighbourhood whose unit is a power of two. -/
def atExponent? (around : Neighbourhood) (power exponent : Int) : Option Scaled :=
  let factor := Nat.pow 2 power.toNat * Nat.pow 10 (-exponent).toNat
  let step := Nat.pow 2 (-power).toNat * Nat.pow 10 exponent.toNat
  (nearestMultiple? (around.scale factor) step).map (⟨·, exponent⟩)

/-- The first hit when the exponent goes down from `highest`. -/
def search (around : Neighbourhood) (power highest : Int) : Nat → Option Scaled
  | 0 => none
  | count + 1 =>
    match atExponent? around power highest with
    | some found => some found
    | none => search around power (highest - 1) count

/-- The shortest decimal for the positive number with the given bits. -/
def shortest? (exponentBits fraction : Nat) : Option Scaled :=
  let (around, power) := Neighbourhood.ofBits exponentBits fraction
  search around power 309 660

end SqlSharding.Decimal
