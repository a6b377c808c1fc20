import SqlSharding.Decimal.Shortest

/-!
# Numbers in JSON

A number without fraction and exponent that fits 64 bits is an integer; any other number is a binary
floating-point number. Its value is found in two roundings: digits are gathered while they fit 64
bits, and the result is multiplied or divided by a power of ten.
-/

namespace SqlSharding.Json

/-- The parts of a number as written. -/
structure NumberText where
  isNegative : Bool
  whole : List Char
  /-- The digits after the point, if there is a point. -/
  fraction? : Option (List Char)
  /-- Whether the exponent is negative, and its digits. -/
  exponent? : Option (Bool × List Char)
  deriving DecidableEq

/-- A number that has been read. -/
inductive Number
  | integer (value : Int)
  | floating (value : Float)

namespace NumberText

/-- At least one digit at the front, and what follows the digits. -/
def digits? (characters : List Char) : Option (List Char × List Char) :=
  if characters.head?.any Char.isDigit then
    some (characters.takeWhile Char.isDigit, characters.dropWhile Char.isDigit)
  else
    none

/-- The digits before the point; a zero is not followed by other digits. -/
def whole? : List Char → Option (List Char × List Char)
  | '0' :: rest => if rest.head?.any Char.isDigit then none else some (['0'], rest)
  | characters => digits? characters

/-- The point and the digits after it, if there is a point. -/
def fraction (characters : List Char) : Option (Option (List Char) × List Char) :=
  match characters with
  | '.' :: rest => (digits? rest).map fun (digits, after) => (some digits, after)
  | _ => some (none, characters)

/-- The exponent after its mark. -/
def signedDigits? (characters : List Char) : Option ((Bool × List Char) × List Char) :=
  match characters with
  | '-' :: rest => (digits? rest).map fun (digits, after) => ((true, digits), after)
  | '+' :: rest => (digits? rest).map fun (digits, after) => ((false, digits), after)
  | _ => (digits? characters).map fun (digits, after) => ((false, digits), after)

/-- The exponent, if there is one. -/
def exponent (characters : List Char) : Option (Option (Bool × List Char) × List Char) :=
  match characters with
  | 'e' :: rest | 'E' :: rest => (signedDigits? rest).map fun (found, after) => (some found, after)
  | _ => some (none, characters)

/-- The number at the front of a text, and what follows it. -/
def read? (characters : List Char) : Option (NumberText × List Char) := do
  let isNegative := characters.head? = some '-'
  let (whole, rest) ← whole? (if isNegative then characters.drop 1 else characters)
  let (fraction?, rest) ← fraction rest
  let (exponent?, rest) ← exponent rest
  return (⟨isNegative, whole, fraction?, exponent?⟩, rest)

/-- The value of a digit. -/
def digitValue (digit : Char) : Nat :=
  digit.toNat - '0'.toNat

/-- The digits gathered so far, as long as they fit 64 bits, and the number of those left out. -/
def gather (start : Nat) : List Char → Nat × Nat
  | [] => (start, 0)
  | digit :: rest =>
    let next := start * 10 + digitValue digit
    if next < Nat.pow 2 64 then gather next rest else (start, rest.length + 1)

/-- The number before the point, the digits after it included, and the power of ten that it has to
be multiplied by. -/
def significand (number : NumberText) : Nat × Int :=
  let (before, omitted) := gather 0 number.whole
  match number.fraction? with
  | none => (before, omitted)
  | some digits =>
    let (gathered, ignored) := gather before digits
    (gathered, (omitted : Int) - (digits.length - ignored : Nat))

/-- A product of a number and a power of ten, if it is finite. -/
def scaleUp? (value : Float) (power : Nat) : Option Float :=
  if 308 < power then
    if value == 0 then some 0 else none
  else
    let product := value * Float.ofScientific 1 false power
    if product.isInf then none else some product

/-- A quotient of a number and a power of ten, which is divided by step by step. -/
def scaleDown (value : Float) : (steps : Nat) → (power : Nat) → Float
  | 0, _ => value
  | steps + 1, power =>
    if 308 < power then
      if value == 0 then value
      else scaleDown (value / Float.ofScientific 1 false 308) steps (power - 308)
    else
      value / Float.ofScientific 1 false power

/-- The largest size of an exponent that is told from greater ones. -/
def exponentLimit : Nat := 2147483647

/-- A number times a power of ten, if it is finite. -/
def scale? (value : Float) (power : Int) : Option Float :=
  if 0 ≤ power then scaleUp? value power.toNat
  else some (scaleDown value (power.natAbs / 308 + 1) power.natAbs)

/-- The floating-point number, if it is finite. -/
def toFloat? (number : NumberText) : Option Float :=
  let (gathered, shift) := number.significand
  let magnitude? : Option Float :=
    match number.exponent? with
    | none => scale? gathered.toUInt64.toFloat shift
    | some (isDown, digits) =>
      let size := digits.foldl (fun size digit => size * 10 + digitValue digit) 0
      if exponentLimit < size then
        if gathered = 0 ∨ isDown then some 0 else none
      else
        scale? gathered.toUInt64.toFloat (if isDown then shift - size else shift + size)
  magnitude?.map fun magnitude => if number.isNegative then -magnitude else magnitude

/-- The integer, if the number is written as one and fits 64 bits. A negative zero is not an
integer. -/
def toInt? (number : NumberText) : Option Int :=
  if number.fraction?.isSome || number.exponent?.isSome then none
  else
    let size := number.whole.foldl (fun size digit => size * 10 + digitValue digit) 0
    if number.isNegative then
      if 0 < size ∧ size ≤ Nat.pow 2 63 then some (-(size : Int)) else none
    else if size < Nat.pow 2 64 then some size
    else none

/-- The number, if it is finite. -/
def toNumber? (number : NumberText) : Option Number :=
  match number.toInt? with
  | some value => some (.integer value)
  | none => number.toFloat?.map .floating

end NumberText

/-- How a floating-point number is shown. -/
structure FloatFormat where
  /-- The least and the greatest exponent of a number that is shown without an exponent. -/
  leastFixed : Int
  greatestFixed : Int

namespace FloatFormat

/-- The format in messages: `0.00001`, `1000.0`, `1.5`, `1e+16` and `1.25e-6`. -/
def messages : FloatFormat := ⟨-5, 15⟩

/-- Zeros. -/
def zeros (count : Nat) : List Char :=
  List.replicate count '0'

/-- Digits with a point after the first `before` of them; a side without digits shows a zero. -/
def withPoint (digits : List Char) (before : Int) : List Char :=
  if before ≤ 0 then
    ['0', '.'] ++ zeros before.natAbs ++ digits
  else
    let digits := digits ++ zeros (before.toNat - digits.length)
    let after := digits.drop before.toNat
    digits.take before.toNat ++ '.' :: (if after.isEmpty then ['0'] else after)

/-- A positive decimal. -/
def render (format : FloatFormat) (number : Decimal.Scaled) : List Char :=
  let digits := (toString number.digits).toList
  let exponent := number.exponent + digits.length - 1
  if format.leastFixed ≤ exponent ∧ exponent ≤ format.greatestFixed then
    withPoint digits (exponent + 1)
  else
    let fraction := digits.drop 1
    digits.take 1 ++ (if fraction.isEmpty then [] else '.' :: fraction) ++
      ['e', if exponent < 0 then '-' else '+'] ++ (toString exponent.natAbs).toList

end FloatFormat

/-- The text of a finite floating-point number. -/
def floatText (value : Float) : String :=
  let bits := value.toBits.toNat
  let sign := if bits / Nat.pow 2 63 = 1 then ['-'] else []
  let exponentBits := bits / Nat.pow 2 52 % Nat.pow 2 11
  let fraction := bits % Nat.pow 2 52
  let magnitude :=
    if exponentBits = 0 ∧ fraction = 0 then ['0', '.', '0']
    else match Decimal.shortest? exponentBits fraction with
      | some number => FloatFormat.messages.render number
      | none => []
  String.ofList (sign ++ magnitude)

end SqlSharding.Json
