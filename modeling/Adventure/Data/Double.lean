/-!
# Doubles as text

A double is given by its 64 bits.  The decimal form of a finite double has the fewest
digits that still lie nearer to it than to any other double; of several such forms
the nearest one is taken.  All arithmetic on digits is exact.

Reading goes the other way: at most 64 bits of leading digits are kept, and are then
scaled by a power of ten in double arithmetic.
-/

set_option autoImplicit false

namespace Adventure.Double

/-- The sign bit. -/
def isNegative (bits : UInt64) : Bool := bits >>> 63 == 1

/-- The bits between sign and fraction. -/
def exponentBits (bits : UInt64) : Nat := ((bits >>> 52) &&& 0x7FF).toNat

/-- The lowest 52 bits. -/
def fractionBits (bits : UInt64) : Nat := (bits &&& 0xFFFFFFFFFFFFF).toNat

/-- The size of a finite double is `significand * 2 ^ power`. -/
def significand (bits : UInt64) : Nat :=
  if exponentBits bits = 0 then fractionBits bits else 4503599627370496 + fractionBits bits

/-- The size of a finite double is `significand * 2 ^ power`. -/
def power (bits : UInt64) : Int := (max (exponentBits bits) 1 : Nat) - 1075

/-! ## Shortest digits -/

/-- A number between two others, all as multiples of a common unit: the double itself and
the borders of the range that rounds to it. -/
structure Range where
  low : Nat
  value : Nat
  high : Nat
  /-- How many units are one. -/
  unit : Nat
  /-- Whether the borders belong to the range. -/
  closed : Bool

/-- The range that rounds to a finite double. -/
def range (bits : UInt64) : Range :=
  let m := significand bits
  let below := if fractionBits bits = 0 ∧ 1 < exponentBits bits then 1 else 2
  let up := Nat.pow 2 (power bits).toNat
  let down := Nat.pow 2 (-power bits).toNat
  { low := (4 * m - below) * up
    value := 4 * m * up
    high := (4 * m + 2) * up
    unit := 4 * down
    closed := m % 2 = 0 }

namespace Range

/-- Whether a multiple of the unit lies in the range. -/
def holds (r : Range) (n : Nat) : Bool :=
  if r.closed then r.low ≤ n && n ≤ r.high else r.low < n && n < r.high

/-- The power of ten of the first digit. -/
def leadingPower (r : Range) : Int :=
  ((Nat.toDigits 10 (r.value * Nat.pow 10 400 / r.unit)).length : Int) - 401

/-- The range in units of a power of ten. -/
def scaled (r : Range) (power : Int) : Range :=
  let grow := Nat.pow 10 (-power).toNat
  { r with
    low := r.low * grow
    value := r.value * grow
    high := r.high * grow
    unit := r.unit * Nat.pow 10 power.toNat }

/-- The multiple of a power of ten in the range that is nearest to the value. -/
def nearest? (r : Range) (power : Int) : Option Nat :=
  let s := r.scaled power
  let down := s.value / s.unit
  let lower := s.holds (down * s.unit)
  let upper := s.holds ((down + 1) * s.unit)
  let rest := s.value - down * s.unit
  if lower && upper then
    if 2 * rest < s.unit ∨ (2 * rest = s.unit ∧ down % 2 = 0) then some down else some (down + 1)
  else if lower then some down
  else if upper then some (down + 1)
  else none

end Range

/-- Drops zeros from the end of a number and counts them in the exponent. -/
def dropZeros : Nat → Nat → Int → Nat × Int
  | 0, digits, exponent => (digits, exponent)
  | fuel + 1, digits, exponent =>
    if digits % 10 = 0 then dropZeros fuel (digits / 10) (exponent + 1) else (digits, exponent)

/-- The shortest decimal `digits * 10 ^ exponent` of a finite double other than zero. -/
def shortest (bits : UInt64) : Nat × Int :=
  let r := range bits
  let leading := r.leadingPower
  let found := (List.range 17).findSome? fun (count : Nat) =>
    let power := leading - count
    (r.nearest? power).map fun digits => (digits, power)
  match found with
  | some (digits, exponent) => dropZeros 20 digits exponent
  | none => (0, 0)

/-- A decimal as text: positional from `0.00001` up to sixteen places before the point,
with an exponent elsewhere. -/
def decimalText (digits : Nat) (exponent : Int) : String :=
  let shown := Nat.toDigits 10 digits
  let places : Int := shown.length + exponent
  if 0 ≤ exponent ∧ places ≤ 16 then
    String.ofList (shown ++ List.replicate exponent.toNat '0' ++ ['.', '0'])
  else if 0 < places ∧ places ≤ 16 then
    String.ofList (shown.take places.toNat ++ ['.'] ++ shown.drop places.toNat)
  else if -5 < places ∧ places ≤ 0 then
    String.ofList (['0', '.'] ++ List.replicate (-places).toNat '0' ++ shown)
  else
    let tail := shown.drop 1
    let point := if tail.isEmpty then [] else '.' :: tail
    String.ofList (shown.take 1 ++ point) ++ "e" ++ (places - 1).repr

/-- The text of a finite double. -/
def toText (bits : UInt64) : String :=
  let sign := if isNegative bits then "-" else ""
  if significand bits = 0 then sign ++ "0.0"
  else
    let (digits, exponent) := shortest bits
    sign ++ decimalText digits exponent

/-! ## Reading -/

/-- The bits of an infinite double. -/
def infinite (negative : Bool) : UInt64 :=
  if negative then 0xFFF0000000000000 else 0x7FF0000000000000

/-- The greatest significand that reading keeps. -/
def significandLimit : Nat := 18446744073709551615

/-- Scales by a power of ten, 308 places at a time on the way down.  A number that is too
large has no double. -/
def scale : Nat → Float → Int → Option Float
  | 0, _, _ => none
  | fuel + 1, value, exponent =>
    if exponent.natAbs ≤ 308 then
      let factor := Float.ofScientific 1 false exponent.natAbs
      if 0 ≤ exponent then
        let product := value * factor
        if product.isInf then none else some product
      else some (value / factor)
    else if value == 0.0 then some value
    else if 0 ≤ exponent then none
    else scale fuel (value / Float.ofScientific 1 false 308) (exponent + 308)

/-- The double of `significand * 10 ^ exponent` with a sign. -/
def ofDecimal? (negative : Bool) (significand : Nat) (exponent : Int) : Option UInt64 :=
  (scale (exponent.natAbs / 308 + 8) (UInt64.ofNat significand).toFloat exponent).map fun value =>
    (if negative then -value else value).toBits

end Adventure.Double
