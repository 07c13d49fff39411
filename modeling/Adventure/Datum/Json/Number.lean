import Adventure.Data.Double
import Adventure.Datum.Json.Quoted

/-!
# Numbers in JSON

Whole numbers of 64 bits are kept exactly, signed or unsigned.  All other numbers become
doubles, and a number too large for a double becomes infinite.
-/

set_option autoImplicit false

namespace Adventure.Json

/-- The value of a decimal digit. -/
def digitValue (c : Char) : Nat := c.toNat - '0'.toNat

/-- Adds digits to a significand while it fits.  Gives the significand, the number of
digits added and the digits left. -/
def absorb (significand : Nat) : List Char → Nat → Nat × Nat × List Char
  | [], count => (significand, count, [])
  | c :: rest, count =>
    let next := significand * 10 + digitValue c
    if next ≤ Double.significandLimit then absorb next rest (count + 1)
    else (significand, count, c :: rest)

/-- The digits at the start of a text, and what is left. -/
def digits (text : List Char) : List Char × List Char := text.span Char.isDigit

/-- The exponent of a number, after its mark. -/
def exponent? (text : List Char) : Reading Int :=
  let (negative, text) :=
    match text with
    | '+' :: rest => (false, rest)
    | '-' :: rest => (true, rest)
    | _ => (false, text)
  match digits text with
  | ([], _) => none
  | (shown, rest) =>
    let size : Int := shown.foldl (fun total c => total * 10 + digitValue c) 0
    some (if negative then -size else size, rest)

/-- A double from its significand and exponent, when an exponent may still follow. -/
def finish (negative : Bool) (significand : Nat) (exponent : Int) (text : List Char) :
    Reading Datum :=
  let marked : Reading Int :=
    match text with
    | 'e' :: rest => exponent? rest
    | 'E' :: rest => exponent? rest
    | _ => some (0, text)
  match marked with
  | none => none
  | some (extra, rest) =>
    let bits := Double.ofDecimal? negative significand (exponent + extra)
    some (.float (bits.getD (Double.infinite negative)), rest)

/-- A number after its whole digits. -/
def afterWhole (negative exact : Bool) (significand : Nat) (dropped : Nat) (text : List Char) :
    Reading Datum :=
  match text with
  | '.' :: rest =>
    match digits rest with
    | ([], _) => none
    | (shown, rest) =>
      let (significand, count, _) := absorb significand shown 0
      finish negative significand (dropped - count) rest
  | 'e' :: _ => finish negative significand dropped text
  | 'E' :: _ => finish negative significand dropped text
  | _ =>
    if exact && !negative then some (.nat significand, text)
    else if exact && significand != 0 && significand ≤ 9223372036854775808 then
      some (.int (-(significand : Int)), text)
    else finish negative significand dropped text

/-- Reads the digits of a number.  A zero in front of other digits is an error. -/
def readDigits (negative : Bool) (text : List Char) : Reading Datum :=
  match digits text with
  | ([], _) => none
  | ('0' :: _ :: _, _) => none
  | (shown, rest) =>
    let (significand, _, left) := absorb 0 shown 0
    afterWhole negative left.isEmpty significand left.length rest

/-- Reads a number. -/
def readNumber : List Char → Reading Datum
  | '-' :: rest => readDigits true rest
  | text => readDigits false text

end Adventure.Json
