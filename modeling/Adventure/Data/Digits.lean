import Adventure.Data.Bytes

/-!
# Numbers as text

Hexadecimal numbers with leading zeros, fields filled up with blanks on the left,
and signed numbers read from decimal or hexadecimal text.
-/

set_option autoImplicit false

namespace Adventure.Digits

/-- Fills a text up to a width with a character on its left. -/
def padLeft (width : Nat) (filler : Char) (text : String) : String :=
  String.ofList (List.replicate (width - text.length) filler) ++ text

/-- Lower case hexadecimal digits, without leading zeros. -/
def hex (n : Nat) : String := String.ofList (Nat.toDigits 16 n)

/-- Hexadecimal with `0x` in front, zeros between, at least `width` characters in all. -/
def hexWithMark (width n : Nat) : String := "0x" ++ padLeft (width - 2) '0' (hex n)

/-- Upper case hexadecimal digits with at least `width` of them. -/
def hexUpper (width n : Nat) : String := padLeft width '0' (hex n).toUpper

/-- Why a text is no number. -/
inductive ReadError where
  | empty
  | invalidDigit
  | tooLarge
  | tooSmall
  deriving DecidableEq, Repr

namespace ReadError

/-- The wording of each cause. -/
def message : ReadError → String
  | empty => "cannot parse integer from empty string"
  | invalidDigit => "invalid digit found in string"
  | tooLarge => "number too large to fit in target type"
  | tooSmall => "number too small to fit in target type"

end ReadError

/-- The value of a digit in a base of at most sixteen. -/
def digit? (base : Nat) (c : Char) : Option Nat :=
  match Bytes.hexValue? c with
  | some value => if value < base then some value else none
  | none => none

/-- Reads digits from the left.  A character that is no digit is reported before
the growth of the number past `limit` is. -/
def magnitude (base limit : Nat) (tooFar : ReadError) : List Char → Nat → Except ReadError Nat
  | [], total => .ok total
  | c :: rest, total =>
    match digit? base c with
    | none => .error .invalidDigit
    | some value =>
      if total * base + value ≤ limit then magnitude base limit tooFar rest (total * base + value)
      else .error tooFar

/-- Reads a signed number of 64 bits: one optional sign, then at least one digit. -/
def int64 (base : Nat) (text : List Char) : Except ReadError Int :=
  match text with
  | [] => .error .empty
  | '+' :: [] => .error .invalidDigit
  | '-' :: [] => .error .invalidDigit
  | '+' :: digits => (magnitude base 9223372036854775807 .tooLarge digits 0).map Int.ofNat
  | '-' :: digits =>
    (magnitude base 9223372036854775808 .tooSmall digits 0).map fun n => -(n : Int)
  | digits => (magnitude base 9223372036854775807 .tooLarge digits 0).map Int.ofNat

end Adventure.Digits
