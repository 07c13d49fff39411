/-!
# Byte strings

Byte strings are lists of bytes.  This module reads and writes whole numbers in
either byte order, and shows byte strings as pairs of hexadecimal digits.
-/

set_option autoImplicit false

namespace Adventure

/-- A byte string. -/
abbrev Bytes := List UInt8

namespace Bytes

/-- The two bytes of a word, the low byte first. -/
def ofWordLow (w : UInt16) : Bytes := [w.toUInt8, (w >>> 8).toUInt8]

/-- The word with a given low and high byte. -/
def wordLow (low high : UInt8) : UInt16 := low.toUInt16 ||| (high.toUInt16 <<< 8)

/-- A number as a given count of bytes, the high byte first. -/
def ofNatHigh : Nat → Nat → Bytes
  | 0, _ => []
  | count + 1, value => UInt8.ofNat (value / 256 ^ count) :: ofNatHigh count value

/-- The number whose bytes are given high byte first. -/
def natHigh (bytes : Bytes) : Nat := bytes.foldl (fun total byte => total * 256 + byte.toNat) 0

/-- The signed value of a word: words from `0x8000` on are negative. -/
def signed16 (w : UInt16) : Int := w.toInt16.toInt

/-- The word whose signed value has the same low 16 bits as `z`. -/
def word16 (z : Int) : UInt16 := (Int16.ofInt z).toUInt16

/-- The first bytes of a string and the rest, when there are enough of them. -/
def split? (count : Nat) (bytes : Bytes) : Option (Bytes × Bytes) :=
  let front := bytes.take count
  if front.length = count then some (front, bytes.drop count) else none

/-- The digit that stands for a number below sixteen. -/
def hexDigit (n : Nat) : Char := "0123456789abcdef".toList.getD n '0'

/-- The value of a hexadecimal digit, upper or lower case. -/
def hexValue? (c : Char) : Option Nat :=
  if '0' ≤ c ∧ c ≤ '9' then some (c.toNat - '0'.toNat)
  else if 'a' ≤ c ∧ c ≤ 'f' then some (c.toNat - 'a'.toNat + 10)
  else if 'A' ≤ c ∧ c ≤ 'F' then some (c.toNat - 'A'.toNat + 10)
  else none

/-- Two digits a byte, the high digit first. -/
def toHex (bytes : Bytes) : String :=
  bytes.foldl (fun text byte =>
    (text.push (hexDigit (byte.toNat / 16))).push (hexDigit (byte.toNat % 16))) ""

/-- Reads pairs of digits; an odd digit or any other character is refused. -/
def ofHexDigits? : List Char → Bytes → Option Bytes
  | [], seen => some seen.reverse
  | high :: low :: rest, seen =>
    match hexValue? high, hexValue? low with
    | some h, some l => ofHexDigits? rest (UInt8.ofNat (h * 16 + l) :: seen)
    | _, _ => none
  | [_], _ => none

/-- The byte string written as pairs of hexadecimal digits. -/
def ofHex? (text : String) : Option Bytes := ofHexDigits? text.toList []

/-- The text whose UTF-8 form is the byte string. -/
def text? (bytes : Bytes) : Option String := String.fromUTF8? (ByteArray.mk bytes.toArray)

/-- The UTF-8 form of a text. -/
def ofText (text : String) : Bytes := text.toUTF8.data.toList

end Bytes

end Adventure
