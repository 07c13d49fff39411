import Adventure.Datum.Basic

/-!
# Texts in JSON

A text stands between quotes.  A backslash starts an escape, and a character beyond the
first 65536 is written as a pair of escapes.  Half a pair does not end the reading, but
leaves a torn text.
-/

set_option autoImplicit false

namespace Adventure.Json

/-- What reading gives: a value and what is left. -/
abbrev Reading (α : Type) := Option (α × List Char)

/-- The value of four hexadecimal digits. -/
def hexWord? : List Char → Reading Nat
  | a :: b :: c :: d :: rest =>
    match Bytes.hexValue? a, Bytes.hexValue? b, Bytes.hexValue? c, Bytes.hexValue? d with
    | some a, some b, some c, some d => some (((a * 16 + b) * 16 + c) * 16 + d, rest)
    | _, _, _, _ => none
  | _ => none

/-- Whether a number is the first half of a pair. -/
def isFirstHalf (unit : Nat) : Bool := 0xD800 ≤ unit && unit ≤ 0xDBFF

/-- Whether a number is the second half of a pair. -/
def isSecondHalf (unit : Nat) : Bool := 0xDC00 ≤ unit && unit ≤ 0xDFFF

/-- The second half of a pair, with the start of its escape. -/
def secondHalf? : List Char → Reading Nat
  | '\\' :: 'u' :: rest =>
    match hexWord? rest with
    | some (unit, rest) => if isSecondHalf unit then some (unit, rest) else none
    | none => none
  | _ => none

/-- The character of an escape with four digits, or of a pair of them; none for half a
pair. -/
def unicode? (text : List Char) : Reading (Option Char) :=
  match hexWord? text with
  | none => none
  | some (unit, rest) =>
    if isFirstHalf unit then
      match secondHalf? rest with
      | some (second, rest) =>
        some (Char.ofNat (0x10000 + (unit - 0xD800) * 0x400 + (second - 0xDC00)), rest)
      | none => some (none, rest)
    else if isSecondHalf unit then some (none, rest)
    else some (Char.ofNat unit, rest)

/-- The character of an escape, after its backslash. -/
def escape? : List Char → Reading (Option Char)
  | '"' :: rest => some ('"', rest)
  | '\\' :: rest => some ('\\', rest)
  | '/' :: rest => some ('/', rest)
  | 'b' :: rest => some (Char.ofNat 8, rest)
  | 'f' :: rest => some (Char.ofNat 12, rest)
  | 'n' :: rest => some ('\n', rest)
  | 'r' :: rest => some ('\r', rest)
  | 't' :: rest => some ('\t', rest)
  | 'u' :: rest => unicode? rest
  | _ => none

/-- What stands between quotes. -/
structure Quoted where
  text : String
  /-- It was written without escapes. -/
  literal : Bool
  /-- None of its characters is half a pair. -/
  whole : Bool

namespace Quoted

/-- The value that a text stands for. -/
def value (quoted : Quoted) : Datum := if quoted.whole then .text quoted.text else .torn

/-- The key that a text stands for: itself, or its bytes when it was written with escapes. -/
def key (quoted : Quoted) : Datum :=
  if !quoted.whole then .torn
  else if quoted.literal then .text quoted.text
  else .blob (Bytes.ofText quoted.text)

end Quoted

/-- Reads a text after its opening quote.  `fuel` bounds the number of characters. -/
def readQuoted : Nat → List Char → List Char → Bool → Bool → Reading Quoted
  | 0, _, _, _, _ => none
  | fuel + 1, text, seen, literal, whole =>
    match text with
    | [] => none
    | '"' :: rest => some (⟨String.ofList seen.reverse, literal, whole⟩, rest)
    | '\\' :: rest =>
      match escape? rest with
      | some (some c, rest) => readQuoted fuel rest (c :: seen) false whole
      | some (none, rest) => readQuoted fuel rest seen false false
      | none => none
    | c :: rest =>
      if c.toNat < 0x20 then none else readQuoted fuel rest (c :: seen) literal whole

end Adventure.Json
