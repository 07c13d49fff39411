import Adventure.Datum.Json.Number

/-!
# Reading JSON

Reads one value of the textual notation, with nothing but blanks around it.  The lists
and maps that are opened and not yet closed are kept in a list, so values may be nested
to any depth.

A key of a map is its text.  Where keys stand for numbers they have to be written without
escapes, so a key with escapes is read as bytes instead; as the name of a field both forms
serve alike.
-/

set_option autoImplicit false

namespace Adventure.Json

/-- Blanks of the notation. -/
def isBlank (c : Char) : Bool := c == ' ' || c == '\n' || c == '\t' || c == '\r'

/-- What is left after blanks. -/
def skip (text : List Char) : List Char := text.dropWhile isBlank

/-! ## Values without parts -/

/-- Reads a fixed word. -/
def readWord (word : String) (value : Datum) (text : List Char) : Reading Datum :=
  let letters := word.toList
  if text.take letters.length = letters then some (value, text.drop letters.length) else none

/-- Reads a value without parts.  `size` bounds the length of the text. -/
def readScalar (size : Nat) : List Char → Reading Datum
  | '"' :: rest =>
    (readQuoted size rest [] true true).map fun found => (found.1.value, found.2)
  | 'n' :: rest => readWord "ull" .null rest
  | 't' :: rest => readWord "rue" (.bool true) rest
  | 'f' :: rest => readWord "alse" (.bool false) rest
  | text => readNumber text

/-- Reads a key and the colon after it. -/
def readKey (size : Nat) (text : List Char) : Reading Datum :=
  match skip text with
  | '"' :: rest =>
    match readQuoted size rest [] true true with
    | none => none
    | some (name, rest) =>
      match skip rest with
      | ':' :: rest => some (name.key, rest)
      | _ => none
  | _ => none

/-! ## Lists and maps -/

/-- A list or a map that is not closed yet: what it holds so far, last first, and for a
map the key whose value comes next. -/
inductive Opened where
  | list (seen : List Datum)
  | map (seen : List (Datum × Datum)) (key : Datum)

/-- How far reading has come. -/
inductive Progress where
  /-- The whole value is read. -/
  | complete (value : Datum)
  /-- A part comes next, of what is opened, innermost first. -/
  | pending (opened : List Opened)

/-- Puts a value into the innermost list or map that is opened, and closes those that end
after it. -/
def settle (size : Nat) : List Opened → Datum → List Char → Reading Progress
  | [], value, text => some (.complete value, text)
  | .list seen :: opened, value, text =>
    match skip text with
    | ',' :: rest => some (.pending (.list (value :: seen) :: opened), rest)
    | ']' :: rest => settle size opened (.list (value :: seen).reverse) rest
    | _ => none
  | .map seen key :: opened, value, text =>
    match skip text with
    | ',' :: rest =>
      (readKey size rest).map fun next =>
        (.pending (.map ((key, value) :: seen) next.1 :: opened), next.2)
    | '\x7d' :: rest => settle size opened (.map ((key, value) :: seen).reverse) rest
    | _ => none

/-- Reads a value without parts, or opens a list or a map. -/
def advance (size : Nat) (opened : List Opened) : List Char → Reading Progress
  | '[' :: rest =>
    match skip rest with
    | ']' :: rest => settle size opened (.list []) rest
    | rest => some (.pending (.list [] :: opened), rest)
  | '\x7b' :: rest =>
    match skip rest with
    | '\x7d' :: rest => settle size opened (.map []) rest
    | rest =>
      (readKey size rest).map fun first => (.pending (.map [] first.1 :: opened), first.2)
  | text =>
    match readScalar size text with
    | some (value, rest) => settle size opened value rest
    | none => none

/-- Reads on until the outermost value is complete.  `fuel` bounds the number of parts. -/
def readFrom (size : Nat) : Nat → List Opened → List Char → Reading Datum
  | 0, _, _ => none
  | fuel + 1, opened, text =>
    match advance size opened (skip text) with
    | none => none
    | some (.complete value, rest) => some (value, rest)
    | some (.pending opened, rest) => readFrom size fuel opened rest

/-- Reads one value with nothing but blanks around it. -/
def read? (text : String) : Option Datum :=
  let letters := text.toList
  let size := letters.length + 1
  match readFrom size size [] letters with
  | some (value, rest) => if (skip rest).isEmpty then some value else none
  | none => none

end Adventure.Json
