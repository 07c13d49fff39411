import Adventure.Data.Double
import Adventure.Datum.Basic

/-!
# Writing JSON

The textual notation, in a compact form and in a form with one value a line.  Every
text this module writes for plain data reads back as the same data.  Bytes are written
as lists of numbers, so that every datum of the game has a textual form.
-/

set_option autoImplicit false

namespace Adventure.Json

/-- One character of a text.  Quotes, backslashes and control characters are escaped. -/
def escaped (c : Char) : String :=
  if c = '"' then "\\\""
  else if c = '\\' then "\\\\"
  else if c = '\n' then "\\n"
  else if c = '\r' then "\\r"
  else if c = '\t' then "\\t"
  else if c.toNat = 8 then "\\b"
  else if c.toNat = 12 then "\\f"
  else if c.toNat < 0x20 then
    (("\\u00".push (Bytes.hexDigit (c.toNat / 16))).push (Bytes.hexDigit (c.toNat % 16)))
  else String.singleton c

/-- A text between quotes, added to what is written already. -/
def quoted (text : String) (done : String) : String :=
  (text.toList.foldl (fun done c => done ++ escaped c) (done.push '"')).push '"'

/-- The text of a key; keys that are no texts are written as empty ones. -/
def keyText : Datum → String
  | .text value => value
  | .blob bytes => (Bytes.text? bytes).getD ""
  | _ => ""

/-- A value without parts. -/
def scalarText (done : String) : Datum → String
  | .bool true => done ++ "true"
  | .bool false => done ++ "false"
  | .int value => done ++ value.repr
  | .bare value => done ++ value.repr
  | .float bits => done ++ (if Datum.isFinite bits then Double.toText bits else "null")
  | .text value => quoted value done
  | _ => done ++ "null"

/-- The spaces around the parts of a value. -/
structure Layout where
  /-- Line feed and indentation at a depth. -/
  line : Nat → String
  /-- Between a key and its value. -/
  colon : String

/-- No spaces at all. -/
def Layout.compact : Layout := ⟨fun _ => "", ":"⟩

/-- Every item and entry on a line of its own, two blanks deeper than what holds it. -/
def Layout.pretty : Layout :=
  ⟨fun depth => "\n" ++ String.ofList (List.replicate (2 * depth) ' '), ": "⟩

/-- The items of a list of bytes. -/
def byteItems (layout : Layout) (depth : Nat) : Bytes → String → String
  | [], done => done
  | [byte], done => done ++ layout.line depth ++ byte.toNat.repr
  | byte :: rest, done =>
    byteItems layout depth rest ((done ++ layout.line depth ++ byte.toNat.repr).push ',')

mutual

/-- A value at a depth, added to what is written already. -/
def write (layout : Layout) (depth : Nat) : Datum → String → String
  | .list [], done => done ++ "[]"
  | .list items, done =>
    (writeItems layout (depth + 1) items (done.push '[') ++ layout.line depth).push ']'
  | .map [], done => (done.push '\x7b').push '\x7d'
  | .map entries, done =>
    (writeEntries layout (depth + 1) entries (done.push '\x7b') ++ layout.line depth).push '\x7d'
  | .blob [], done => done ++ "[]"
  | .blob bytes, done =>
    (byteItems layout (depth + 1) bytes (done.push '[') ++ layout.line depth).push ']'
  | other, done => scalarText done other

/-- The items of a list, with commas between. -/
def writeItems (layout : Layout) (depth : Nat) : List Datum → String → String
  | [], done => done
  | item :: rest, done =>
    let done := write layout depth item (done ++ layout.line depth)
    writeItems layout depth rest (if rest.isEmpty then done else done.push ',')

/-- The entries of a map, with commas between. -/
def writeEntries (layout : Layout) (depth : Nat) : List (Datum × Datum) → String → String
  | [], done => done
  | (key, value) :: rest, done =>
    let done := quoted (keyText key) (done ++ layout.line depth) ++ layout.colon
    let done := write layout depth value done
    writeEntries layout depth rest (if rest.isEmpty then done else done.push ',')

end

/-- A value without spaces. -/
def compact (datum : Datum) : String := write .compact 0 datum ""

/-- A value with one item or entry a line. -/
def pretty (datum : Datum) : String := write .pretty 0 datum ""

end Adventure.Json
