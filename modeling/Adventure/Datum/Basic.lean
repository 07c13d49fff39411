import Adventure.Data.Bytes

/-!
# Self-describing data

A datum is a value that carries its own shape: a number, a text, a list, a map and
so on.  Scenario files and save files hold data, the former in a textual and the
latter in a binary notation.  The typed parts of the game are written as data and
read back from data.

Maps are lists of entries in the order in which they were written; keys may repeat,
and may be any datum.

Three kinds of data exist only where a notation is read: numbers that cannot serve as
names, and texts that turn out to be none.  Nothing in the game is written as one of
them, but a value that nobody asks for may hold them.
-/

set_option autoImplicit false

namespace Adventure

/-- A value that carries its own shape. -/
inductive Datum where
  | null
  | bool (value : Bool)
  | int (value : Int)
  /-- A count that is only a number.  Other whole numbers may also stand for the name at
  their position. -/
  | bare (value : Nat)
  /-- A double, given by its 64 bits. -/
  | float (bits : UInt64)
  | text (value : String)
  /-- What was to be a text, and whose bytes are not UTF-8. -/
  | garbled (bytes : Bytes)
  /-- What was to be a text, and in which half of a character is missing. -/
  | torn
  | blob (bytes : Bytes)
  | list (items : List Datum)
  | map (entries : List (Datum × Datum))
  /-- Bytes tagged with a code that only an application can read. -/
  | extension (code : UInt8) (bytes : Bytes)
  deriving Inhabited

namespace Datum

/-- A count. -/
def nat (n : Nat) : Datum := .int n

/-- A value that may be missing. -/
def maybe {α : Type} (write : α → Datum) : Option α → Datum
  | some value => write value
  | none => .null

/-- A list of values. -/
def listOf {α : Type} (write : α → Datum) (values : List α) : Datum := .list (values.map write)

/-- A record: a map from field names to values, in the order of the names. -/
def record (names : List String) (values : List Datum) : Datum :=
  .map ((names.map text).zip values)

/-! ## Maps with text keys -/

/-- A text; bytes that are valid UTF-8 serve too. -/
def readText : Datum → Option String
  | .text value => some value
  | .blob bytes => Bytes.text? bytes
  | _ => none

/-- Adds an entry to entries sorted by key; an entry with the same key is replaced. -/
def insertSorted (key : String) (value : Datum) :
    List (String × Datum) → List (String × Datum)
  | [] => [(key, value)]
  | (other, old) :: rest =>
    if key = other then (key, value) :: rest
    else if key < other then (key, value) :: (other, old) :: rest
    else (other, old) :: insertSorted key value rest

/-- The entries of a map as data. -/
def mapOf (entries : List (String × Datum)) : Datum :=
  .map (entries.map fun entry => (.text entry.1, entry.2))

/-- The value of a text key in a list of entries; the last entry of that key counts. -/
def lookup? (entries : List (Datum × Datum)) (key : String) : Option Datum :=
  entries.foldl (fun found entry =>
    match entry.1 with
    | .text name => if name = key then some entry.2 else found
    | _ => found) none

/-- The value of a field of a map. -/
def field? (datum : Datum) (key : String) : Option Datum :=
  match datum with
  | .map entries => lookup? entries key
  | _ => none

/-! ## Plain data -/

/-- Whether the bits of a double are those of a finite number. -/
def isFinite (bits : UInt64) : Bool := (bits >>> 52) &&& 0x7FF != 0x7FF

mutual

/-- The plain form of a datum: maps have text keys, sorted, one entry each, and numbers
are finite.  The last entry of a repeated key counts, a number that is not finite
becomes null, and data with bytes or with other keys have no plain form.  The first key
of a map has to be a text itself; for the others the bytes of a text serve too. -/
def plain? : Datum → Option Datum
  | .null => some .null
  | .bool value => some (.bool value)
  | .int value => some (.int value)
  | .bare value => some (.nat value)
  | .float bits => some (if isFinite bits then .float bits else .null)
  | .text value => some (.text value)
  | .garbled _ => none
  | .torn => none
  | .blob _ => none
  | .list items => (plainItems? items).map .list
  | .map [] => some (.map [])
  | .map ((.text name, value) :: rest) =>
    match plain? value with
    | some value => (plainEntries? rest [(name, value)]).map mapOf
    | none => none
  | .map _ => none
  | .extension _ _ => none

/-- The plain forms of the items of a list. -/
def plainItems? : List Datum → Option (List Datum)
  | [] => some []
  | item :: rest =>
    match plain? item, plainItems? rest with
    | some item, some rest => some (item :: rest)
    | _, _ => none

/-- The plain forms of the entries of a map, added to sorted ones. -/
def plainEntries? :
    List (Datum × Datum) → List (String × Datum) → Option (List (String × Datum))
  | [], sorted => some sorted
  | (key, value) :: rest, sorted =>
    match readText key, plain? value with
    | some name, some value => plainEntries? rest (insertSorted name value sorted)
    | _, _ => none

end

end Datum

end Adventure
