import Adventure.Datum.Basic

/-!
# Typed values from data

Readers of the typed parts of a game.  A reader gives nothing when a datum does not fit
its type: a number outside its word, a list of the wrong length, a field that is
missing.

A record may be written in two ways: as a map from names to values, in any order, or as
the list of its values in order.  In a map each field may occur once.  Whether unknown
names are skipped or refused, and which fields may be missing, is up to the record.

A byte string serves as a list of small numbers.  Where a number of values is wanted it
may be longer, and what is too much is left alone; a list has to have the right length.
-/

set_option autoImplicit false

namespace Adventure.Datum

variable {α : Type}

/-! ## Values without fields -/

/-- A whole number between two bounds. -/
def readInt (low high : Int) : Datum → Option Int
  | .int value => if low ≤ value ∧ value ≤ high then some value else none
  | .bare value => if low ≤ (value : Int) ∧ (value : Int) ≤ high then some value else none
  | _ => none

/-- A signed word of 32 bits. -/
def readInt32 : Datum → Option Int := readInt (-2147483648) 2147483647

/-- An unsigned word of 64 bits. -/
def readNat64 (datum : Datum) : Option Nat :=
  (readInt 0 18446744073709551615 datum).map Int.toNat

/-- A byte. -/
def readByte (datum : Datum) : Option UInt8 :=
  (readInt 0 255 datum).map fun value => UInt8.ofNat value.toNat

/-- An unsigned word of 16 bits. -/
def readWord (datum : Datum) : Option UInt16 :=
  (readInt 0 65535 datum).map fun value => UInt16.ofNat value.toNat

/-- A truth value. -/
def readBool : Datum → Option Bool
  | .bool value => some value
  | _ => none

/-- A value that may be null. -/
def readMaybe (read : Datum → Option α) : Datum → Option (Option α)
  | .null => some none
  | datum => (read datum).map some

/-- Reads every item of a list. -/
def readItems (read : Datum → Option α) : List Datum → Option (List α)
  | [] => some []
  | item :: rest =>
    match read item, readItems read rest with
    | some value, some values => some (value :: values)
    | _, _ => none

/-- The numbers that a byte string consists of. -/
def octets (bytes : Bytes) : List Datum := bytes.map fun byte => .bare byte.toNat

/-- A list of values. -/
def readList (read : Datum → Option α) : Datum → Option (List α)
  | .list items => readItems read items
  | .blob bytes => readItems read (octets bytes)
  | _ => none

/-- A given number of values. -/
def readCount (count : Nat) (read : Datum → Option α) : Datum → Option (List α)
  | .list items => if items.length = count then readItems read items else none
  | .blob bytes =>
    if count ≤ bytes.length then readItems read (octets (bytes.take count)) else none
  | _ => none

/-- A byte string; a text, even a garbled one, or a list of numbers serves too. -/
def readBytes : Datum → Option Bytes
  | .blob bytes => some bytes
  | .text value => some (Bytes.ofText value)
  | .garbled bytes => some bytes
  | .list items => readItems readByte items
  | _ => none

/-! ## Names -/

/-- The notation a datum comes from.  Only the packed one may give names by number. -/
inductive Form where
  | packed
  | textual
  deriving DecidableEq, Repr

/-- The value with a name, which is given by a text, by bytes or by its position. -/
def namedBy? (form : Form) (name : α → String) (all : List α) : Datum → Option α
  | .text given => all.find? fun value => name value == given
  | .blob bytes => all.find? fun value => Bytes.ofText (name value) == bytes
  | .int position =>
    match form with
    | .packed => if 0 ≤ position then all[position.toNat]? else none
    | .textual => none
  | _ => none

/-- A value of a list, by its name; the name may stand alone or be the key of null. -/
def readName (form : Form) (name : α → String) (all : List α) : Datum → Option α
  | .map [(key, .null)] => namedBy? form name all key
  | datum => namedBy? form name all datum

/-! ## Records -/

/-- What a record holds for one of its fields. -/
inductive Found where
  | given (value : Datum)
  /-- The record is a byte string, and this is the byte of the field. -/
  | octet (byte : UInt8)
  /-- The record is a map without this field. -/
  | absent
  /-- The record is a list that ends before this field. -/
  | cutOff

/-- Which field a key names.  Some keys cannot name a field at all; others name one that
the record does not have. -/
def fieldIndex? (names : List String) : Datum → Option (Option Nat)
  | .text name => some (names.idxOf? name)
  | .blob bytes => some (names.findIdx? fun name => Bytes.ofText name == bytes)
  | .garbled _ => some none
  | .int position =>
    if 0 ≤ position then
      some (if position.toNat < names.length then some position.toNat else none)
    else none
  | _ => none

/-- Sorts entries into the fields they name.  A field that is named twice is refused, and
an unknown one too when the record is closed. -/
def place (names : List String) (closed : Bool) :
    List (Datum × Datum) → List Found → Option (List Found)
  | [], found => some found
  | (key, value) :: rest, found =>
    match fieldIndex? names key with
    | none => none
    | some none => if closed then none else place names closed rest found
    | some (some index) =>
      match found[index]? with
      | some .absent => place names closed rest (found.set index (.given value))
      | _ => none

/-- What a datum holds for each field of a record. -/
def fields? (names : List String) (closed : Bool) : Datum → Option (List Found)
  | .map entries => place names closed entries (List.replicate names.length .absent)
  | .list items =>
    if items.length ≤ names.length then
      some (items.map .given ++ List.replicate (names.length - items.length) .cutOff)
    else none
  | .blob bytes =>
    some ((bytes.take names.length).map .octet ++
      List.replicate (names.length - bytes.length) .cutOff)
  | _ => none

/-- Reads the fields of a record one after the other. -/
abbrev Fields := StateT (List Found) Option

namespace Fields

/-- The next field. -/
def next : Fields Found := fun found =>
  match found with
  | [] => none
  | first :: rest => some (first, rest)

/-- A field that has to be there. -/
def required (read : Datum → Option α) : Fields α := do
  match ← next with
  | .given value => StateT.lift (read value)
  | .octet byte => StateT.lift (read (.bare byte.toNat))
  | .absent => failure
  | .cutOff => failure

/-- A field that may be null, and may be missing from a map.  A byte cannot tell that it is
not null, so none serves. -/
def optional (read : Datum → Option α) : Fields (Option α) := do
  match ← next with
  | .given value => StateT.lift (readMaybe read value)
  | .octet _ => failure
  | .absent => pure none
  | .cutOff => failure

/-- A field with a value of its own when it is missing. -/
def defaulted (read : Datum → Option α) (value : α) : Fields α := do
  match ← next with
  | .given value => StateT.lift (read value)
  | .octet byte => StateT.lift (read (.bare byte.toNat))
  | .absent => pure value
  | .cutOff => pure value

/-- A field that may be null or missing. -/
def omittable (read : Datum → Option α) : Fields (Option α) := do
  match ← next with
  | .given value => StateT.lift (readMaybe read value)
  | .octet _ => failure
  | .absent => pure none
  | .cutOff => pure none

end Fields

/-- A record with given field names. -/
def readRecord (names : List String) (closed : Bool) (fields : Fields α) (datum : Datum) :
    Option α :=
  match fields? names closed datum with
  | some found => (fields.run found).map (·.1)
  | none => none

end Adventure.Datum
