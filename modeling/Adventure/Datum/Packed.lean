import Adventure.Datum.Basic

/-!
# The packed notation

The binary notation of save files, MessagePack.  A leading byte tells the kind of a
value and, for small values, the value itself; longer values are preceded by their
length, high byte first.

Writing takes the shortest leading byte that serves.  Reading accepts every form, and
gives back what is left after one value.  Lists, maps and extensions may be nested up to
a limit.  A count in a form with room for a sign is read as a bare number.
-/

set_option autoImplicit false

namespace Adventure.Packed

open Adventure (Datum Bytes)

/-! ## Writing -/

/-- A leading byte followed by a number of `width` bytes. -/
def tagged (tag : UInt8) (width value : Nat) : Bytes := tag :: Bytes.ofNatHigh width value

/-- A whole number. -/
def writeInt (value : Int) : Bytes :=
  if 0 ≤ value then
    let n := value.toNat
    if n < 0x80 then [UInt8.ofNat n]
    else if n < 0x100 then tagged 0xCC 1 n
    else if n < 0x10000 then tagged 0xCD 2 n
    else if n < 0x100000000 then tagged 0xCE 4 n
    else tagged 0xCF 8 n
  else
    if -32 ≤ value then [UInt8.ofNat (value + 0x100).toNat]
    else if -0x80 ≤ value then tagged 0xD0 1 (value + 0x100).toNat
    else if -0x8000 ≤ value then tagged 0xD1 2 (value + 0x10000).toNat
    else if -0x80000000 ≤ value then tagged 0xD2 4 (value + 0x100000000).toNat
    else tagged 0xD3 8 (value + 0x10000000000000000).toNat

/-- The head of a text of a given length in bytes. -/
def textHead (length : Nat) : Bytes :=
  if length < 32 then [UInt8.ofNat (0xA0 + length)]
  else if length < 0x100 then tagged 0xD9 1 length
  else if length < 0x10000 then tagged 0xDA 2 length
  else tagged 0xDB 4 length

/-- The head of a byte string of a given length. -/
def blobHead (length : Nat) : Bytes :=
  if length < 0x100 then tagged 0xC4 1 length
  else if length < 0x10000 then tagged 0xC5 2 length
  else tagged 0xC6 4 length

/-- The head of a list of a given length. -/
def listHead (length : Nat) : Bytes :=
  if length < 16 then [UInt8.ofNat (0x90 + length)]
  else if length < 0x10000 then tagged 0xDC 2 length
  else tagged 0xDD 4 length

/-- The head of a map with a given number of entries. -/
def mapHead (length : Nat) : Bytes :=
  if length < 16 then [UInt8.ofNat (0x80 + length)]
  else if length < 0x10000 then tagged 0xDE 2 length
  else tagged 0xDF 4 length

/-- The head of tagged bytes of a given length. -/
def extensionHead (length : Nat) : Bytes :=
  if length < 0x100 then tagged 0xC7 1 length
  else if length < 0x10000 then tagged 0xC8 2 length
  else tagged 0xC9 4 length

mutual

/-- The bytes of a value. -/
def write : Datum → Bytes
  | .null => [0xC0]
  | .bool false => [0xC2]
  | .bool true => [0xC3]
  | .int value => writeInt value
  | .bare value => tagged 0xD3 8 value
  | .float bits => tagged 0xCB 8 bits.toNat
  | .text value =>
    let bytes := Bytes.ofText value
    textHead bytes.length ++ bytes
  | .garbled bytes => textHead bytes.length ++ bytes
  | .torn => textHead 0
  | .blob bytes => blobHead bytes.length ++ bytes
  | .list items => listHead items.length ++ writeItems items
  | .map entries => mapHead entries.length ++ writeEntries entries
  | .extension code bytes => extensionHead bytes.length ++ code :: bytes

/-- The bytes of the items of a list, one after the other. -/
def writeItems : List Datum → Bytes
  | [] => []
  | item :: rest => write item ++ writeItems rest

/-- The bytes of the entries of a map, each key before its value. -/
def writeEntries : List (Datum × Datum) → Bytes
  | [] => []
  | (key, value) :: rest => write key ++ (write value ++ writeEntries rest)

end

/-! ## Reading -/

/-- What reading gives: a value and what is left. -/
abbrev Reading (α : Type) := Option (α × Bytes)

/-- Reads a number of `width` bytes. -/
def readNat (width : Nat) (bytes : Bytes) : Reading Nat :=
  (Bytes.split? width bytes).map fun parts => (Bytes.natHigh parts.1, parts.2)

/-- Reads a number of `width` bytes whose highest bit counts negative. -/
def readSigned (width : Nat) (bytes : Bytes) : Reading Datum :=
  (readNat width bytes).map fun found =>
    (if 2 * found.1 < Nat.pow 256 width then .bare found.1
      else .int ((found.1 : Int) - (Nat.pow 256 width : Nat)), found.2)

/-- Reads a number of `width` bytes. -/
def readUnsigned (width : Nat) (bytes : Bytes) : Reading Datum :=
  (readNat width bytes).map fun found => (.nat found.1, found.2)

/-- Reads a text of a given length. -/
def readText (length : Nat) (bytes : Bytes) : Reading Datum :=
  (Bytes.split? length bytes).map fun parts =>
    (match Bytes.text? parts.1 with
      | some value => .text value
      | none => .garbled parts.1, parts.2)

/-- Reads a byte string of a given length. -/
def readBlob (length : Nat) (bytes : Bytes) : Reading Datum :=
  (Bytes.split? length bytes).map fun parts => (.blob parts.1, parts.2)

/-- Reads a code and then bytes of a given length. -/
def readExtension (length : Nat) : Bytes → Reading Datum
  | [] => none
  | code :: bytes =>
    (Bytes.split? length bytes).map fun parts => (.extension code parts.1, parts.2)

/-- Reads a double. -/
def readDouble (bytes : Bytes) : Reading Datum :=
  (readNat 8 bytes).map fun found => (.float (UInt64.ofNat found.1), found.2)

/-- Reads a float of 32 bits as the double of the same value. -/
def readSingle (bytes : Bytes) : Reading Datum :=
  (readNat 4 bytes).map fun found =>
    (.float (Float32.ofBits (UInt32.ofNat found.1)).toFloat.toBits, found.2)

/-- Reads a length of `width` bytes and then what has that length. -/
def sized (width : Nat) (read : Nat → Bytes → Reading Datum) (bytes : Bytes) : Reading Datum :=
  match readNat width bytes with
  | some (length, rest) => read length rest
  | none => none

/-- Reads a number of items. -/
def readItems (item : Bytes → Reading Datum) : Nat → Bytes → List Datum → Reading (List Datum)
  | 0, bytes, seen => some (seen.reverse, bytes)
  | count + 1, bytes, seen =>
    match item bytes with
    | some (value, rest) => readItems item count rest (value :: seen)
    | none => none

/-- Reads a number of entries. -/
def readEntries (item : Bytes → Reading Datum) :
    Nat → Bytes → List (Datum × Datum) → Reading (List (Datum × Datum))
  | 0, bytes, seen => some (seen.reverse, bytes)
  | count + 1, bytes, seen =>
    match item bytes with
    | none => none
    | some (key, rest) =>
      match item rest with
      | none => none
      | some (value, rest) => readEntries item count rest ((key, value) :: seen)

/-- Reads a list of a given length. -/
def readList (item : Bytes → Reading Datum) (length : Nat) (bytes : Bytes) : Reading Datum :=
  (readItems item length bytes []).map fun found => (.list found.1, found.2)

/-- Reads a map with a given number of entries. -/
def readMap (item : Bytes → Reading Datum) (length : Nat) (bytes : Bytes) : Reading Datum :=
  (readEntries item length bytes []).map fun found => (.map found.1, found.2)

/-- Reads a value that is neither a list nor a map, by its leading byte. -/
def readScalar (tag : UInt8) (bytes : Bytes) : Reading Datum :=
  let n := tag.toNat
  if n < 0x80 then some (.nat n, bytes)
  else if 0xE0 ≤ n then some (.int (n - 0x100), bytes)
  else if 0xA0 ≤ n ∧ n < 0xC0 then readText (n - 0xA0) bytes
  else if n = 0xC0 then some (.null, bytes)
  else if n = 0xC2 then some (.bool false, bytes)
  else if n = 0xC3 then some (.bool true, bytes)
  else if n = 0xC4 then sized 1 readBlob bytes
  else if n = 0xC5 then sized 2 readBlob bytes
  else if n = 0xC6 then sized 4 readBlob bytes
  else if n = 0xC7 then sized 1 readExtension bytes
  else if n = 0xC8 then sized 2 readExtension bytes
  else if n = 0xC9 then sized 4 readExtension bytes
  else if n = 0xCA then readSingle bytes
  else if n = 0xCB then readDouble bytes
  else if n = 0xCC then readUnsigned 1 bytes
  else if n = 0xCD then readUnsigned 2 bytes
  else if n = 0xCE then readUnsigned 4 bytes
  else if n = 0xCF then readUnsigned 8 bytes
  else if n = 0xD0 then readSigned 1 bytes
  else if n = 0xD1 then readSigned 2 bytes
  else if n = 0xD2 then readSigned 4 bytes
  else if n = 0xD3 then readSigned 8 bytes
  else if n = 0xD4 then readExtension 1 bytes
  else if n = 0xD5 then readExtension 2 bytes
  else if n = 0xD6 then readExtension 4 bytes
  else if n = 0xD7 then readExtension 8 bytes
  else if n = 0xD8 then readExtension 16 bytes
  else if n = 0xD9 then sized 1 readText bytes
  else if n = 0xDA then sized 2 readText bytes
  else if n = 0xDB then sized 4 readText bytes
  else none

/-- How many items or entries follow a leading byte, if it is that of a list or a map;
`true` stands for a map. -/
def containerHead? (tag : UInt8) (bytes : Bytes) : Option (Bool × Reading Nat) :=
  let n := tag.toNat
  if 0x80 ≤ n ∧ n < 0x90 then some (true, some (n - 0x80, bytes))
  else if 0x90 ≤ n ∧ n < 0xA0 then some (false, some (n - 0x90, bytes))
  else if n = 0xDC then some (false, readNat 2 bytes)
  else if n = 0xDD then some (false, readNat 4 bytes)
  else if n = 0xDE then some (true, readNat 2 bytes)
  else if n = 0xDF then some (true, readNat 4 bytes)
  else none

/-- Whether a leading byte is that of an extension. -/
def isExtension (tag : UInt8) : Bool :=
  let n := tag.toNat
  (0xC7 ≤ n && n ≤ 0xC9) || (0xD4 ≤ n && n ≤ 0xD8)

/-- Reads one value in which lists, maps and extensions are nested at most `depth` deep. -/
def readWithin (depth : Nat) : Bytes → Reading Datum
  | [] => none
  | tag :: bytes =>
    match containerHead? tag bytes with
    | none => if depth = 0 && isExtension tag then none else readScalar tag bytes
    | some (_, none) => none
    | some (isMap, some (length, rest)) =>
      match depth with
      | 0 => none
      | depth + 1 =>
        if isMap then readMap (readWithin depth) length rest
        else readList (readWithin depth) length rest

/-- How deep lists, maps and extensions may be nested. -/
def depthLimit : Nat := 1023

/-- Reads one value; what follows it does not matter. -/
def read? (bytes : Bytes) : Option Datum := (readWithin depthLimit bytes).map (·.1)

end Adventure.Packed
