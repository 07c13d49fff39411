import Adventure.WalkBox.Basic
import Adventure.Data.Digits

/-!
# The `BOXD` block

A `BOXD` block is a count of boxes followed by one record of twenty bytes each.
The count takes one byte in early games and two in later ones.  Every number is
stored low byte first, and bytes after the declared records are ignored.
-/

set_option autoImplicit false

namespace Adventure.BoxBlock

/-- How many bytes the count of boxes takes. -/
inductive CountWidth where
  | byte
  | word
  deriving DecidableEq, Repr

namespace CountWidth

/-- The width in bytes. -/
def size : CountWidth → Nat
  | byte => 1
  | word => 2

/-- The greatest count of the width. -/
def limit : CountWidth → Nat
  | byte => 255
  | word => 65535

end CountWidth

/-- Why a block cannot be read or written. -/
inductive Error where
  | missingCount
  | tooShort (count available : Nat)
  | tooManyBoxes (width : CountWidth)
  deriving DecidableEq, Repr

/-- The size of one record in bytes. -/
def recordSize : Nat := 20

namespace Error

/-- The causes of a failure, outermost first. -/
def trail : Error → List String
  | missingCount => ["BOXD payload missing box count"]
  | tooShort count available =>
    [s!"BOXD declares {count} boxes ({count * recordSize} bytes) but only {available} bytes follow"]
  | tooManyBoxes .byte =>
    ["too many boxes for a single-byte count", Digits.ReadError.tooLarge.message]
  | tooManyBoxes .word => ["too many boxes", Digits.ReadError.tooLarge.message]

end Error

/-- The four bytes of a corner. -/
def encodePoint (p : StoredPoint) : Bytes :=
  Bytes.ofWordLow p.x.toUInt16 ++ Bytes.ofWordLow p.y.toUInt16

/-- The twenty bytes of a record. -/
def encodeRecord (r : BoxRecord) : Bytes :=
  encodePoint r.ul ++ encodePoint r.ur ++ encodePoint r.lr ++ encodePoint r.ll ++
    [r.mask, r.flags] ++ Bytes.ofWordLow r.scale

/-- The signed word with a given low and high byte. -/
def int16 (low high : UInt8) : Int16 := (Bytes.wordLow low high).toInt16

/-- Reads records from the front of a byte string; `none` when bytes run out. -/
def decodeRecords : Nat → Bytes → List BoxRecord → Option (List BoxRecord)
  | 0, _, seen => some seen.reverse
  | count + 1,
    a0 :: a1 :: a2 :: a3 :: b0 :: b1 :: b2 :: b3 :: c0 :: c1 :: c2 :: c3 ::
      d0 :: d1 :: d2 :: d3 :: mask :: flags :: s0 :: s1 :: rest, seen =>
    decodeRecords count rest
      (⟨⟨int16 a0 a1, int16 a2 a3⟩, ⟨int16 b0 b1, int16 b2 b3⟩, ⟨int16 c0 c1, int16 c2 c3⟩,
        ⟨int16 d0 d1, int16 d2 d3⟩, mask, flags, Bytes.wordLow s0 s1⟩ :: seen)
  | _ + 1, _, _ => none

/-- The declared count and the bytes after it. -/
def decodeCount : CountWidth → Bytes → Option (Nat × Bytes)
  | .byte, count :: body => some (count.toNat, body)
  | .word, low :: high :: body => some ((Bytes.wordLow low high).toNat, body)
  | _, _ => none

/-- Reads a block. -/
def decode (width : CountWidth) (input : Bytes) : Except Error (List BoxRecord) :=
  match decodeCount width input with
  | none => .error .missingCount
  | some (count, body) =>
    match decodeRecords count body [] with
    | some records => .ok records
    | none => .error (.tooShort count body.length)

/-- The bytes of a count of boxes. -/
def encodeCount : CountWidth → Nat → Bytes
  | .byte, count => [UInt8.ofNat count]
  | .word, count => Bytes.ofWordLow (UInt16.ofNat count)

/-- Writes a block. -/
def encode (width : CountWidth) (records : List BoxRecord) : Except Error Bytes :=
  if records.length ≤ width.limit then
    .ok (encodeCount width records.length ++ records.flatMap encodeRecord)
  else .error (.tooManyBoxes width)

end Adventure.BoxBlock
