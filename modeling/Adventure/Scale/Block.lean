import Adventure.Data.Bytes

/-!
# The `SCAL` block

A `SCAL` block is a run of entries of eight bytes: scale and height of the first
reference point, then of the second, low byte first.  The position of an entry
names the scale slot it fills, counted from one.  An entry whose scales are both
zero is unused.
-/

set_option autoImplicit false

namespace Adventure.ScaleBlock

/-- One vertical ramp and the slot it fills. -/
structure Entry where
  slot : UInt8
  scale1 : UInt16
  y1 : UInt16
  scale2 : UInt16
  y2 : UInt16
  deriving DecidableEq, Repr

/-- The size of one entry in bytes. -/
def entrySize : Nat := 8

/-- Why a block cannot be read: its length is no multiple of the entry size. -/
structure Error where
  length : Nat
  deriving DecidableEq, Repr

/-- The causes of a failure, outermost first. -/
def Error.trail (error : Error) : List String :=
  [s!"SCAL payload length {error.length} is not a multiple of {entrySize}"]

/-- Reads entries from a number of a slot on; a rest shorter than an entry is left alone. -/
def read : Nat → Bytes → List Entry
  | number, a0 :: a1 :: b0 :: b1 :: c0 :: c1 :: d0 :: d1 :: rest =>
    let entry : Entry :=
      ⟨UInt8.ofNat number, Bytes.wordLow a0 a1, Bytes.wordLow b0 b1, Bytes.wordLow c0 c1,
        Bytes.wordLow d0 d1⟩
    if entry.scale1 = 0 ∧ entry.scale2 = 0 then read (number + 1) rest
    else entry :: read (number + 1) rest
  | _, _ => []

/-- Reads a block. -/
def decode (input : Bytes) : Except Error (List Entry) :=
  if input.length % entrySize = 0 then .ok (read 1 input) else .error ⟨input.length⟩

end Adventure.ScaleBlock
