import Adventure.Data.Bytes
import Adventure.WalkBox.Outline

/-!
# Walk boxes

A walk box is an outline together with a mask, a byte of behaviour flags and a
rule for the scale of actors that stand in it.  A `BoxRecord` is the same thing as
room data stores it: signed words for the corners and one word for the scale.
-/

set_option autoImplicit false

namespace Adventure

/-- The number of a box in its room. -/
abbrev BoxId := UInt8

/-- The behaviour bits of a box; the low three bits hold a direction lock. -/
structure BoxFlags where
  bits : UInt8
  deriving DecidableEq, Repr, Inhabited

namespace BoxFlags

/-- No behaviour bits at all. -/
def none : BoxFlags := ⟨0⟩

/-- Actors are mirrored left to right. -/
def xFlip : UInt8 := 0x08

/-- Actors are mirrored top to bottom. -/
def yFlip : UInt8 := 0x10

/-- The box is meant for the player's actor; later games keep the scripted scale here. -/
def playerOnly : UInt8 := 0x20

/-- The box is locked. -/
def locked : UInt8 := 0x40

/-- The box takes no part in walking. -/
def invisible : UInt8 := 0x80

/-- Whether every bit of a mask is set. -/
def has (flags : BoxFlags) (mask : UInt8) : Bool := flags.bits &&& mask == mask

/-- The direction lock: zero for none, one to six for a lock. -/
def directionLock (flags : BoxFlags) : UInt8 := flags.bits &&& 0x07

end BoxFlags

/-- How actors that stand in a box are scaled. -/
inductive BoxScale where
  /-- Always by the same factor. -/
  | fixed (value : UInt16)
  /-- By the ramp in a scale slot, counted from one. -/
  | slot (number : UInt8)
  deriving DecidableEq, Repr, Inhabited

namespace BoxScale

/-- Reads the stored word: the top bit marks a slot, counted from zero. -/
def ofRaw (raw : UInt16) : BoxScale :=
  if raw &&& 0x8000 ≠ 0 then .slot (UInt8.ofNat (min ((raw &&& 0x7FFF).toNat + 1) 255))
  else .fixed raw

/-- The stored word of a scale rule. -/
def toRaw : BoxScale → UInt16
  | fixed value => value
  | slot number => 0x8000 ||| UInt16.ofNat (number.toNat - 1)

end BoxScale

/-- One walk box. -/
structure WalkBox where
  outline : Outline
  mask : UInt8
  flags : BoxFlags
  scale : BoxScale
  deriving DecidableEq, Repr, Inhabited

/-- A corner as room data stores it, in signed words of 16 bits. -/
structure StoredPoint where
  x : Int16
  y : Int16
  deriving DecidableEq, Repr, Inhabited

namespace StoredPoint

/-- The pixel a stored corner names. -/
def toPoint (p : StoredPoint) : Point := ⟨p.x.toInt, p.y.toInt⟩

/-- The stored form of a pixel; coordinates keep their low 16 bits. -/
def ofPoint (p : Point) : StoredPoint := ⟨Int16.ofInt p.x, Int16.ofInt p.y⟩

end StoredPoint

/-- One walk box as room data stores it. -/
structure BoxRecord where
  ul : StoredPoint
  ur : StoredPoint
  lr : StoredPoint
  ll : StoredPoint
  mask : UInt8
  flags : UInt8
  scale : UInt16
  deriving DecidableEq, Repr, Inhabited

namespace BoxRecord

/-- The scale slot of a record, counted from one, when it has one that fits a byte. -/
def scaleSlot? (record : BoxRecord) : Option UInt8 :=
  if record.scale &&& 0x8000 = 0 then none
  else if (record.scale &&& 0x7FFF).toNat + 1 < 256 then
    some (UInt8.ofNat ((record.scale &&& 0x7FFF).toNat + 1))
  else none

end BoxRecord

namespace WalkBox

/-- The walk box that a record describes. -/
def ofRecord (record : BoxRecord) : WalkBox :=
  ⟨⟨record.ul.toPoint, record.ur.toPoint, record.lr.toPoint, record.ll.toPoint⟩,
    record.mask, ⟨record.flags⟩, .ofRaw record.scale⟩

/-- The record of a walk box; corners keep their low 16 bits. -/
def toRecord (box : WalkBox) : BoxRecord :=
  ⟨.ofPoint box.outline.ul, .ofPoint box.outline.ur, .ofPoint box.outline.lr,
    .ofPoint box.outline.ll, box.mask, box.flags.bits, box.scale.toRaw⟩

/-- Whether a box takes no part in walking. -/
def isInvisible (box : WalkBox) : Bool := box.flags.has BoxFlags.invisible

end WalkBox

end Adventure
