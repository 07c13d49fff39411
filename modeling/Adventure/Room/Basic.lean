import Adventure.Data.Bank
import Adventure.Routing.Block
import Adventure.Scale.Block
import Adventure.Scale.Ramp

/-!
# Rooms

A room is its walk boxes, the routing matrix that links them, twenty scale slots
and, for every box, a word of extra flags that biases or forces a facing.  Boxes,
rows and slots that do not exist are read as harmless defaults, never as errors.
-/

set_option autoImplicit false

namespace Adventure

/-- Geometry and routing of a room. -/
structure Room where
  number : UInt8
  boxes : List WalkBox
  matrix : Matrix
  ramps : Bank ScaleRamp 20
  extraFlags : List UInt16
  deriving DecidableEq

namespace Room

/-- A room with given boxes and routing, no ramps set and no extra flags. -/
def plain (number : UInt8) (boxes : List WalkBox) (matrix : Matrix) : Room :=
  ⟨number, boxes, matrix, .replicate 20 .blank, List.replicate boxes.length 0⟩

/-- The room without boxes that stands for "no room entered". -/
def nowhere : Room := plain 0 [] .empty

instance : Inhabited Room := ⟨nowhere⟩

/-- The box with a given number. -/
def box? (room : Room) (id : Option BoxId) : Option WalkBox :=
  match id with
  | some id => room.boxes[id.toNat]?
  | none => none

/-- The outline of a box. -/
def outline? (room : Room) (id : Option BoxId) : Option Outline :=
  (room.box? id).map (·.outline)

/-- The flags of a box; a box that does not exist has none. -/
def boxFlags (room : Room) (id : Option BoxId) : BoxFlags :=
  match room.box? id with
  | some box => box.flags
  | none => .none

/-- The extra flags of a box; a box that does not exist has none. -/
def extraFlagsOf (room : Room) (id : Option BoxId) : UInt16 :=
  match id with
  | some id => room.extraFlags.getD id.toNat 0
  | none => 0

/-- Sets the flags of a box.  A value with one of the two top bits set goes to the
extra flags, any other value replaces the flag byte. -/
def setBoxFlags (room : Room) (id : BoxId) (value : UInt16) : Room :=
  if value &&& 0xC000 ≠ 0 then { room with extraFlags := room.extraFlags.set id.toNat value }
  else
    { room with
      boxes := room.boxes.modify id.toNat fun box => { box with flags := ⟨value.toUInt8⟩ } }

/-- The facing in a box after its extra flags have forced or biased it. -/
def biasedDirection (room : Room) (id : Option BoxId) (direction : Int) : Int :=
  let extra := room.extraFlagsOf id
  let bias : Int := (extra &&& 0x3FFF).toNat
  if extra = 0 then direction
  else if extra &&& 0x8000 ≠ 0 then bias
  else if bias - 90 < direction ∧ direction < bias + 90 then bias
  else bias + 180

/-- Whether a box holds a point; a box that does not exist holds none. -/
def pointInBox (room : Room) (p : Point) (id : Option BoxId) : Checked Bool :=
  match room.outline? id with
  | some outline => outline.contains p
  | none => pure false

/-- The point of a box's outline nearest to a point, with the squared distance. -/
def closestOnBox (room : Room) (p : Point) (id : Option BoxId) : Checked (Option (Point × Nat)) :=
  match room.outline? id with
  | some outline => do
    let nearest ← outline.closest p
    pure (some nearest)
  | none => pure none

/-- The next box on the way between two boxes.  A hop into a box that the room lacks
counts as no way. -/
def nextBox (room : Room) (source target : Option BoxId) : Option BoxId :=
  match room.matrix.nextBox source target with
  | some hop => if hop.toNat < room.boxes.length then some hop else none
  | none => none

/-- The position of a scale slot that is counted from one. -/
def slotIndex? (slot : UInt8) : Option Nat :=
  if slot = 0 then none else some (slot.toNat - 1)

/-- Sets a scale slot, counted from one; a slot that does not exist is left alone. -/
def setRamp (room : Room) (slot : UInt8) (ramp : ScaleRamp) : Room :=
  match slotIndex? slot with
  | some index => { room with ramps := room.ramps.set index ramp }
  | none => room

/-- The ramp in a scale slot, counted from one. -/
def ramp? (room : Room) (slot : UInt8) : Option ScaleRamp :=
  match slotIndex? slot with
  | some index => room.ramps.get? index
  | none => none

/-- The scale of an actor at a point of a box. -/
def boxScale (room : Room) (id : Option BoxId) (p : Point) : Checked UInt8 :=
  match room.box? id with
  | none => pure 255
  | some box =>
    match box.scale with
    | .fixed value => pure (ScaleRamp.clampByte value.toNat)
    | .slot slot =>
      match room.ramp? slot with
      | some ramp => ramp.scaleAt p.x p.y
      | none => pure 255

/-- The flag bytes of all boxes. -/
def flagBytes (room : Room) : Bytes := room.boxes.map (·.flags.bits)

/-- The first values of `saved`, then what is left of `current`. -/
def overlayList {α : Type} (current saved : List α) : List α :=
  (saved.take current.length) ++ current.drop saved.length

/-- Puts saved flags, ramps and routing onto freshly loaded geometry.  Saved values
that have no box or slot are dropped, and boxes without a saved value keep theirs. -/
def restoreDynamic (room : Room) (flags : Bytes) (extra : List UInt16) (ramps : List ScaleRamp)
    (matrix : Matrix) : Room :=
  { room with
    boxes := (overlayList (room.boxes.map fun box => box.flags.bits) flags).zipWith
      (fun bits box => { box with flags := ⟨bits⟩ }) room.boxes
    extraFlags := overlayList room.extraFlags extra
    ramps := room.ramps.overlay ramps
    matrix := matrix }

end Room

end Adventure
