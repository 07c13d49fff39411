import Adventure.Actor.Facing

/-!
# Actors

An actor has a place, a facing, a costume and the state of its current walk.  A
walk is a chain of straight legs; the bits of `Moving` say which part of a walk an
actor is in.
-/

set_option autoImplicit false

namespace Adventure

/-- Which part of a walk an actor is in.  Bits without a name are kept as they are. -/
structure Moving where
  bits : UInt8
  deriving DecidableEq, Repr, Inhabited

namespace Moving

/-- Standing still. -/
def still : Moving := ⟨0⟩

/-- The next leg has to be found. -/
def newLeg : UInt8 := 0x01

/-- The actor is on a leg. -/
def inLeg : UInt8 := 0x02

/-- The actor turns on the spot. -/
def turn : UInt8 := 0x04

/-- The leg is the last one. -/
def lastLeg : UInt8 := 0x08

/-- Whether every bit of a mask is set. -/
def has (moving : Moving) (mask : UInt8) : Bool := moving.bits &&& mask == mask

/-- The same state with the bits of a mask set. -/
def plus (moving : Moving) (mask : UInt8) : Moving := ⟨moving.bits ||| mask⟩

/-- The same state with the bits of a mask cleared. -/
def without (moving : Moving) (mask : UInt8) : Moving := ⟨moving.bits &&& ~~~mask⟩

/-- Only the bits of a mask. -/
def only (moving : Moving) (mask : UInt8) : Moving := ⟨moving.bits &&& mask⟩

end Moving

/-- The state of a walk.  Velocities are pixels in units of 1/65536. -/
structure WalkState where
  dest : Point
  destBox : Option BoxId
  destFacing : Option Int
  /-- The start of the current leg. -/
  legStart : Point
  /-- The end of the current leg. -/
  legEnd : Point
  curBox : Option BoxId
  /-- The border point the current leg heads for. -/
  checkpoint : Option Point
  deltaX : Int
  deltaY : Int
  fracX : UInt16
  fracY : UInt16
  deriving DecidableEq, Repr, Inhabited

namespace WalkState

/-- The state of an actor that has never walked. -/
def fresh : WalkState := ⟨⟨0, 0⟩, none, none, ⟨0, 0⟩, ⟨0, 0⟩, none, none, 0, 0, 0, 0⟩

end WalkState

/-- One actor. -/
structure Actor where
  number : UInt8
  room : UInt8
  pos : Point
  facing : Int
  targetFacing : Int
  moving : Moving
  speedX : Int
  speedY : Int
  walkBox : Option BoxId
  walk : WalkState
  ignoreBoxes : Bool
  scaleX : Int
  scaleY : Int
  costume : UInt16
  frame : UInt8
  initFrame : UInt8
  walkFrame : UInt8
  standFrame : UInt8
  needRedraw : Bool
  /-- Mirrored left to right whatever the box says. -/
  xFlipped : Bool
  /-- Mirrored top to bottom whatever the box says. -/
  yFlipped : Bool
  deriving DecidableEq, Repr, Inhabited

namespace Actor

/-- An actor that has not been placed yet. -/
def fresh (number : UInt8) : Actor :=
  { number := number
    room := 0
    pos := ⟨0, 0⟩
    facing := 180
    targetFacing := 180
    moving := .still
    speedX := 8
    speedY := 2
    walkBox := none
    walk := .fresh
    ignoreBoxes := false
    scaleX := 255
    scaleY := 255
    costume := 0
    frame := 0
    initFrame := 1
    walkFrame := 2
    standFrame := 3
    needRedraw := false
    xFlipped := false
    yFlipped := false }

/-- Whether any bit of the walk state is set. -/
def isMoving (actor : Actor) : Bool := actor.moving.bits != 0

/-- The actor standing still. -/
def stopMoving (actor : Actor) : Actor := { actor with moving := .still }

/-- The actor facing a direction at once, moved to an eighth of a turn. -/
def setDirection (actor : Actor) (angle : Int) : Actor :=
  if actor.facing = angle then actor
  else
    { actor with
      facing := Facing.normalize angle
      needRedraw := actor.needRedraw || actor.costume != 0 }

/-- The actor asked to turn to a direction step by step. -/
def turnTo (actor : Actor) : Option Int → Actor
  | some angle => { actor with targetFacing := angle, moving := ⟨Moving.turn⟩ }
  | none => actor

/-- The actor with other speeds. -/
def setSpeed (actor : Actor) (x y : Int) : Actor := { actor with speedX := x, speedY := y }

end Actor

/-- The actors of a game.  The first place is never driven. -/
abbrev Cast := List Actor

namespace Cast

/-- A cast of fresh actors, at least one. -/
def fresh (count : Nat) : Cast := (List.range (max count 1)).map fun n => Actor.fresh (UInt8.ofNat n)

/-- The actor with a number; there is no actor zero. -/
def get? (cast : Cast) (number : UInt8) : Option Actor :=
  if number = 0 then none else cast[number.toNat]?

/-- The cast with one actor replaced. -/
def put (cast : Cast) (number : UInt8) (actor : Actor) : Cast :=
  if number = 0 then cast else cast.set number.toNat actor

/-- The actors that can be driven. -/
def driven (cast : Cast) : List Actor := cast.drop 1

end Cast

end Adventure
