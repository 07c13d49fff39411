import Adventure.Actor.Record
import Adventure.Machine.Basic

/-!
# Samples of a running game

A sample shows a game after a tick: where its actors are, which scripts are alive, and
what has been logged since the last sample.  Taking a sample empties the log.
-/

set_option autoImplicit false

namespace Adventure

/-- An actor in a sample. -/
structure ActorSample where
  number : UInt8
  room : UInt8
  position : Point
  facing : Int
  walkBox : Option BoxId
  moving : Bool
  scale : Int
  deriving DecidableEq, Repr

namespace ActorSample

/-- What a sample shows of an actor. -/
def ofActor (actor : Actor) : ActorSample :=
  { number := actor.number
    room := actor.room
    position := actor.pos
    facing := actor.facing
    walkBox := actor.walkBox
    moving := actor.isMoving
    scale := actor.scaleX }

/-- The actor of a sample as a record. -/
def toDatum (sample : ActorSample) : Datum :=
  .record ["number", "room", "position", "facing", "walk_box", "moving", "scale"]
    [.byte sample.number, .byte sample.room,
      .list [.int sample.position.x, .int sample.position.y], .int sample.facing,
      .maybe Datum.byte sample.walkBox, .bool sample.moving, .int sample.scale]

end ActorSample

/-- A live script in a sample. -/
structure SlotSample where
  slot : SlotId
  number : UInt16
  location : ScriptLocation
  status : SlotStatus
  offset : Nat
  frozen : Bool
  deriving DecidableEq, Repr

namespace SlotSample

/-- What a sample shows of a slot. -/
def ofSlot (id : SlotId) (slot : Slot) : SlotSample :=
  { slot := id
    number := slot.number
    location := slot.location
    status := slot.status
    offset := slot.offset
    frozen := slot.freezeCount != 0 }

/-- The script of a sample as a record. -/
def toDatum (sample : SlotSample) : Datum :=
  .record ["slot", "number", "location", "status", "offset", "frozen"]
    [.nat sample.slot, .word sample.number, .text sample.location.name, .text sample.status.name,
      .nat sample.offset, .bool sample.frozen]

end SlotSample

/-- A game after a tick, with what has been logged. -/
structure TickSample where
  tick : Nat
  room : UInt8
  cutsceneDepth : Nat
  /-- The actors that are in some room. -/
  actors : List ActorSample
  slots : List SlotSample
  events : List String
  deriving DecidableEq, Repr

namespace TickSample

/-- The fields of a sample. -/
def fieldNames : List String := ["tick", "room", "cutscene_depth", "actors", "slots", "events"]

/-- A sample as a record. -/
def toDatum (sample : TickSample) : Datum :=
  .record fieldNames
    [.nat sample.tick, .byte sample.room, .nat sample.cutsceneDepth,
      .listOf ActorSample.toDatum sample.actors, .listOf SlotSample.toDatum sample.slots,
      .listOf Datum.text sample.events]

end TickSample

namespace Machine

/-- The live slots with their indices. -/
def liveSlots (m : Machine) : List (SlotId × Slot) :=
  (m.slots.cells.zipIdx.filter fun entry => !entry.1.isDead).map fun entry => (entry.2, entry.1)

/-- A sample of a game as it is now. -/
def sample (m : Machine) : TickSample :=
  { tick := m.tick
    room := m.room.number
    cutsceneDepth := m.cutscenes.pointer.val
    actors := (m.cast.driven.filter fun actor => actor.room != 0).map .ofActor
    slots := m.liveSlots.map fun entry => .ofSlot entry.1 entry.2
    events := m.events }

/-- The game with an empty log. -/
def drained (m : Machine) : Machine := { m with events := [] }

end Machine

end Adventure
