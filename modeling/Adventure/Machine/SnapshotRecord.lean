import Adventure.Machine.Snapshot
import Adventure.Script.Record

/-!
# Snapshots as records

Snapshots as they stand in save files.
-/

set_option autoImplicit false

namespace Adventure

open Datum (Fields Form)

namespace ScaleRamp

/-- The fields of a ramp. -/
def fieldNames : List String := ["x1", "y1", "scale1", "x2", "y2", "scale2"]

/-- A ramp as a record. -/
def toDatum (ramp : ScaleRamp) : Datum :=
  .record fieldNames
    [.int ramp.x1, .int ramp.y1, .int ramp.scale1, .int ramp.x2, .int ramp.y2, .int ramp.scale2]

/-- The fields of a ramp, one after the other. -/
def fields : Fields ScaleRamp := do
  let x1 ← Fields.required Datum.readInt32
  let y1 ← Fields.required Datum.readInt32
  let scale1 ← Fields.required Datum.readInt32
  let x2 ← Fields.required Datum.readInt32
  let y2 ← Fields.required Datum.readInt32
  let scale2 ← Fields.required Datum.readInt32
  pure { x1, y1, scale1, x2, y2, scale2 }

/-- The ramp that a record describes. -/
def ofDatum? : Datum → Option ScaleRamp := Datum.readRecord fieldNames false fields

end ScaleRamp

namespace RoomSnapshot

/-- The fields of a room snapshot. -/
def fieldNames : List String := ["number", "box_flags", "extra_flags", "scale_slots", "matrix"]

/-- A room snapshot as a record. -/
def toDatum (saved : RoomSnapshot) : Datum :=
  .record fieldNames
    [.byte saved.number, .blob saved.boxFlags, .listOf Datum.word saved.extraFlags,
      .listOf ScaleRamp.toDatum saved.ramps, .blob saved.matrix]

/-- The fields of a room snapshot, one after the other. -/
def fields : Fields RoomSnapshot := do
  let number ← Fields.required Datum.readByte
  let boxFlags ← Fields.required Datum.readBytes
  let extraFlags ← Fields.required (Datum.readList Datum.readWord)
  let ramps ← Fields.required (Datum.readList ScaleRamp.ofDatum?)
  let matrix ← Fields.required Datum.readBytes
  pure { number, boxFlags, extraFlags, ramps, matrix }

/-- The room snapshot that a record describes. -/
def ofDatum? : Datum → Option RoomSnapshot := Datum.readRecord fieldNames false fields

end RoomSnapshot

namespace Snapshot

/-- The fields of a snapshot. -/
def fieldNames : List String :=
  ["generation", "tick", "slots", "nest", "cutscenes", "override_active", "cutscene_script",
    "hooks", "vars", "ego", "actors", "room"]

/-- A snapshot as a record. -/
def toDatum (saved : Snapshot) : Datum :=
  .record fieldNames
    [.byte saved.generation, .nat saved.tick, .listOf Slot.toDatum saved.slots,
      saved.calls.toDatum, saved.cutscenes.toDatum, .bool saved.overrideActive,
      .maybe Datum.nat saved.cutsceneScript, saved.hooks.toDatum, .listOf Datum.int saved.vars,
      .maybe Datum.byte saved.ego, .listOf Actor.toDatum saved.actors, saved.room.toDatum]

/-- The fields of a snapshot, one after the other. -/
def fields (form : Form) : Fields Snapshot := do
  let generation ← Fields.required Datum.readByte
  let tick ← Fields.required Datum.readNat64
  let slots ← Fields.required (Datum.readList (Slot.ofDatum? form))
  let calls ← Fields.required (CallStack.ofDatum? form)
  let cutscenes ← Fields.required CutsceneStack.ofDatum?
  let overrideActive ← Fields.required Datum.readBool
  let cutsceneScript ← Fields.optional Datum.readNat64
  let hooks ← Fields.required CutsceneHooks.ofDatum?
  let vars ← Fields.required (Datum.readList Datum.readInt32)
  let ego ← Fields.optional Datum.readByte
  let actors ← Fields.required (Datum.readList Actor.ofDatum?)
  let room ← Fields.required RoomSnapshot.ofDatum?
  pure
    { generation, tick, slots, calls, cutscenes, overrideActive, cutsceneScript, hooks, vars, ego,
      actors, room }

/-- The snapshot that a record describes. -/
def ofDatum? (form : Form) : Datum → Option Snapshot :=
  Datum.readRecord fieldNames false (fields form)

end Snapshot

end Adventure
