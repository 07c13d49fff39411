import Adventure.Actor.Basic
import Adventure.Datum.Record

/-!
# Actors as records

Points, walks and actors as they stand in save files.  Writing lists the fields in the
order of their names; what is written reads back as the same value as long as every
number fits its word.
-/

set_option autoImplicit false

namespace Adventure

open Datum (Fields)

/-- A byte as a datum. -/
def Datum.byte (value : UInt8) : Datum := .nat value.toNat

/-- An unsigned word of 16 bits as a datum. -/
def Datum.word (value : UInt16) : Datum := .nat value.toNat

namespace Point

/-- The fields of a point. -/
def fieldNames : List String := ["x", "y"]

/-- A point as a record. -/
def toDatum (p : Point) : Datum := .record fieldNames [.int p.x, .int p.y]

/-- The fields of a point, one after the other. -/
def fields : Fields Point := do
  let x ← Fields.required Datum.readInt32
  let y ← Fields.required Datum.readInt32
  pure ⟨x, y⟩

/-- The point that a record describes. -/
def ofDatum? : Datum → Option Point := Datum.readRecord fieldNames false fields

end Point

namespace WalkState

/-- The fields of a walk. -/
def fieldNames : List String :=
  ["dest", "dest_box", "dest_dir", "cur", "next", "cur_box", "checkpoint", "delta_x", "delta_y",
    "x_frac", "y_frac"]

/-- A walk as a record. -/
def toDatum (walk : WalkState) : Datum :=
  .record fieldNames
    [walk.dest.toDatum, .maybe Datum.byte walk.destBox, .maybe Datum.int walk.destFacing,
      walk.legStart.toDatum, walk.legEnd.toDatum, .maybe Datum.byte walk.curBox,
      .maybe Point.toDatum walk.checkpoint, .int walk.deltaX, .int walk.deltaY,
      .word walk.fracX, .word walk.fracY]

/-- The fields of a walk, one after the other. -/
def fields : Fields WalkState := do
  let dest ← Fields.required Point.ofDatum?
  let destBox ← Fields.optional Datum.readByte
  let destFacing ← Fields.optional Datum.readInt32
  let legStart ← Fields.required Point.ofDatum?
  let legEnd ← Fields.required Point.ofDatum?
  let curBox ← Fields.optional Datum.readByte
  let checkpoint ← Fields.optional Point.ofDatum?
  let deltaX ← Fields.required Datum.readInt32
  let deltaY ← Fields.required Datum.readInt32
  let fracX ← Fields.required Datum.readWord
  let fracY ← Fields.required Datum.readWord
  pure
    { dest, destBox, destFacing, legStart, legEnd, curBox, checkpoint, deltaX, deltaY, fracX, fracY }

/-- The walk that a record describes. -/
def ofDatum? : Datum → Option WalkState := Datum.readRecord fieldNames false fields

end WalkState

namespace Actor

/-- The fields of an actor. -/
def fieldNames : List String :=
  ["number", "room", "pos", "facing", "target_facing", "moving", "speed_x", "speed_y", "walk_box",
    "walk", "ignore_boxes", "scale_x", "scale_y", "costume", "frame", "init_frame", "walk_frame",
    "stand_frame", "need_redraw", "x_flip_class", "y_flip_class"]

/-- An actor as a record. -/
def toDatum (actor : Actor) : Datum :=
  .record fieldNames
    [.byte actor.number, .byte actor.room, actor.pos.toDatum, .int actor.facing,
      .int actor.targetFacing, .byte actor.moving.bits, .int actor.speedX, .int actor.speedY,
      .maybe Datum.byte actor.walkBox, actor.walk.toDatum, .bool actor.ignoreBoxes,
      .int actor.scaleX, .int actor.scaleY, .word actor.costume, .byte actor.frame,
      .byte actor.initFrame, .byte actor.walkFrame, .byte actor.standFrame,
      .bool actor.needRedraw, .bool actor.xFlipped, .bool actor.yFlipped]

/-- The fields of an actor, one after the other. -/
def fields : Fields Actor := do
  let number ← Fields.required Datum.readByte
  let room ← Fields.required Datum.readByte
  let pos ← Fields.required Point.ofDatum?
  let facing ← Fields.required Datum.readInt32
  let targetFacing ← Fields.required Datum.readInt32
  let moving ← Fields.required Datum.readByte
  let speedX ← Fields.required Datum.readInt32
  let speedY ← Fields.required Datum.readInt32
  let walkBox ← Fields.optional Datum.readByte
  let walk ← Fields.required WalkState.ofDatum?
  let ignoreBoxes ← Fields.required Datum.readBool
  let scaleX ← Fields.required Datum.readInt32
  let scaleY ← Fields.required Datum.readInt32
  let costume ← Fields.required Datum.readWord
  let frame ← Fields.required Datum.readByte
  let initFrame ← Fields.required Datum.readByte
  let walkFrame ← Fields.required Datum.readByte
  let standFrame ← Fields.required Datum.readByte
  let needRedraw ← Fields.required Datum.readBool
  let xFlipped ← Fields.required Datum.readBool
  let yFlipped ← Fields.required Datum.readBool
  pure
    { number, room, pos, facing, targetFacing, moving := ⟨moving⟩, speedX, speedY, walkBox, walk,
      ignoreBoxes, scaleX, scaleY, costume, frame, initFrame, walkFrame, standFrame, needRedraw,
      xFlipped, yFlipped }

/-- The actor that a record describes. -/
def ofDatum? : Datum → Option Actor := Datum.readRecord fieldNames false fields

end Actor

end Adventure
