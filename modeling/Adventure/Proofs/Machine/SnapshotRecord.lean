import Adventure.Machine.SnapshotRecord
import Adventure.Proofs.Datum.Record

/-!
# Snapshots read back

Every part of a snapshot, written as a record, reads back as itself, as long as its numbers
fit into their words: numbers of actors, scripts and ramps into 32 bits with a sign, offsets,
slots and ticks into 64 bits.  The turn mark of a slot is not written; it reads back as
cleared.

Parts are nested in one another at most five deep.
-/

set_option autoImplicit false

namespace Adventure

open Datum (Form Fills Stores readMaybe readName)
open Word (Fits32)

/-! ## Actors -/

namespace Point

/-- Both coordinates fit. -/
structure Fits (p : Point) : Prop where
  x : Fits32 p.x
  y : Fits32 p.y

theorem stores (depth : Nat) {p : Point} (fits : p.Fits) :
    Stores (depth + 1) ofDatum? p.toDatum p :=
  .record (by decide) rfl <|
    .required (.int32 depth fits.x) <|
    .required (.int32 depth fits.y) <|
    .pure p

end Point

namespace WalkState

/-- The points and numbers of a walk fit. -/
structure Fits (walk : WalkState) : Prop where
  dest : walk.dest.Fits
  destFacing : ∀ facing ∈ walk.destFacing, Fits32 facing
  legStart : walk.legStart.Fits
  legEnd : walk.legEnd.Fits
  checkpoint : ∀ point ∈ walk.checkpoint, point.Fits
  deltaX : Fits32 walk.deltaX
  deltaY : Fits32 walk.deltaY

theorem stores (depth : Nat) {walk : WalkState} (fits : walk.Fits) :
    Stores (depth + 2) ofDatum? walk.toDatum walk := by
  have checkpoint : Stores (depth + 1) (readMaybe Point.ofDatum?)
      (.maybe Point.toDatum walk.checkpoint) walk.checkpoint :=
    .maybe (fun point same => Point.stores depth (fits.checkpoint point same))
      fun _ => Datum.noConfusion
  exact .record (by decide) rfl <|
    .required (Point.stores depth fits.dest) <|
    .optional (.maybeByte _ walk.destBox) <|
    .optional (.maybeInt32 _ fits.destFacing) <|
    .required (Point.stores depth fits.legStart) <|
    .required (Point.stores depth fits.legEnd) <|
    .optional (.maybeByte _ walk.curBox) <|
    .optional checkpoint <|
    .required (.int32 _ fits.deltaX) <|
    .required (.int32 _ fits.deltaY) <|
    .required (.word _ walk.fracX) <|
    .required (.word _ walk.fracY) <|
    .pure walk

end WalkState

namespace Actor

/-- The position, the walk and the numbers of an actor fit. -/
structure Fits (actor : Actor) : Prop where
  pos : actor.pos.Fits
  facing : Fits32 actor.facing
  targetFacing : Fits32 actor.targetFacing
  speedX : Fits32 actor.speedX
  speedY : Fits32 actor.speedY
  walk : actor.walk.Fits
  scaleX : Fits32 actor.scaleX
  scaleY : Fits32 actor.scaleY

/-- An actor that has not been placed yet fits. -/
theorem fresh_fits (number : UInt8) : (fresh number).Fits := by
  have origin : Point.Fits ⟨0, 0⟩ := ⟨by decide, by decide⟩
  have still : WalkState.fresh.Fits :=
    ⟨origin, nofun, origin, origin, nofun, by decide, by decide⟩
  have south : Fits32 180 := by decide
  have full : Fits32 255 := by decide
  exact ⟨origin, south, south, (by decide : Fits32 8), (by decide : Fits32 2), still, full, full⟩

theorem stores (depth : Nat) {actor : Actor} (fits : actor.Fits) :
    Stores (depth + 3) ofDatum? actor.toDatum actor :=
  .record (by decide) rfl <|
    .required (.byte _ actor.number) <|
    .required (.byte _ actor.room) <|
    .required (Point.stores _ fits.pos) <|
    .required (.int32 _ fits.facing) <|
    .required (.int32 _ fits.targetFacing) <|
    .required (.byte _ actor.moving.bits) <|
    .required (.int32 _ fits.speedX) <|
    .required (.int32 _ fits.speedY) <|
    .optional (.maybeByte _ actor.walkBox) <|
    .required (WalkState.stores depth fits.walk) <|
    .required (.bool _ actor.ignoreBoxes) <|
    .required (.int32 _ fits.scaleX) <|
    .required (.int32 _ fits.scaleY) <|
    .required (.word _ actor.costume) <|
    .required (.byte _ actor.frame) <|
    .required (.byte _ actor.initFrame) <|
    .required (.byte _ actor.walkFrame) <|
    .required (.byte _ actor.standFrame) <|
    .required (.bool _ actor.needRedraw) <|
    .required (.bool _ actor.xFlipped) <|
    .required (.bool _ actor.yFlipped) <|
    .pure actor

end Actor

/-! ## Scripts -/

theorem SlotStatus.stores (depth : Nat) (form : Form) (status : SlotStatus) :
    Stores depth (readName form name all) (.text status.name) status :=
  .named depth form (by cases status <;> decide) (by cases status <;> decide)

theorem ScriptLocation.stores (depth : Nat) (form : Form) (location : ScriptLocation) :
    Stores depth (readName form name all) (.text location.name) location :=
  .named depth form (by cases location <;> decide) (by cases location <;> decide)

namespace Slot

/-- The offset, the delay and the local variables of a slot fit. -/
structure Fits (slot : Slot) : Prop where
  offset : slot.offset < 2 ^ 64
  delay : Fits32 slot.delay
  locals : ∀ value ∈ slot.locals.cells, Fits32 value

theorem stores (depth : Nat) (form : Form) {slot : Slot} (fits : slot.Fits)
    (rested : slot.executed = false) :
    Stores (depth + 2) (ofDatum? form) slot.toDatum slot := by
  have cells : Stores (depth + 1) (Datum.readCount 25 Datum.readInt32)
      (.listOf Datum.int slot.locals.cells) slot.locals.cells :=
    .count fun value listed => .int32 depth (fits.locals value listed)
  have locals : Stores (depth + 1) readLocals (.listOf Datum.int slot.locals.cells) slot.locals := by
    refine ⟨cells.packable, ?_⟩
    rw [readLocals, cells.reads]
    exact Bank.ofList?_cells slot.locals
  have same : { slot with executed := false } = slot := by rw [← rested]
  have fills : Fills (depth + 1) (fields form) _ { slot with executed := false } :=
    .required (.word _ slot.number) <|
    .required (SlotStatus.stores _ form slot.status) <|
    .required (ScriptLocation.stores _ form slot.location) <|
    .required (.nat64 _ fits.offset) <|
    .required (.int32 _ fits.delay) <|
    .required (.bool _ slot.freezeResistant) <|
    .required (.bool _ slot.recursive) <|
    .required (.byte _ slot.cutsceneOverride) <|
    .required (.byte _ slot.freezeCount) <|
    .required locals <|
    .pure _
  rw [same] at fills
  exact .record (by decide) rfl fills

end Slot

namespace CallFrame

/-- The slot of a call fits. -/
def Fits (frame : CallFrame) : Prop := ∀ id ∈ frame.slot, id < 2 ^ 64

theorem stores (depth : Nat) (form : Form) {frame : CallFrame} (fits : frame.Fits) :
    Stores (depth + 1) (ofDatum? form) frame.toDatum frame :=
  .record (by decide) rfl <|
    .required (.word _ frame.number) <|
    .required (ScriptLocation.stores _ form frame.location) <|
    .optional (.maybeNat64 depth fits) <|
    .pure frame

end CallFrame

theorem CallStack.stores (depth : Nat) (form : Form) {stack : CallStack}
    (fits : ∀ frame ∈ stack, frame.Fits) :
    Stores (depth + 3) (ofDatum? form) stack.toDatum stack := by
  have frames : Stores (depth + 2) (Datum.readList (CallFrame.ofDatum? form))
      (.listOf CallFrame.toDatum stack.reverse) stack.reverse :=
    .listOf fun frame listed => CallFrame.stores depth form (fits frame (List.mem_reverse.mp listed))
  have fills : Fills (depth + 2) (fields form) _ stack.reverse.reverse :=
    .required frames <| .pure _
  rw [List.reverse_reverse] at fills
  exact .record (by decide) rfl fills

namespace CutsceneFrame

/-- The numbers of a cutscene fit. -/
structure Fits (frame : CutsceneFrame) : Prop where
  data : Fits32 frame.data
  resumeOffset : ∀ offset ∈ frame.resumeOffset, offset < 2 ^ 64
  ownerSlot : ∀ id ∈ frame.ownerSlot, id < 2 ^ 64

theorem stores (depth : Nat) {frame : CutsceneFrame} (fits : frame.Fits) :
    Stores (depth + 1) ofDatum? frame.toDatum frame :=
  .record (by decide) rfl <|
    .required (.int32 depth fits.data) <|
    .optional (.maybeNat64 depth fits.resumeOffset) <|
    .optional (.maybeNat64 depth fits.ownerSlot) <|
    .pure frame

end CutsceneFrame

theorem CutsceneStack.stores (depth : Nat) {stack : CutsceneStack}
    (fits : ∀ frame ∈ stack.frames.cells, frame.Fits) :
    Stores (depth + 3) ofDatum? stack.toDatum stack := by
  have cells : Stores (depth + 2) (Datum.readCount 5 CutsceneFrame.ofDatum?)
      (.listOf CutsceneFrame.toDatum stack.frames.cells) stack.frames.cells :=
    .count fun frame listed => CutsceneFrame.stores depth (fits frame listed)
  have frames : Stores (depth + 2) readFrames
      (.listOf CutsceneFrame.toDatum stack.frames.cells) stack.frames := by
    refine ⟨cells.packable, ?_⟩
    rw [readFrames, cells.reads]
    exact Bank.ofList?_cells stack.frames
  have index : Stores (depth + 2) Datum.readNat64 (.nat stack.pointer.val) stack.pointer.val :=
    .nat64 _ (stack.pointer.isLt.trans (by decide))
  have pointer : Stores (depth + 2) readPointer (.nat stack.pointer.val) stack.pointer := by
    refine ⟨index.packable, ?_⟩
    rw [readPointer, index.reads]
    exact dif_pos stack.pointer.isLt
  exact .record (by decide) rfl <| .required frames <| .required pointer <| .pure stack

theorem CutsceneHooks.stores (depth : Nat) (hooks : CutsceneHooks) :
    Stores (depth + 1) ofDatum? hooks.toDatum hooks :=
  .record (by decide) rfl <|
    .required (.word depth hooks.start) <|
    .required (.word depth hooks.stop) <|
    .pure hooks

/-! ## Rooms and games -/

namespace ScaleRamp

/-- The numbers of a ramp fit. -/
structure Fits (ramp : ScaleRamp) : Prop where
  x1 : Fits32 ramp.x1
  y1 : Fits32 ramp.y1
  scale1 : Fits32 ramp.scale1
  x2 : Fits32 ramp.x2
  y2 : Fits32 ramp.y2
  scale2 : Fits32 ramp.scale2

theorem stores (depth : Nat) {ramp : ScaleRamp} (fits : ramp.Fits) :
    Stores (depth + 1) ofDatum? ramp.toDatum ramp :=
  .record (by decide) rfl <|
    .required (.int32 depth fits.x1) <|
    .required (.int32 depth fits.y1) <|
    .required (.int32 depth fits.scale1) <|
    .required (.int32 depth fits.x2) <|
    .required (.int32 depth fits.y2) <|
    .required (.int32 depth fits.scale2) <|
    .pure ramp

end ScaleRamp

namespace RoomSnapshot

/-- The ramps of a room fit. -/
def Fits (saved : RoomSnapshot) : Prop := ∀ ramp ∈ saved.ramps, ramp.Fits

/-- **The snapshot of a room reads back.** -/
theorem stores (depth : Nat) {saved : RoomSnapshot} (fits : saved.Fits) :
    Stores (depth + 3) ofDatum? saved.toDatum saved := by
  have extraFlags : Stores (depth + 2) (Datum.readList Datum.readWord)
      (.listOf Datum.word saved.extraFlags) saved.extraFlags :=
    .listOf fun flags _ => .word _ flags
  have ramps : Stores (depth + 2) (Datum.readList ScaleRamp.ofDatum?)
      (.listOf ScaleRamp.toDatum saved.ramps) saved.ramps :=
    .listOf fun ramp listed => ScaleRamp.stores depth (fits ramp listed)
  exact .record (by decide) rfl <|
    .required (.byte _ saved.number) <|
    .required (.blob _ saved.boxFlags) <|
    .required extraFlags <|
    .required ramps <|
    .required (.blob _ saved.matrix) <|
    .pure saved

end RoomSnapshot

namespace Snapshot

/-- All numbers of a game fit. -/
structure Fits (saved : Snapshot) : Prop where
  tick : saved.tick < 2 ^ 64
  slots : ∀ slot ∈ saved.slots, slot.Fits
  calls : ∀ frame ∈ saved.calls, frame.Fits
  cutscenes : ∀ frame ∈ saved.cutscenes.frames.cells, frame.Fits
  cutsceneScript : ∀ id ∈ saved.cutsceneScript, id < 2 ^ 64
  vars : ∀ value ∈ saved.vars, Fits32 value
  actors : ∀ actor ∈ saved.actors, actor.Fits
  room : saved.room.Fits

/-- **The snapshot of a game reads back.** -/
theorem stores (depth : Nat) (form : Form) {saved : Snapshot} (fits : saved.Fits)
    (rested : ∀ slot ∈ saved.slots, slot.executed = false) :
    Stores (depth + 5) (ofDatum? form) saved.toDatum saved := by
  have slots : Stores (depth + 4) (Datum.readList (Slot.ofDatum? form))
      (.listOf Slot.toDatum saved.slots) saved.slots :=
    .listOf fun slot listed => Slot.stores _ form (fits.slots slot listed) (rested slot listed)
  have vars : Stores (depth + 4) (Datum.readList Datum.readInt32)
      (.listOf Datum.int saved.vars) saved.vars :=
    .listOf fun value listed => .int32 _ (fits.vars value listed)
  have actors : Stores (depth + 4) (Datum.readList Actor.ofDatum?)
      (.listOf Actor.toDatum saved.actors) saved.actors :=
    .listOf fun actor listed => Actor.stores depth (fits.actors actor listed)
  exact .record (by decide) rfl <|
    .required (.byte _ saved.generation) <|
    .required (.nat64 _ fits.tick) <|
    .required slots <|
    .required (CallStack.stores _ form fits.calls) <|
    .required (CutsceneStack.stores _ fits.cutscenes) <|
    .required (.bool _ saved.overrideActive) <|
    .optional (.maybeNat64 _ fits.cutsceneScript) <|
    .required (CutsceneHooks.stores _ saved.hooks) <|
    .required vars <|
    .optional (.maybeByte _ saved.ego) <|
    .required actors <|
    .required (RoomSnapshot.stores _ fits.room) <|
    .pure saved

end Snapshot

end Adventure
