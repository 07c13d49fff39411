import Adventure.Actor.Record
import Adventure.Script.CallStack
import Adventure.Script.Cutscene

/-!
# Script state as records

Slots, the call stack, the cutscene stack and the hooks as they stand in save files.
The turn mark of a slot is not saved.  A call stack is saved outermost call first.
-/

set_option autoImplicit false

namespace Adventure

open Datum (Fields Form)

namespace Slot

/-- The fields of a slot. -/
def fieldNames : List String :=
  ["number", "status", "location", "offset", "delay", "freeze_resistant", "recursive",
    "cutscene_override", "freeze_count", "locals"]

/-- A slot as a record. -/
def toDatum (slot : Slot) : Datum :=
  .record fieldNames
    [.word slot.number, .text slot.status.name, .text slot.location.name, .nat slot.offset,
      .int slot.delay, .bool slot.freezeResistant, .bool slot.recursive,
      .byte slot.cutsceneOverride, .byte slot.freezeCount, .listOf Datum.int slot.locals.cells]

/-- The local variables of a slot, which are as many as there are. -/
def readLocals (datum : Datum) : Option (Bank Int 25) :=
  match Datum.readCount 25 Datum.readInt32 datum with
  | some values => Bank.ofList? 25 values
  | none => none

/-- The fields of a slot, one after the other. -/
def fields (form : Form) : Fields Slot := do
  let number ← Fields.required Datum.readWord
  let status ← Fields.required (Datum.readName form SlotStatus.name SlotStatus.all)
  let location ← Fields.required (Datum.readName form ScriptLocation.name ScriptLocation.all)
  let offset ← Fields.required Datum.readNat64
  let delay ← Fields.required Datum.readInt32
  let freezeResistant ← Fields.required Datum.readBool
  let recursive ← Fields.required Datum.readBool
  let cutsceneOverride ← Fields.required Datum.readByte
  let freezeCount ← Fields.required Datum.readByte
  let locals ← Fields.required readLocals
  pure
    { number, status, location, offset, delay, freezeResistant, recursive, cutsceneOverride,
      freezeCount, locals, executed := false }

/-- The slot that a record describes. -/
def ofDatum? (form : Form) : Datum → Option Slot := Datum.readRecord fieldNames false (fields form)

end Slot

namespace CallFrame

/-- The fields of a call. -/
def fieldNames : List String := ["number", "location", "slot"]

/-- A call as a record. -/
def toDatum (frame : CallFrame) : Datum :=
  .record fieldNames
    [.word frame.number, .text frame.location.name, .maybe Datum.nat frame.slot]

/-- The fields of a call, one after the other. -/
def fields (form : Form) : Fields CallFrame := do
  let number ← Fields.required Datum.readWord
  let location ← Fields.required (Datum.readName form ScriptLocation.name ScriptLocation.all)
  let slot ← Fields.optional Datum.readNat64
  pure ⟨number, location, slot⟩

/-- The call that a record describes. -/
def ofDatum? (form : Form) : Datum → Option CallFrame :=
  Datum.readRecord fieldNames false (fields form)

end CallFrame

namespace CallStack

/-- The fields of a call stack. -/
def fieldNames : List String := ["frames"]

/-- A call stack as a record, outermost call first. -/
def toDatum (stack : CallStack) : Datum :=
  .record fieldNames [.listOf CallFrame.toDatum stack.reverse]

/-- The fields of a call stack. -/
def fields (form : Form) : Fields CallStack := do
  let frames ← Fields.required (Datum.readList (CallFrame.ofDatum? form))
  pure frames.reverse

/-- The call stack that a record describes. -/
def ofDatum? (form : Form) : Datum → Option CallStack :=
  Datum.readRecord fieldNames false (fields form)

end CallStack

namespace CutsceneFrame

/-- The fields of a cutscene. -/
def fieldNames : List String := ["data", "resume_offset", "owner_slot"]

/-- A cutscene as a record. -/
def toDatum (frame : CutsceneFrame) : Datum :=
  .record fieldNames
    [.int frame.data, .maybe Datum.nat frame.resumeOffset, .maybe Datum.nat frame.ownerSlot]

/-- The fields of a cutscene, one after the other. -/
def fields : Fields CutsceneFrame := do
  let data ← Fields.required Datum.readInt32
  let resumeOffset ← Fields.optional Datum.readNat64
  let ownerSlot ← Fields.optional Datum.readNat64
  pure ⟨data, resumeOffset, ownerSlot⟩

/-- The cutscene that a record describes. -/
def ofDatum? : Datum → Option CutsceneFrame := Datum.readRecord fieldNames false fields

end CutsceneFrame

namespace CutsceneStack

/-- The fields of a cutscene stack. -/
def fieldNames : List String := ["frames", "pointer"]

/-- A cutscene stack as a record. -/
def toDatum (stack : CutsceneStack) : Datum :=
  .record fieldNames
    [.listOf CutsceneFrame.toDatum stack.frames.cells, .nat stack.pointer.val]

/-- The frames of a cutscene stack, which are as many as there are. -/
def readFrames (datum : Datum) : Option (Bank CutsceneFrame 5) :=
  match Datum.readCount 5 CutsceneFrame.ofDatum? datum with
  | some frames => Bank.ofList? 5 frames
  | none => none

/-- The index of a frame. -/
def readPointer (datum : Datum) : Option (Fin 5) :=
  match Datum.readNat64 datum with
  | some index => if h : index < 5 then some ⟨index, h⟩ else none
  | none => none

/-- The fields of a cutscene stack, one after the other. -/
def fields : Fields CutsceneStack := do
  let frames ← Fields.required readFrames
  let pointer ← Fields.required readPointer
  pure ⟨frames, pointer⟩

/-- The cutscene stack that a record describes. -/
def ofDatum? : Datum → Option CutsceneStack := Datum.readRecord fieldNames false fields

end CutsceneStack

namespace CutsceneHooks

/-- The fields of the hooks. -/
def fieldNames : List String := ["start", "end"]

/-- The hooks as a record. -/
def toDatum (hooks : CutsceneHooks) : Datum :=
  .record fieldNames [.word hooks.start, .word hooks.stop]

/-- The fields of the hooks, one after the other. -/
def fields : Fields CutsceneHooks := do
  let start ← Fields.required Datum.readWord
  let stop ← Fields.required Datum.readWord
  pure ⟨start, stop⟩

/-- The hooks that a record describes. -/
def ofDatum? : Datum → Option CutsceneHooks := Datum.readRecord fieldNames false fields

end CutsceneHooks

end Adventure
