import Adventure.Machine.Basic

/-!
# Snapshots

A snapshot is all of a game that is not in its files: the slots and stacks, the
variables, the actors, and what scripts have changed in the room.  Code is not part of
it.  Restoring a snapshot loads the room again and looks every live script up by number
and place; if the room or a script is not there, nothing changes.  `reinstate` does this to
a machine step by step, and `restore` says what it comes to.
-/

set_option autoImplicit false

namespace Adventure

/-- What scripts can change in a room. -/
structure RoomSnapshot where
  number : UInt8
  boxFlags : Bytes
  extraFlags : List UInt16
  ramps : List ScaleRamp
  /-- The routing matrix in the form of its block. -/
  matrix : Bytes
  deriving DecidableEq

/-- All of a game that is not in its files. -/
structure Snapshot where
  generation : UInt8
  tick : Nat
  slots : List Slot
  calls : CallStack
  cutscenes : CutsceneStack
  overrideActive : Bool
  cutsceneScript : Option SlotId
  hooks : CutsceneHooks
  vars : List Int
  ego : Option UInt8
  actors : List Actor
  room : RoomSnapshot
  deriving DecidableEq

namespace Room

/-- What scripts can change in the room. -/
def snapshot (room : Room) : RoomSnapshot :=
  { number := room.number
    boxFlags := room.flagBytes
    extraFlags := room.extraFlags
    ramps := room.ramps.cells
    matrix := RouteBlock.encode room.matrix.rows }

/-- Freshly loaded geometry with the saved changes. -/
def withSnapshot (room : Room) (saved : RoomSnapshot) : Room :=
  { room with number := saved.number }.restoreDynamic saved.boxFlags saved.extraFlags saved.ramps
    (RouteBlock.decode saved.matrix)

end Room

namespace Machine

/-- The snapshot of a game. -/
def snapshot (m : Machine) : Snapshot :=
  { generation := m.rules.generation
    tick := m.tick
    slots := m.slots.cells.map fun slot => { slot with executed := false }
    calls := m.calls
    cutscenes := m.cutscenes
    overrideActive := m.overrideActive
    cutsceneScript := m.cutsceneScript
    hooks := m.hooks
    vars := m.vars.cells
    ego := m.ego
    actors := m.cast
    room := m.room.snapshot }

/-- The room of a snapshot as it is loaded; room zero is no room. -/
def savedRoom? (m : Machine) (number : UInt8) : Option LoadedRoom :=
  if number = 0 then some ⟨.nowhere, .empty⟩ else m.rooms.get? number

/-- The first live slot without code. -/
def missingSlot? (library : Library) (slots : List Slot) : Option Slot :=
  slots.find? fun slot => !slot.isDead && (library.code? slot.number slot.location).isNone

/-- The machine with the state of a snapshot, in a room that is loaded already. -/
def resume (m : Machine) (saved : Snapshot) (loaded : LoadedRoom) : Machine :=
  { m with
    library := { m.library with room := loaded.code }
    room := loaded.geometry.withSnapshot saved.room
    slots := .fit 80 .empty saved.slots
    calls := saved.calls
    cutscenes := saved.cutscenes
    overrideActive := saved.overrideActive
    cutsceneScript := saved.cutsceneScript
    hooks := saved.hooks
    vars := .fit 256 0 saved.vars
    ego := saved.ego
    cast := saved.actors
    tick := saved.tick
    current := none }

/-- What restoring a snapshot comes to: the restored game, or what is missing for it. -/
def restore (m : Machine) (saved : Snapshot) : Except ScriptError Machine :=
  match m.savedRoom? saved.room.number with
  | none => .error (.missingRoom saved.room.number)
  | some loaded =>
    match missingSlot? { m.library with room := loaded.code } saved.slots with
    | some slot => .error (.missingScript slot.number slot.location)
    | none => .ok ((m.resume saved loaded).logged s!"vm.restore tick {saved.tick}")

/-! ## Restoring in place -/

/-- Puts in the code of a room and answers with the code it has replaced. -/
def swapRoomCode (code : RoomCode) : Run RoomCode := do
  let m ← get
  set { m with library := { m.library with room := code } }
  pure m.library.room

/-- Looks up the code of a slot.  If there is none, the code of the old room is put back before
the computation stops. -/
def demandCode (old : RoomCode) (slot : Slot) : Run Unit := do
  let m ← get
  if (m.library.code? slot.number slot.location).isNone then
    let _ ← swapRoomCode old
    Run.fail (.missingScript slot.number slot.location)
  else pure ()

/-- Restores a snapshot in place.  The code of its room has to be in the library before the live
slots can be looked up, so it is put in first, and all else is replaced when every slot has
been found. -/
def reinstate (saved : Snapshot) : Run Unit := do
  let m ← get
  match m.savedRoom? saved.room.number with
  | none => Run.fail (.missingRoom saved.room.number)
  | some loaded =>
    let old ← swapRoomCode loaded.code
    (saved.slots.filter fun slot => !slot.isDead).forM (demandCode old)
    -- The library is left as it is: the code of the room is in it by now.
    modify fun m => { m.resume saved loaded with library := m.library }
    Run.log s!"vm.restore tick {saved.tick}"

end Machine

end Adventure
