import Adventure.Actor.Walk
import Adventure.Script.CallStack
import Adventure.Script.Cutscene
import Adventure.Script.Error
import Adventure.Script.Library

/-!
# The machine

The machine is everything a running game consists of: the scripts and the state
they share, the room that is shown and the actors.  Operations on it are
computations of `Run`.  A computation that ends early leaves the machine in the
state it had reached: nothing is undone.
-/

set_option autoImplicit false

namespace Adventure

/-- A running game. -/
structure Machine where
  rules : Rules
  library : Library
  /-- The rooms that can be entered. -/
  rooms : Keyed UInt8 LoadedRoom
  slots : SlotTable
  calls : CallStack
  cutscenes : CutsceneStack
  /-- The slot that is executing. -/
  current : Option SlotId
  /-- The code that is being read. -/
  code : Code
  /-- The offset of the next byte of code. -/
  pc : Nat
  /-- The offset of the instruction that is executing. -/
  opStart : Nat
  overrideActive : Bool
  /-- The slot whose cutscene is just being opened. -/
  cutsceneScript : Option SlotId
  hooks : CutsceneHooks
  vars : Bank Int 256
  room : Room
  cast : Cast
  ego : Option UInt8
  events : List String
  tick : Nat

/-- A computation on the machine. -/
abbrev Run := EStateM Halt Machine

namespace Machine

/-- A machine at rest, in no room. -/
def boot (rules : Rules) (library : Library) (rooms : Keyed UInt8 LoadedRoom) : Machine :=
  { rules := rules
    library := library
    rooms := rooms
    slots := .empty
    calls := []
    cutscenes := .empty
    current := none
    code := []
    pc := 0
    opStart := 0
    overrideActive := false
    cutsceneScript := none
    hooks := ⟨0, 0⟩
    vars := .replicate 256 0
    room := .nowhere
    cast := .fresh rules.actorCount
    ego := none
    events := []
    tick := 0 }

/-- The slot that is executing. -/
def currentSlot? (m : Machine) : Option Slot :=
  match m.current with
  | some id => m.slots.get? id
  | none => none

/-- The number of the script that is executing; zero when there is none. -/
def currentNumber (m : Machine) : UInt16 :=
  match m.currentSlot? with
  | some slot => slot.number
  | none => 0

/-- A local variable of the script that is executing; zero when there is none. -/
def localValue (m : Machine) (index : Nat) : Int :=
  match m.current with
  | some id => (m.slots.local? id index).getD 0
  | none => 0

/-- What actors can see. -/
def stage (m : Machine) : Stage := ⟨m.room, m.rules, m.room.number, m.ego⟩

/-- The machine with an event added to its log. -/
def logged (m : Machine) (event : String) : Machine := { m with events := m.events ++ [event] }

/-- The machine with one slot changed. -/
def changeSlot (m : Machine) (id : SlotId) (change : Slot → Slot) : Machine :=
  { m with slots := m.slots.modify id change }

/-- The machine with the executing slot changed, if there is one. -/
def changeCurrent (m : Machine) (change : Slot → Slot) : Machine :=
  { m with
    slots :=
      match m.current with
      | some id => m.slots.modify id change
      | none => m.slots }

/-- The machine with a player's actor; zero is none. -/
def setEgo (m : Machine) (number : UInt8) : Machine :=
  { m with ego := if number = 0 then none else some number }

/-- The machine with a variable set; a variable that does not exist is left alone. -/
def setVar (m : Machine) (index : Nat) (value : Int) : Machine :=
  { m with vars := m.vars.set index value }

/-- The machine with a local variable of the executing script set. -/
def setLocal (m : Machine) (index : Nat) (value : Int) : Machine :=
  m.changeCurrent fun slot => { slot with locals := slot.locals.set index value }

/-- Whether a global or local script runs. -/
def isScriptRunning (m : Machine) (number : UInt16) : Bool :=
  m.slots.any fun slot => slot.number == number && slot.location.isScript && !slot.isDead

/-- Whether an object of the room runs. -/
def isRoomScriptRunning (m : Machine) (number : UInt16) : Bool :=
  m.slots.any fun slot => slot.number == number && slot.location == .room && !slot.isDead

/-- Whether some slot carries a number, dead or alive. -/
def isScriptInUse (m : Machine) (number : UInt16) : Bool :=
  m.slots.any fun slot => slot.number == number

end Machine

namespace Run

/-- Stops with an error. -/
def fail {α : Type} (error : ScriptError) : Run α := throw (.failed error)

/-- A checked computation; a fault stops the machine. -/
def ofChecked {α : Type} : Checked α → Run α
  | .ok value => pure value
  | .error fault => throw (.fault fault)

/-- Adds an event to the log. -/
def log (event : String) : Run Unit := modify fun m => m.logged event

/-- Carries out a change at the end of a computation, even when it ends early. -/
def finally_ {α : Type} (run : Run α) (change : Machine → Machine) : Run α := fun m =>
  match run m with
  | .ok value m => .ok value (change m)
  | .error halt m => .error halt (change m)

/-- Carries out a change when a computation ends early. -/
def onFailure {α : Type} (run : Run α) (change : Machine → Machine) : Run α := fun m =>
  match run m with
  | .ok value m => .ok value m
  | .error halt m => .error halt (change m)

/-- Drives one actor; a number without an actor gives nothing. -/
def withActor {α : Type} (number : UInt8) (drive : Stage → Walk α) : Run (Option α) := do
  let m ← get
  match m.cast.get? number with
  | none => pure none
  | some actor =>
    let (value, walker) ← ofChecked ((drive m.stage).run ⟨actor, []⟩)
    modify fun m =>
      { m with cast := m.cast.put number walker.actor, events := m.events ++ walker.events }
    pure (some value)

/-- Drives one actor for its effect only. -/
def driveActor (number : UInt8) (drive : Stage → Walk Unit) : Run Unit := do
  let _ ← withActor number drive
  pure ()

end Run

end Adventure
