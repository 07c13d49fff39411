import Adventure.Machine.Basic

/-!
# Stopping, freezing and waiting

The parts of the scheduler that change slots without running code.
-/

set_option autoImplicit false

namespace Adventure.Machine

/-! ## Stopping -/

/-- Whether a slot runs a script with a number from a family of places. -/
def runs (number : UInt16) (family : ScriptLocation → Bool) (slot : Slot) : Bool :=
  slot.number == number && !slot.isDead && family slot.location

/-- The live slots that satisfy a test, in order. -/
def liveWhere (m : Machine) (test : Slot → Bool) : List (SlotId × UInt16) :=
  m.slots.cells.zipIdx.filterMap fun entry =>
    if !entry.1.isDead && test entry.1 then some (entry.2, entry.1.number) else none

/-- Ends the scripts of the slots below a bound that satisfy a test. -/
def retireBelow (slots : SlotTable) (bound : Nat) (test : Slot → Bool) : SlotTable :=
  slots.mapIdx fun id slot =>
    if id < bound && !slot.isDead && test slot then slot.retire else slot

/-- Stops every live slot that satisfies a test and detaches the calls that satisfy another. -/
def stopWhere (m : Machine) (test : Slot → Bool) (waits : CallFrame → Bool) : Machine :=
  let stopped := m.liveWhere test
  { m with
    slots := retireBelow m.slots 80 test
    current := if stopped.any (fun entry => m.current == some entry.1) then none else m.current
    events := m.events ++ stopped.map fun entry => s!"script.stop {entry.2.toNat} slot {entry.1}"
    calls := m.calls.invalidate waits }

/-- The first slot that runs a script and may not be stopped because it holds a cutscene. -/
def heldSlot? (m : Machine) (number : UInt16) (family : ScriptLocation → Bool) : Option SlotId :=
  if m.rules.strictCutsceneStop then
    m.slots.cells.findIdx? fun slot => runs number family slot && slot.cutsceneOverride != 0
  else none

/-- Stops every live instance of a number in a family of places.  Under strict rules an
instance that holds a cutscene stops the interpreter instead; the instances before it
are gone by then. -/
def stopFamily (number : UInt16) (family : ScriptLocation → Bool) : Run Unit := do
  let m ← get
  match m.heldSlot? number family with
  | some held =>
    set { m with slots := retireBelow m.slots held (runs number family) }
    Run.fail (.scriptStoppedInCutscene number)
  | none =>
    set (m.stopWhere (runs number family) fun frame =>
      frame.number == number && family frame.location)

/-- Stops every live global or local instance of a script. -/
def stopScript (number : UInt16) : Run Unit :=
  if number = 0 then pure () else stopFamily number ScriptLocation.isScript

/-- Stops every live instance of an object. -/
def stopObject (number : UInt16) : Run Unit :=
  if number = 0 then pure () else stopFamily number ScriptLocation.isObject

/-- Stops everything that belongs to the room that is left. -/
def stopRoomScripts (m : Machine) : Machine :=
  m.stopWhere (fun slot => slot.location.isRoomOwned) fun frame => frame.location.isRoomOwned

/-- Ends the executing script. -/
def stopCurrent (m : Machine) : Machine :=
  match m.current with
  | none => m
  | some id =>
    match m.slots.get? id with
    | none => { m with current := none }
    | some slot =>
      { m.changeSlot id Slot.retire with
        current := none
        events := m.events ++ [s!"script.end {slot.number.toNat} slot {id}"] }

/-! ## Freezing -/

/-- Whether a freeze with a flag holds a slot: freeze-resistant slots only from `0x80` on. -/
def isFrozenBy (m : Machine) (flag : UInt8) (id : SlotId) (slot : Slot) : Bool :=
  m.current != some id && !slot.isDead && (!slot.freezeResistant || decide (0x80 ≤ flag))

/-- Freezes every live slot but the executing one and the one that opens a cutscene. -/
def freezeScripts (m : Machine) (flag : UInt8) : Machine :=
  let frozen := m.slots.mapIdx fun id slot =>
    if m.isFrozenBy flag id slot then
      { slot with freezeCount := Slot.countUp slot.freezeCount }
    else slot
  let spared :=
    match m.cutsceneScript with
    | some id => frozen.modify id fun slot => { slot with freezeCount := 0 }
    | none => frozen
  { m with slots := spared }.logged s!"script.freeze {Digits.hexWithMark 4 flag.toNat}"

/-- Takes one freeze off every slot. -/
def unfreezeScripts (m : Machine) : Machine :=
  { m with
    slots := m.slots.map fun slot =>
      { slot with freezeCount := Slot.countDown slot.freezeCount } }.logged "script.unfreeze"

/-! ## Waiting -/

/-- Whether a slot's delay is running. -/
def isWaiting (slot : Slot) : Bool := slot.status == .paused && slot.freezeCount == 0

/-- A slot after an amount of its delay has passed. -/
def waitSlot (amount : Int) (slot : Slot) : Slot :=
  if isWaiting slot then
    if slot.delay - amount ≤ 0 then { slot with status := .running, delay := 0 }
    else { slot with delay := slot.delay - amount }
  else slot

/-- Lets an amount of every running delay pass; slots whose delay is over run again. -/
def decreaseDelay (m : Machine) (amount : Int) : Checked Machine :=
  if m.slots.cells.all fun slot =>
      !isWaiting slot || decide (Word.Fits32 (slot.delay - amount)) then
    .ok { m with slots := m.slots.map (waitSlot amount) }
  else .error .overflow

end Adventure.Machine
