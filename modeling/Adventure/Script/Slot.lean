import Adventure.Data.Bank

/-!
# Script slots

A running script occupies one of eighty slots.  A slot remembers which script it
runs, where it will go on, its local variables, and why it may be waiting: a delay
that has not passed yet, or a number of freezes that have not been lifted yet.
-/

set_option autoImplicit false

namespace Adventure

/-- The index of a slot. -/
abbrev SlotId := Nat

/-- Whether a slot runs a script. -/
inductive SlotStatus where
  | dead
  | paused
  | running
  deriving DecidableEq, Repr, Inhabited

namespace SlotStatus

/-- The name used in files. -/
def name : SlotStatus → String
  | dead => "dead"
  | paused => "paused"
  | running => "running"

/-- All states, in the order in which files number them. -/
def all : List SlotStatus := [dead, paused, running]

end SlotStatus

/-- Where the code of a script is kept. -/
inductive ScriptLocation where
  | global
  | local_
  | room
  | inventory
  | floatingObject
  deriving DecidableEq, Repr, Inhabited

namespace ScriptLocation

/-- The name used in files. -/
def name : ScriptLocation → String
  | global => "global"
  | local_ => "local"
  | room => "room"
  | inventory => "inventory"
  | floatingObject => "floating_object"

/-- The name used in messages. -/
def title : ScriptLocation → String
  | global => "Global"
  | local_ => "Local"
  | room => "Room"
  | inventory => "Inventory"
  | floatingObject => "FloatingObject"

/-- All places, in the order in which files number them. -/
def all : List ScriptLocation := [global, local_, room, inventory, floatingObject]

/-- Whether the place holds scripts and not objects. -/
def isScript : ScriptLocation → Bool
  | global => true
  | local_ => true
  | _ => false

/-- Whether the place holds objects. -/
def isObject (location : ScriptLocation) : Bool := !location.isScript

/-- Whether scripts of the place end when the room is left. -/
def isRoomOwned : ScriptLocation → Bool
  | local_ => true
  | room => true
  | floatingObject => true
  | _ => false

end ScriptLocation

/-- One slot. -/
structure Slot where
  number : UInt16
  status : SlotStatus
  location : ScriptLocation
  /-- Where the script goes on in its code. -/
  offset : Nat
  delay : Int
  freezeResistant : Bool
  recursive : Bool
  /-- How many cutscenes and overrides the script holds. -/
  cutsceneOverride : UInt8
  freezeCount : UInt8
  locals : Bank Int 25
  /-- Whether the script has had its turn in this tick. -/
  executed : Bool
  deriving DecidableEq

namespace Slot

/-- A slot that runs nothing. -/
def empty : Slot :=
  { number := 0
    status := .dead
    location := .global
    offset := 0
    delay := 0
    freezeResistant := false
    recursive := false
    cutsceneOverride := 0
    freezeCount := 0
    locals := .replicate 25 0
    executed := false }

instance : Inhabited Slot := ⟨empty⟩

/-- Whether the slot runs nothing. -/
def isDead (slot : Slot) : Bool := slot.status == .dead

/-- Whether the script can have a turn. -/
def isRunnable (slot : Slot) : Bool := slot.status == .running && slot.freezeCount == 0

/-- The slot after its script has ended. -/
def retire (slot : Slot) : Slot :=
  { slot with status := .dead, number := 0, cutsceneOverride := 0 }

/-- A slot about to run a script from an offset, with arguments in its first locals. -/
def start (number : UInt16) (location : ScriptLocation) (offset : Nat)
    (freezeResistant recursive : Bool) (args : List Int) : Slot :=
  { empty with
    number := number
    status := .running
    location := location
    offset := offset
    freezeResistant := freezeResistant
    recursive := recursive
    locals := (Bank.replicate 25 0).overlay args }

/-- A counter one higher, unless it is at its greatest value. -/
def countUp (count : UInt8) : UInt8 := if count = 255 then 255 else count + 1

/-- A counter one lower, unless it is zero. -/
def countDown (count : UInt8) : UInt8 := if count = 0 then 0 else count - 1

end Slot

/-- The eighty slots. -/
abbrev SlotTable := Bank Slot 80

namespace SlotTable

/-- Eighty slots that run nothing. -/
def empty : SlotTable := .replicate 80 .empty

/-- The first slot that runs nothing; slot zero is never used. -/
def findFree (slots : SlotTable) : Option SlotId :=
  (slots.cells.zipIdx.drop 1).findSome? fun entry => if entry.1.isDead then some entry.2 else none

/-- The free slot that is found runs nothing. -/
theorem findFree_dead {slots : SlotTable} {id : SlotId} (found : slots.findFree = some id) :
    ∃ slot, slots.get? id = some slot ∧ slot.isDead = true := by
  obtain ⟨⟨slot, index⟩, member, entry⟩ := List.exists_of_findSome?_eq_some found
  have listed := List.mem_zipIdx' (List.mem_of_mem_drop member)
  dsimp only at entry
  split at entry
  next dead =>
    cases entry
    exact ⟨slot, by rw [Bank.get?, listed.2]; exact List.getElem?_eq_getElem listed.1, dead⟩
  next => cases entry

/-- The free slot that is found is not slot zero. -/
theorem findFree_ne_zero {slots : SlotTable} {id : SlotId} (found : slots.findFree = some id) :
    id ≠ 0 := by
  obtain ⟨⟨slot, index⟩, member, entry⟩ := List.exists_of_findSome?_eq_some found
  dsimp only at entry
  split at entry
  · cases entry
    obtain ⟨place, within, same⟩ := List.getElem_of_mem member
    rw [List.getElem_drop, List.getElem_zipIdx] at same
    have later : 0 + (1 + place) = id := congrArg Prod.snd same
    rw [← later]
    exact Nat.ne_of_gt (by omega)
  · cases entry

/-- A local variable of a live slot. -/
def local? (slots : SlotTable) (id : SlotId) (index : Nat) : Option Int :=
  match slots.get? id with
  | some slot => if slot.isDead then none else slot.locals.get? index
  | none => none

/-- Whether some slot satisfies a test. -/
def any (slots : SlotTable) (test : Slot → Bool) : Bool := slots.cells.any test

end SlotTable

end Adventure
