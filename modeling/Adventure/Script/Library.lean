import Adventure.Room.Basic
import Adventure.Script.Instruction
import Adventure.Script.Slot

/-!
# The script library

The library holds all code a game can run, keyed by number and place: global
scripts, objects the player carries, objects that float between rooms, and the
scripts and objects of the room that is shown.  Entering a room replaces the latter.
-/

set_option autoImplicit false

namespace Adventure

/-- Entries with different keys; adding one replaces an entry with the same key. -/
abbrev Keyed (κ α : Type) := List (κ × α)

namespace Keyed

variable {κ α : Type} [BEq κ]

/-- The entry of a key. -/
def get? (entries : Keyed κ α) (key : κ) : Option α := entries.lookup key

/-- Whether a key has an entry. -/
def has (entries : Keyed κ α) (key : κ) : Bool := (entries.get? key).isSome

/-- The entries with one added or replaced. -/
def insert (entries : Keyed κ α) (key : κ) (value : α) : Keyed κ α :=
  entries.filter (fun entry => !(entry.1 == key)) ++ [(key, value)]

/-- Adds a list of entries one after the other. -/
def insertAll (entries : Keyed κ α) (added : List (κ × α)) : Keyed κ α :=
  added.foldl (fun entries entry => insert entries entry.1 entry.2) entries

end Keyed

/-- The code of an object and the offsets at which its verbs start. -/
structure ObjectCode where
  code : Code
  verbs : List (UInt8 × Nat)
  deriving DecidableEq, Repr, Inhabited

namespace ObjectCode

/-- The verb that answers for every verb without an entry. -/
def defaultVerb : UInt8 := 0xFF

/-- Where a verb starts. -/
def verbOffset? (object : ObjectCode) (verb : UInt8) : Option Nat :=
  match object.verbs.lookup verb with
  | some offset => some offset
  | none => object.verbs.lookup defaultVerb

end ObjectCode

/-- The code that belongs to a room. -/
structure RoomCode where
  locals : Keyed UInt16 Code
  objects : Keyed UInt16 ObjectCode
  deriving DecidableEq, Repr, Inhabited

namespace RoomCode

/-- A room without code. -/
def empty : RoomCode := ⟨[], []⟩

end RoomCode

/-- All code a game can run. -/
structure Library where
  globals : Keyed UInt16 Code
  inventory : Keyed UInt16 ObjectCode
  floating : Keyed UInt16 ObjectCode
  room : RoomCode
  deriving DecidableEq, Repr, Inhabited

namespace Library

/-- A library without code. -/
def empty : Library := ⟨[], [], [], .empty⟩

/-- Where an object is kept: with the player, else in the room, else among the floating ones. -/
def locate? (library : Library) (number : UInt16) : Option ScriptLocation :=
  if library.inventory.has number then some .inventory
  else if library.room.objects.has number then some .room
  else if library.floating.has number then some .floatingObject
  else none

/-- The object with a number at a place. -/
def object? (library : Library) (number : UInt16) : ScriptLocation → Option ObjectCode
  | .room => library.room.objects.get? number
  | .inventory => library.inventory.get? number
  | .floatingObject => library.floating.get? number
  | .global => none
  | .local_ => none

/-- The code with a number at a place. -/
def code? (library : Library) (number : UInt16) : ScriptLocation → Option Code
  | .global => library.globals.get? number
  | .local_ => library.room.locals.get? number
  | .room => (library.object? number .room).map (·.code)
  | .inventory => (library.object? number .inventory).map (·.code)
  | .floatingObject => (library.object? number .floatingObject).map (·.code)

end Library

/-- A room ready to be entered: its geometry and its code. -/
structure LoadedRoom where
  geometry : Room
  code : RoomCode
  deriving DecidableEq, Inhabited

end Adventure
