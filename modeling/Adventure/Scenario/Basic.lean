import Adventure.Room.Basic
import Adventure.Script.Cutscene

/-!
# Scenarios

A scenario describes a game to be built: rooms with their boxes, scripts as assembly
text, where the actors stand, and what is started first.  It comes from a scenario
file; the geometry of a room may also be in files of its own.
-/

set_option autoImplicit false

namespace Adventure

/-- An object: its number, its code, and the label at which each verb starts. -/
structure ObjectSpec where
  number : UInt16
  code : String
  /-- In the order of the verbs. -/
  verbs : List (UInt8 × String)

/-- The files with the geometry of a room. -/
structure BlockFiles where
  boxes : String
  matrix : Option String
  ramps : Option String

/-- A room. -/
structure RoomSpec where
  number : UInt8
  boxes : List WalkBox
  /-- Files that take the place of `boxes`. -/
  files : Option BlockFiles
  /-- Routing rows; without them the routing follows from the boxes. -/
  matrix : Option (List (List RouteEntry))
  ramps : List (UInt8 × ScaleRamp)
  /-- Assembly texts in the order of their numbers. -/
  locals : List (UInt16 × String)
  objects : List ObjectSpec

/-- Where an actor stands at first. -/
structure ActorSpec where
  number : UInt8
  room : UInt8
  pos : Point
  costume : UInt16
  speed : Option (Int × Int)
  facing : Option Int
  ignoreBoxes : Bool

/-- A script that is started before the first tick. -/
structure BootScript where
  script : UInt16
  args : List Int
  freezeResistant : Bool

/-- A game to be built. -/
structure Scenario where
  generation : Option UInt8
  startRoom : UInt8
  ego : Option UInt8
  hooks : CutsceneHooks
  rooms : List RoomSpec
  /-- Assembly texts of the global scripts, in the order of their numbers. -/
  scripts : List (UInt16 × String)
  inventory : List ObjectSpec
  floating : List ObjectSpec
  actors : List ActorSpec
  boot : List BootScript
  /-- The ticks before which the running cutscene is skipped. -/
  abortAt : List Nat

end Adventure
