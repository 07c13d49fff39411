import Adventure.Files.Path
import Adventure.Machine.Tick
import Adventure.Room.Adjacency
import Adventure.Save.Header
import Adventure.Scenario.Basic
import Adventure.Script.Assembler
import Adventure.WalkBox.Block

/-!
# Building a game

Building assembles all code, puts the rooms together and places the actors; the game
then stands in the scenario's first room, with no script started.  The files of rooms
are reached through a function from paths to contents, so that building itself is a
function of its arguments.
-/

set_option autoImplicit false

namespace Adventure

/-- Why an object cannot be built. -/
inductive ObjectError where
  | assembling (number : UInt16) (cause : Assembler.Error)
  | unknownLabel (number : UInt16) (verb : UInt8) (label : String)
  deriving DecidableEq, Repr

/-- Why a room cannot be built. -/
inductive RoomError where
  | boxesAndFiles
  /-- A file of the named block cannot be read. -/
  | reading (block path : String) (cause : FileError)
  | decodingBoxes (path : String) (cause : BoxBlock.Error)
  | decodingRamps (path : String) (cause : ScaleBlock.Error)
  | localNumber (number least : UInt16)
  | localScript (number : UInt16) (cause : Assembler.Error)
  | object (cause : ObjectError)
  deriving DecidableEq, Repr

/-- Why a game cannot be built. -/
inductive BuildError where
  | globalScript (number : UInt16) (cause : Assembler.Error)
  | object (cause : ObjectError)
  | inRoom (number : UInt8) (cause : RoomError)
  | roomTwice (number : UInt8)
  | startRoom (number : UInt8)
  | actor (number : UInt8)
  /-- Placing the actors left the range of a word. -/
  | fault (fault : Fault)
  deriving DecidableEq, Repr

namespace ObjectError

/-- The causes of a failure, outermost first. -/
def trail : ObjectError → List String
  | assembling number cause => s!"assembling object {number.toNat}" :: cause.trail
  | unknownLabel number verb label =>
    [s!"object {number.toNat} verb {verb.toNat}: unknown entry label '{label}'"]

/-- The arithmetic fault behind an error, if there is one. -/
def fault? : ObjectError → Option Fault
  | assembling _ cause => cause.fault?
  | unknownLabel .. => none

end ObjectError

namespace RoomError

/-- The causes of a failure, outermost first. -/
def trail : RoomError → List String
  | boxesAndFiles => ["use either inline boxes or binary blocks, not both"]
  | reading block path cause => [s!"reading {block} from {path}", cause.message]
  | decodingBoxes path cause => s!"decoding BOXD from {path}" :: cause.trail
  | decodingRamps path cause => s!"decoding SCAL from {path}" :: cause.trail
  | localNumber number least =>
    [s!"local script {number.toNat} must be numbered {least.toNat} or above"]
  | localScript number cause => s!"assembling local script {number.toNat}" :: cause.trail
  | object cause => cause.trail

/-- The arithmetic fault behind an error, if there is one. -/
def fault? : RoomError → Option Fault
  | localScript _ cause => cause.fault?
  | object cause => cause.fault?
  | _ => none

end RoomError

namespace BuildError

/-- The causes of a failure, outermost first. -/
def trail : BuildError → List String
  | globalScript number cause => s!"assembling global script {number.toNat}" :: cause.trail
  | object cause => cause.trail
  | inRoom number cause => s!"building room {number.toNat}" :: cause.trail
  | roomTwice number => [s!"room {number.toNat} defined twice"]
  | startRoom number => [s!"start room {number.toNat} is not defined"]
  | actor number => [s!"actor {number.toNat} is outside the actor table"]
  | fault _ => ["arithmetic overflow"]

/-- The arithmetic fault behind an error, if there is one. -/
def fault? : BuildError → Option Fault
  | globalScript _ cause => cause.fault?
  | object cause => cause.fault?
  | inRoom _ cause => cause.fault?
  | fault reason => some reason
  | _ => none

end BuildError

namespace ObjectSpec

/-- Where a verb starts. -/
def verbEntry (object : ObjectSpec) (labels : Assembler.Labels) (entry : UInt8 × String) :
    Except ObjectError (UInt8 × Nat) :=
  match labels.lookup entry.2 with
  | some offset => .ok (entry.1, offset)
  | none => .error (.unknownLabel object.number entry.1 entry.2)

/-- Assembles an object. -/
def build (object : ObjectSpec) : Except ObjectError (UInt16 × ObjectCode) := do
  let assembled ← (Assembler.assemble object.code).mapError (.assembling object.number)
  let verbs ← object.verbs.mapM (object.verbEntry assembled.labels)
  pure (object.number, ⟨assembled.code, verbs⟩)

end ObjectSpec

/-- How the content of a file is found. -/
abbrev FileSource := String → Except FileError Bytes

namespace BlockFiles

/-- The content of a file that may not be wanted at all. -/
def readOptional (source : FileSource) (directory block : String) :
    Option String → Except RoomError (Option (String × Bytes))
  | none => .ok none
  | some path =>
    let path := Path.join directory path
    match source path with
    | .ok content => .ok (some (path, content))
    | .error cause => .error (.reading block path cause)

/-- Early games count boxes in one byte. -/
def countWidth (rules : Rules) : BoxBlock.CountWidth :=
  if rules.generation ≤ 4 then .byte else .word

/-- The boxes of a room from their file. -/
def readBoxes (files : BlockFiles) (source : FileSource) (directory : String) (rules : Rules) :
    Except RoomError (List BoxRecord) := do
  let path := Path.join directory files.boxes
  let content ← (source path).mapError (.reading "BOXD" path)
  (BoxBlock.decode (countWidth rules) content).mapError (.decodingBoxes path)

/-- The scale ramps of a room from their file. -/
def readRamps (files : BlockFiles) (source : FileSource) (directory : String) :
    Except RoomError (List ScaleBlock.Entry) := do
  match ← readOptional source directory "SCAL" files.ramps with
  | none => pure []
  | some (path, content) => (ScaleBlock.decode content).mapError (.decodingRamps path)

/-- The geometry of a room from its files.  An authored matrix takes the place of the
stored one. -/
def build (files : BlockFiles) (source : FileSource) (directory : String) (rules : Rules)
    (number : UInt8) (matrix : Option Matrix) : Except RoomError Room := do
  let records ← files.readBoxes source directory rules
  let stored ← readOptional source directory "BOXM" files.matrix
  let ramps ← files.readRamps source directory
  let room := Room.ofBlocks number records (stored.map fun found => RouteBlock.decode found.2) ramps
  match matrix with
  | some matrix => pure { room with matrix := matrix }
  | none => pure room

end BlockFiles

namespace RoomSpec

/-- The geometry of a room, before its scale slots are set. -/
def geometry (spec : RoomSpec) (source : FileSource) (directory : String) (rules : Rules) :
    Except RoomError Room :=
  let matrix : Option Matrix := spec.matrix.map fun rows => ⟨rows, false⟩
  match spec.files with
  | some files =>
    if spec.boxes.isEmpty then files.build source directory rules spec.number matrix
    else .error .boxesAndFiles
  | none => .ok (Room.ofBoxes spec.number spec.boxes matrix)

/-- Assembles a script of a room.  Its number has to be above those of the global ones. -/
def buildLocal (rules : Rules) (entry : UInt16 × String) : Except RoomError (UInt16 × Code) :=
  if entry.1 < rules.globalScripts then .error (.localNumber entry.1 rules.globalScripts)
  else
    match Assembler.assemble entry.2 with
    | .ok assembled => .ok (entry.1, assembled.code)
    | .error cause => .error (.localScript entry.1 cause)

/-- Builds a room. -/
def build (spec : RoomSpec) (source : FileSource) (directory : String) (rules : Rules) :
    Except RoomError LoadedRoom := do
  let geometry ← spec.geometry source directory rules
  let scaled := spec.ramps.foldl (fun room entry => room.setRamp entry.1 entry.2) geometry
  let locals ← spec.locals.mapM (buildLocal rules)
  let objects ← (spec.objects.mapM ObjectSpec.build).mapError .object
  pure ⟨scaled, ⟨locals, Keyed.insertAll [] objects⟩⟩

end RoomSpec

namespace ActorSpec

/-- An actor placed as the scenario says. -/
def place (spec : ActorSpec) (actor : Actor) : Actor :=
  let speedX := (spec.speed.map (·.1)).getD actor.speedX
  let speedY := (spec.speed.map (·.2)).getD actor.speedY
  { actor with
    room := spec.room
    pos := spec.pos
    costume := spec.costume
    ignoreBoxes := spec.ignoreBoxes
    speedX := speedX
    speedY := speedY
    facing := spec.facing.getD actor.facing
    targetFacing := spec.facing.getD actor.targetFacing }

/-- Places an actor of a cast. -/
def addTo (cast : Cast) (spec : ActorSpec) : Except BuildError Cast :=
  match cast.get? spec.number with
  | some actor => .ok (cast.put spec.number (spec.place actor))
  | none => .error (.actor spec.number)

end ActorSpec

namespace Scenario

/-- Assembles a global script. -/
def buildGlobal (entry : UInt16 × String) : Except BuildError (UInt16 × Code) :=
  match Assembler.assemble entry.2 with
  | .ok assembled => .ok (entry.1, assembled.code)
  | .error cause => .error (.globalScript entry.1 cause)

/-- The code of a scenario that belongs to no room. -/
def library (scenario : Scenario) : Except BuildError Library := do
  let globals ← scenario.scripts.mapM buildGlobal
  let inventory ← (scenario.inventory.mapM ObjectSpec.build).mapError .object
  let floating ← (scenario.floating.mapM ObjectSpec.build).mapError .object
  pure ⟨globals, Keyed.insertAll [] inventory, Keyed.insertAll [] floating, .empty⟩

/-- Builds one more room. -/
def addRoom (source : FileSource) (directory : String) (rules : Rules)
    (rooms : Keyed UInt8 LoadedRoom) (spec : RoomSpec) :
    Except BuildError (Keyed UInt8 LoadedRoom) :=
  match spec.build source directory rules with
  | .error cause => .error (.inRoom spec.number cause)
  | .ok room =>
    if rooms.has spec.number then .error (.roomTwice spec.number)
    else .ok (rooms.insert spec.number room)

/-- The game before its first room is entered. -/
def assemble (scenario : Scenario) (source : FileSource) (directory : String) (rules : Rules) :
    Except BuildError Machine := do
  let library ← scenario.library
  let rooms ← scenario.rooms.foldlM (addRoom source directory rules) []
  if rooms.has scenario.startRoom then
    let m := Machine.boot rules library rooms
    let cast ← scenario.actors.foldlM ActorSpec.addTo m.cast
    let ego := (scenario.ego.map fun number => (m.setEgo number).ego).getD none
    pure { m with hooks := scenario.hooks, ego := ego, cast := cast }
  else .error (.startRoom scenario.startRoom)

/-- Builds a game that stands in the scenario's first room. -/
def build (scenario : Scenario) (source : FileSource) (directory : String) (rules : Rules) :
    Except BuildError Machine := do
  let m ← scenario.assemble source directory rules
  match Machine.changeRoom scenario.startRoom m with
  | .ok _ m => pure m
  | .error (.fault fault) _ => .error (.fault fault)
  | .error (.failed _) m => pure m

/-- The paths of all files that building may ask for. -/
def paths (scenario : Scenario) (directory : String) : List String :=
  scenario.rooms.flatMap fun room =>
    match room.files with
    | some files =>
      (files.boxes :: (files.matrix.toList ++ files.ramps.toList)).map (Path.join directory)
    | none => []

/-- The generation that is used when neither the player nor the scenario chooses one. -/
def standardGeneration : UInt8 := 5

/-- The generation to play: the player's choice, else the scenario's, else the standard one. -/
def chosenGeneration (scenario : Scenario) (requested : Option UInt8) : UInt8 :=
  (requested <|> scenario.generation).getD standardGeneration

end Scenario

namespace Machine

/-- Starts the scripts of a list one after the other.  A script that cannot be started is
named with the reason. -/
def startAll (fuel : Nat) : List BootScript → Machine → Except (UInt16 × Halt) Machine
  | [], m => .ok m
  | boot :: rest, m =>
    match startScript (execute fuel) boot.script boot.freezeResistant false boot.args m with
    | .ok _ m => startAll fuel rest m
    | .error halt _ => .error (boot.script, halt)

end Machine

end Adventure
