import Adventure.Command.Session
import Adventure.Datum.Json.Printer
import Adventure.Machine.Trace
import Adventure.Save.Envelope
import Adventure.Scenario.Build
import Adventure.Scenario.Reader

/-!
# Playing a scenario

The command builds a scenario, starts its first scripts or continues a saved game, and
runs it for a number of ticks.  On request it writes a sample of every tick, saves the
game or the room, or only checks that the scenario can be built.
-/

set_option autoImplicit false

namespace Adventure.Command.Play

open Arguments (Grammar Given)

/-- The options of the command. -/
def grammar : Grammar where
  options :=
    [⟨"scenario", .path⟩, ⟨"ticks", .number 4294967295⟩, ⟨"generation", .number 255⟩,
      ⟨"trace-json", .path⟩, ⟨"save", .path⟩, ⟨"save-room", .path⟩, ⟨"resume", .path⟩,
      ⟨"verbose", .nothing⟩, ⟨"check", .nothing⟩]
  operands := 0

/-- The text of the help option. -/
def help : String :=
  "\n".intercalate
    ["Runs a walk-box and script scheduler scenario tick by tick",
      "",
      "Usage: scumm_engine [OPTIONS] --scenario <SCENARIO>",
      "",
      "Options:",
      "      --scenario <SCENARIO>      Scenario JSON describing rooms, actors and scripts",
      "      --ticks <TICKS>            Number of ticks to simulate [default: 100]",
      "      --generation <GENERATION>  Engine generation (3-6); overrides the scenario's own setting",
      "      --trace-json <TRACE_JSON>  Path to write the per-tick trace as JSON",
      "      --save <SAVE>              Path to write a session save after the last tick",
      "      --save-room <SAVE_ROOM>    Path to write the current room's box flags, matrix and scale slots after the last tick",
      "      --resume <RESUME>          Session save to continue from instead of running the boot scripts",
      "      --verbose                  Print every engine event as it happens",
      "      --check                    Assemble and build the scenario without running it",
      "  -h, --help                     Print help",
      "  -V, --version                  Print version"]

/-- The text of the version option. -/
def version : String := "scumm_engine 0.1.0"

/-- How many ticks are run when nothing else is said. -/
def standardTicks : Nat := 100

variable {m : Type → Type} [Monad m]

/-- Reads a scenario file. -/
def loadScenario (disk : Disk m) (path : String) : Session m Scenario := do
  let content ← readFile disk "reading scenario from" path
  match Bytes.text? content with
  | none => fail [s!"reading scenario from {path}", FileError.notText.message]
  | some text =>
    match Scenario.parse? text with
    | some scenario => pure scenario
    | none => fail [s!"parsing scenario from {path}", "the text is no scenario"]

/-- The rules to play by. -/
def chooseRules (requested : Option UInt8) (scenario : Scenario) : Session m Rules :=
  let generation := scenario.chosenGeneration requested
  match Rules.preset? generation with
  | some rules => pure rules
  | none => fail [s!"generation {generation.toNat} is not supported"]

/-- Reads all files that a scenario mentions. -/
def collectFiles (disk : Disk m) (paths : List String) :
    Session m (List (String × Except FileError Bytes)) :=
  paths.mapM fun path => do
    let content ← (disk.read path : m _)
    pure (path, content)

/-- Builds a scenario that stands at a path. -/
def build (disk : Disk m) (path : String) (scenario : Scenario) (rules : Rules) :
    Session m Machine := do
  let directory := Path.parent path
  let files ← collectFiles disk (scenario.paths directory)
  let source : FileSource := fun path => (files.lookup path).getD (.error .missing)
  match scenario.build source directory rules with
  | .ok built => pure built
  | .error error =>
    match error.fault? with
    | some _ => throw .crashed
    | none => fail (s!"building scenario {path}" :: error.trail)

/-- Continues a saved game. -/
def resume (disk : Disk m) (path : String) (scenario : Scenario) (game : Machine) :
    Session m Machine := do
  let saved ←
    match ← (disk.read path : m _) with
    | .error error => fail (s!"reading session save from {path}" :: (SaveError.io error).trail)
    | .ok content =>
      match Save.decodeSession content with
      | .error error => fail (s!"reading session save from {path}" :: error.trail)
      | .ok (_, saved) => pure saved
  if !scenario.boot.isEmpty then
    let skipped := scenario.boot.length
    remark s!"[scumm_engine] info: skipping {skipped} boot scripts when resuming from {path}"
  match Machine.reinstate saved game with
  | .ok _ game => pure game
  | .error (.failed error) _ => fail [s!"restoring session from {path}", error.message]
  | .error (.fault _) _ => throw .crashed

/-- Starts the first scripts of a scenario. -/
def start (scenario : Scenario) (game : Machine) : Session m Machine :=
  match Machine.startAll Machine.ampleFuel scenario.boot game with
  | .ok game => pure game
  | .error (script, .failed error) => fail [s!"starting boot script {script.toNat}", error.message]
  | .error (_, .fault _) => throw .crashed

/-- Runs one tick, after skipping the running cutscene if the scenario wants that. -/
def tick (scenario : Scenario) (game : Machine) : Session m Machine := do
  let number := game.tick + 1
  if game.tick < Machine.tickLimit then
    let ready := if scenario.abortAt.contains number then game.abortCutscene else game
    match Machine.runTick Machine.ampleFuel ready with
    | .ok _ game => pure game
    | .error (.failed error) _ => fail [s!"running tick {number}", error.message]
    | .error (.fault _) _ => throw .crashed
  else throw .crashed

/-- Prints the events of a sample. -/
def sayEvents (sample : TickSample) : Session m Unit :=
  let shown := Digits.padLeft 5 ' ' sample.tick.repr
  sample.events.forM fun event => sayLine s!"[{shown}] {event}"

/-- Runs a number of ticks and takes a sample after each; samples are kept last first. -/
def runTicks (scenario : Scenario) (verbose : Bool) :
    Nat → Machine → List TickSample → Session m (Machine × List TickSample)
  | 0, game, samples => pure (game, samples)
  | count + 1, game, samples => do
    let game ← tick scenario game
    let sample := game.sample
    if verbose then sayEvents sample
    runTicks scenario verbose count game.drained (sample :: samples)

/-- Writes the samples of all ticks. -/
def writeTrace (disk : Disk m) (path : String) (samples : List TickSample) : Session m Unit := do
  let text := Json.pretty (.listOf TickSample.toDatum samples)
  writeFile disk "writing tick trace to" path (Bytes.ofText text)
  sayLine s!"Saved tick trace to {path}"

/-- Writes a save file. -/
def writeSave (disk : Disk m) (trying path : String) (content : Except SaveError Bytes) :
    Session m Unit := do
  match content with
  | .error error => fail (s!"{trying} {path}" :: error.trail)
  | .ok content =>
    match ← (disk.write path content : m _) with
    | .ok () => pure ()
    | .error error => fail (s!"{trying} {path}" :: (SaveError.io error).trail)

/-- Writes everything that was asked for. -/
def writeResults (disk : Disk m) (given : Given) (game : Machine) (samples : List TickSample) :
    Session m Unit := do
  match given.value? "trace-json" with
  | some path => writeTrace disk path samples
  | none => pure ()
  match given.value? "save" with
  | some path =>
    writeSave disk "writing session save to" path game.saveSession
    sayLine s!"Saved session at tick {game.tick} to {path}"
  | none => pure ()
  match given.value? "save-room" with
  | some path =>
    writeSave disk "writing room save to" path game.saveRoom
    sayLine s!"Saved room {game.room.number.toNat} state to {path}"
  | none => pure ()

/-- The generation that was asked for. -/
def requestedGeneration (given : Given) : Option UInt8 :=
  (given.number? "generation").map UInt8.ofNat

/-- Builds and runs a scenario. -/
def runScenario (disk : Disk m) (path : String) (given : Given) : Session m Unit := do
  let scenario ← loadScenario disk path
  let rules ← chooseRules (requestedGeneration given) scenario
  let built ← build disk path scenario rules
  let game ←
    match given.value? "resume" with
    | some saved => resume disk saved scenario built
    | none => start scenario built
  let ticks := (given.number? "ticks").getD standardTicks
  let (game, samples) ←
    runTicks scenario (given.has "verbose") ticks game.drained [game.sample]
  writeResults disk given game samples.reverse
  let room := game.room.number.toNat
  let live := game.liveSlots.length
  let depth := game.cutscenes.pointer.val
  sayLine s!"Ran {ticks} ticks in room {room}: {live} live scripts, cutscene depth {depth}"

/-- Only builds a scenario. -/
def checkScenario (disk : Disk m) (path : String) (given : Given) : Session m Unit := do
  let scenario ← loadScenario disk path
  let rules ← chooseRules (requestedGeneration given) scenario
  let game ← build disk path scenario rules
  let rooms := scenario.rooms.length
  let scripts := scenario.scripts.length
  let room := game.room.number.toNat
  let boxes := game.room.boxes.length
  sayLine (s!"Scenario {path} builds for generation {rules.generation.toNat}: {rooms} rooms, " ++
    s!"{scripts} global scripts, start room {room} with {boxes} boxes")

/-- Refuses options that do not go together. -/
def validate (given : Given) : Session m Unit := do
  match given.number? "generation" with
  | some generation =>
    if generation < 3 ∨ 6 < generation then
      fail [s!"--generation must be between 3 and 6, got {generation}"]
  | none => pure ()
  if given.has "check" then
    if given.has "resume" || given.has "save" || given.has "save-room" then
      fail ["--check cannot be combined with --resume, --save or --save-room"]
    match given.value? "trace-json" with
    | some path => remark s!"[scumm_engine] warning: --trace-json={path} ignored with --check"
    | none => pure ()

/-- The whole command. -/
def session (disk : Disk m) (args : List String) : Session m Unit := do
  let given ← arguments grammar help version args
  match given.value? "scenario" with
  | none => throw .misuse
  | some path =>
    validate given
    if given.has "check" then checkScenario disk path given else runScenario disk path given

end Adventure.Command.Play
