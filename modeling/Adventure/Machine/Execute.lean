import Adventure.Machine.Schedule
import Adventure.Room.Adjacency

/-!
# Running code

One instruction is fetched and performed by `instruct`: the byte of the operation says
which handler reads the operands that follow it (`handle`) and acts on them (`perform`).
An instruction that starts another script only prepares a slot for it: it answers with a
`Call`, and the slot is run at once, before the executing script goes on.  How to run a
slot is a parameter of everything that carries out calls, and `execute` closes the
circle: it performs instructions until the executing slot gives up control, at most
`fuel` of them on each level.
-/

set_option autoImplicit false

namespace Adventure.Machine

/-! ## Fetching -/

/-- Reads from the code at the program counter, which moves along. -/
def fetch {α : Type} (read : Code → Fetch α) : Run α := fun m =>
  match read m.code m.pc with
  | .ok (value, pc) => .ok value { m with pc := pc }
  | .error offset => .error (.failed (.codeOverrun m.currentNumber offset)) { m with pc := offset }

/-- Makes a slot's code the one that is read, from the slot's offset on. -/
def loadSlotCode (id : SlotId) : Run Unit := do
  let m ← get
  match m.slots.get? id with
  | none => Run.fail (.missingScript 0 .global)
  | some slot =>
    match m.library.code? slot.number slot.location with
    | none => Run.fail (.missingScript slot.number slot.location)
    | some code => set { m with code := code, pc := slot.offset }

/-- Moves the program counter by a distance. -/
def jumpBy (distance : Int) : Run Unit := do
  let m ← get
  let target : Int := m.pc + distance
  if target < 0 then Run.fail (.invalidJump m.currentNumber target)
  else set { m with pc := target.toNat }

/-! ## Giving up control -/

/-- The executing script goes on from here in the next tick. -/
def yieldHere (m : Machine) : Machine :=
  { m.changeCurrent (fun slot => { slot with offset := m.pc }) with current := none }

/-- The executing script repeats its instruction in the next tick. -/
def retryNextTick (m : Machine) : Machine := { m with pc := m.opStart }.yieldHere

/-- The executing script waits a number of ticks. -/
def delayCurrent (m : Machine) (ticks : Int) : Machine :=
  (m.changeCurrent fun slot => { slot with delay := ticks, status := .paused }).yieldHere

/-! ## Starting scripts -/

/-- The call frame of the executing script. -/
def callFrame (m : Machine) : CallFrame :=
  match m.current with
  | none => .host
  | some caller =>
    match m.slots.get? caller with
    | some slot => ⟨slot.number, slot.location, some caller⟩
    | none => .host

/-- Whether the script that waits in a frame can go on. -/
def isResumable (m : Machine) (frame : CallFrame) (caller : SlotId) : Bool :=
  match m.slots.get? caller with
  | some slot =>
    slot.number == frame.number && slot.location == frame.location && !slot.isDead &&
      slot.freezeCount == 0
  | none => false

/-- Ends the innermost call and goes on with its caller if that is still possible. -/
def returnToCaller : Run Unit := do
  let m ← get
  match m.calls with
  | [] => set { m with current := none }
  | frame :: outer =>
    set { m with calls := outer, current := none }
    if frame.number = 0 then pure ()
    else
      match frame.slot with
      | none => pure ()
      | some caller =>
        if m.isResumable frame caller then
          modify fun m => { m with current := some caller }
          loadSlotCode caller
        else pure ()

/-- Lets the executing script wait and makes another slot the executing one. -/
def enter (id : SlotId) : Run Unit := do
  let m ← get
  let saved := m.changeCurrent fun slot => { slot with offset := m.pc }
  set saved
  match saved.calls.push? m.callFrame with
  | none => Run.fail (.nestingOverflow CallStack.limit)
  | some calls =>
    set { saved with calls := calls, current := some id }
    loadSlotCode id

/-- Runs a slot on behalf of the executing script, which goes on afterwards. -/
def runNested (run : Run Unit) (id : SlotId) : Run Unit := do
  enter id
  run
  returnToCaller

/-- A slot that has to run before the executing script goes on. -/
structure Call where
  slot : SlotId
  /-- Whether the slot runs the start hook of a cutscene. -/
  opening : Bool
  deriving DecidableEq, Repr

/-- The machine when no cutscene is just being opened. -/
def forgetOpener (m : Machine) : Machine := { m with cutsceneScript := none }

/-- Carries out a call, if there is one.  When the start hook of a cutscene has run, the
cutscene is no longer just being opened. -/
def answer (run : Run Unit) : Option Call → Run Unit
  | none => pure ()
  | some call =>
    if call.opening then Run.finally_ (runNested run call.slot) forgetOpener
    else runNested run call.slot

/-- The place of a script's code: low numbers are global. -/
def scriptLocation (m : Machine) (number : UInt16) : ScriptLocation :=
  if number < m.rules.globalScripts then .global else .local_

/-- Takes the first free slot for a script. -/
def claimSlot (number : UInt16) (location : ScriptLocation) (offset : Nat)
    (freezeResistant recursive : Bool) (args : List Int) (report : SlotId → String) :
    Run SlotId := do
  match (← get).slots.findFree with
  | none => Run.fail (.slotTableExhausted number)
  | some id =>
    modify fun m =>
      m.changeSlot id fun _ => .start number location offset freezeResistant recursive args
    Run.log (report id)
    pure id

/-- Stops the instances that run already, unless another one may run beside them. -/
def giveWay (recursive : Bool) (stop : Run Unit) : Run Unit := if recursive then pure () else stop

/-- Prepares a slot for a script.  Unless the start is recursive, running instances of the
script are stopped first. -/
def prepareScript (number : UInt16) (freezeResistant recursive : Bool) (args : List Int) :
    Run (Option SlotId) :=
  if number = 0 then pure none
  else do
    giveWay recursive (stopScript number)
    let m ← get
    let location := m.scriptLocation number
    if (m.library.code? number location).isNone then Run.fail (.missingScript number location)
    else
      let id ← claimSlot number location 0 freezeResistant recursive args fun id =>
        s!"script.start {number.toNat} slot {id}"
      pure (some id)

/-- Starts a script and runs it until it gives up control. -/
def startScript (run : Run Unit) (number : UInt16) (freezeResistant recursive : Bool)
    (args : List Int) : Run Unit := do
  let slot ← prepareScript number freezeResistant recursive args
  answer run (slot.map (⟨·, false⟩))

/-- Prepares a slot for a verb of an object.  Unless the start is recursive, running
instances of the object are stopped first.  Objects that cannot be found and verbs without
an entry are ignored. -/
def prepareObject (object : UInt16) (verb : UInt8) (freezeResistant recursive : Bool)
    (args : List Int) : Run (Option SlotId) :=
  if object = 0 then pure none
  else do
    giveWay recursive (stopObject object)
    let m ← get
    match m.library.locate? object with
    | none => pure none
    | some location =>
      match (m.library.object? object location).bind (·.verbOffset? verb) with
      | none => pure none
      | some offset =>
        let id ← claimSlot object location offset freezeResistant recursive args fun id =>
          s!"object.start {object.toNat} verb {verb.toNat} slot {id}"
        pure (some id)

/-- Starts a verb of an object and runs it until it gives up control. -/
def startObject (run : Run Unit) (object : UInt16) (verb : UInt8)
    (freezeResistant recursive : Bool) (args : List Int) : Run Unit := do
  let slot ← prepareObject object verb freezeResistant recursive args
  answer run (slot.map (⟨·, false⟩))

/-! ## Cutscenes -/

/-- Opens a cutscene that belongs to the executing script and prepares the start hook with
the same arguments. -/
def openCutscene (args : List Int) : Run (Option Call) := do
  let owner := (← get).current
  modify fun m =>
    m.changeCurrent fun slot => { slot with cutsceneOverride := Slot.countUp slot.cutsceneOverride }
  let data := args.headD 0
  match (← get).cutscenes.push? data with
  | none => Run.fail .cutsceneStackOverflow
  | some cutscenes =>
    modify fun m => { m with cutscenes := cutscenes }
    Run.log s!"cutscene.begin {cutscenes.pointer.val} data {data}"
    modify fun m => { m with cutsceneScript := owner }
    let hook := (← get).hooks.start
    match ← Run.onFailure (prepareScript hook false false args) forgetOpener with
    | none =>
      modify forgetOpener
      pure none
    | some id => pure (some ⟨id, true⟩)

/-- Opens a cutscene and runs the start hook. -/
def beginCutscene (run : Run Unit) (args : List Int) : Run Unit := do
  let call ← openCutscene args
  answer run call

/-- The machine with one hold of the executing script on cutscenes released. -/
def releaseHold (m : Machine) : Machine :=
  m.changeCurrent fun slot => { slot with cutsceneOverride := Slot.countDown slot.cutsceneOverride }

/-- Closes the innermost cutscene and prepares the end hook with its data. -/
def closeCutscene : Run (Option Call) := do
  modify releaseHold
  let m ← get
  let top := m.cutscenes.top
  let released := if top.resumeOffset.isSome then m.releaseHold else m
  match m.cutscenes.pop? with
  | none =>
    set { released with overrideActive := false, cutscenes := m.cutscenes.clearTop }
    Run.fail .cutsceneStackUnderflow
  | some cutscenes =>
    set { released with overrideActive := false, cutscenes := cutscenes }
    Run.log s!"cutscene.end {m.cutscenes.pointer.val}"
    let slot ← prepareScript m.hooks.stop false false [top.data]
    pure (slot.map (⟨·, false⟩))

/-- Closes the innermost cutscene and runs the end hook. -/
def endCutscene (run : Run Unit) : Run Unit := do
  let call ← closeCutscene
  answer run call

/-- Skips the running cutscene: the script that armed the override goes on at its
checkpoint.  Without an armed override nothing happens. -/
def abortCutscene (m : Machine) : Machine :=
  match m.cutscenes.top.resumeOffset, m.cutscenes.top.ownerSlot with
  | some offset, some owner =>
    let redirected := m.changeSlot owner fun slot =>
      { slot with
        offset := offset
        status := .running
        delay := 0
        freezeCount := 0
        cutsceneOverride := Slot.countDown slot.cutsceneOverride }
    { redirected with
      overrideActive := true
      cutscenes := m.cutscenes.modifyTop fun frame => { frame with resumeOffset := none } }.logged
      s!"cutscene.abort slot {owner} -> {Digits.hexWithMark 6 offset}"
  | _, _ => m

/-- Arms the override at the jump that follows and steps over that jump. -/
def beginOverride : Run Unit := do
  modify fun m =>
    { m with
      cutscenes := m.cutscenes.modifyTop fun frame =>
        { frame with resumeOffset := some m.pc, ownerSlot := m.current } }
  let _ ← fetch Code.byte
  let _ ← fetch Code.word
  modify fun m =>
    if m.rules.overrideClearsFlagOnBegin then { m with overrideActive := false } else m

/-- Disarms the override. -/
def endOverride (m : Machine) : Machine :=
  { m with
    cutscenes := m.cutscenes.modifyTop fun frame => { frame with resumeOffset := none }
    overrideActive := if m.rules.endOverrideClearsFlag then false else m.overrideActive }

/-! ## Rooms -/

/-- Enters a room: scripts of the old room end, and actors who are in the new one are
snapped into it.  A room that does not exist is ignored. -/
def changeRoom (number : UInt8) : Run Unit := do
  let m ← get
  match m.rooms.get? number with
  | none => pure ()
  | some loaded =>
    let left := m.stopRoomScripts
    set <|
      { left with
        room := { loaded.geometry with number := number }
        library := { left.library with room := loaded.code } }.logged s!"room.load {number.toNat}"
    let present := (m.cast.driven.filter fun actor => actor.room == number).map (·.number)
    present.forM fun actor => Run.driveActor actor Stage.settle

/-! ## Instructions -/

/-- Jumps when a test of a local variable has a given outcome. -/
def jumpOnLocal (index : UInt8) (distance : Int) (whenZero : Bool) : Run Unit := do
  if (decide ((← get).localValue index.toNat = 0)) == whenZero then jumpBy distance else pure ()

/-- The number of a truth value. -/
def truthValue (b : Bool) : Int := if b then 1 else 0

/-- An instruction that starts no other script. -/
def alone (run : Run Unit) : Run (Option Call) := do
  run
  pure none

/-- Performs an instruction, up to the call it makes. -/
def perform : (operation : Operation) → Operands operation.shape → Run (Option Call)
  | .end_, () => alone <| modify stopCurrent
  | .break_, () => alone <| modify yieldHere
  | .delay, (ticks, ()) => alone <| modify fun m => m.delayCurrent ticks.toNat
  | .jump, (distance, ()) => alone <| jumpBy distance
  | .setLocal, (index, value, ()) => alone <| modify fun m => m.setLocal index.toNat value
  | .addLocal, (index, value, ()) => alone <|
    modify fun m => m.setLocal index.toNat (Word.wrap32 (m.localValue index.toNat + value))
  | .jumpIfZero, (index, distance, ()) => alone <| jumpOnLocal index distance true
  | .startScript, (number, flags, args, ()) => do
    let slot ← prepareScript number (flags &&& 1 != 0) (flags &&& 2 != 0) args
    pure (slot.map (⟨·, false⟩))
  | .stopScript, (number, ()) => alone <|
    if number = 0 then modify stopCurrent else stopScript number
  | .startObject, (object, verb, flags, args, ()) => do
    let slot ← prepareObject object verb (flags &&& 1 != 0) (flags &&& 2 != 0) args
    pure (slot.map (⟨·, false⟩))
  | .stopObject, (object, ()) => alone <| stopObject object
  | .freeze, (flag, ()) => alone <|
    modify fun m => if flag = 0 then m.unfreezeScripts else m.freezeScripts flag
  | .beginCutscene, (args, ()) => openCutscene args
  | .endCutscene, () => closeCutscene
  | .beginOverride, () => alone <| beginOverride
  | .endOverride, () => alone <| modify endOverride
  | .waitActor, (number, ()) => alone <|
    modify fun m =>
      if (m.cast.get? number).any (·.isMoving) then m.retryNextTick else m
  | .waitScript, (number, ()) => alone <|
    modify fun m => if m.isScriptRunning number then m.retryNextTick else m
  | .walkActor, (number, x, y, facing, ()) => alone <|
    Run.driveActor number fun stage =>
      stage.startWalk ⟨x, y⟩ (if 0 ≤ facing then some facing else none)
  | .putActor, (number, x, y, room, ()) => alone <|
    Run.driveActor number fun stage => stage.put ⟨x, y⟩ room
  | .faceActor, (number, facing, ()) => alone <|
    Run.driveActor number fun _ => Walk.change (·.turnTo (some facing))
  | .actorSpeed, (number, speedX, speedY, ()) => alone <|
    Run.driveActor number fun _ => Walk.change (·.setSpeed speedX.toNat speedY.toNat)
  | .setBoxFlags, (box, value, ()) => alone <|
    modify fun m => { m with room := m.room.setBoxFlags box value }
  | .createBoxMatrix, () => alone <|
    modify fun m =>
      { m with room := m.room.rebuildMatrix }.logged s!"room.matrix {m.room.boxes.length} boxes"
  | .setScaleSlot, (slot, y1, scale1, y2, scale2, ()) => alone <|
    modify fun m => { m with room := m.room.setRamp slot (.vertical y1 scale1 y2 scale2) }
  | .setVar, (index, value, ()) => alone <| modify fun m => m.setVar index.toNat value
  | .overrideToLocal, (index, ()) => alone <|
    modify fun m => m.setLocal index.toNat (truthValue m.overrideActive)
  | .ignoreBoxes, (number, ignore, ()) => alone <|
    Run.driveActor number fun stage => do
      Walk.change fun actor => { actor with ignoreBoxes := ignore != 0 }
      let actor ← Walk.actor
      stage.put actor.pos actor.room
  | .setEgo, (number, ()) => alone <| modify fun m => m.setEgo number
  | .loadRoom, (number, ()) => alone <| changeRoom number
  | .actorCostume, (number, costume, ()) => alone <|
    Run.driveActor number fun _ =>
      Walk.change fun actor => { actor with costume := costume, needRedraw := true }
  | .stopActor, (number, ()) => alone <|
    Run.driveActor number fun stage => do
      if (← Walk.actor).isMoving then stage.halt else pure ()
  | .jumpIfNotZero, (index, distance, ()) => alone <| jumpOnLocal index distance false
  | .isScriptRunning, (index, number, ()) => alone <|
    modify fun m => m.setLocal index.toNat (truthValue (m.isScriptRunning number))
  | .isObjectRunning, (index, object, ()) => alone <|
    modify fun m => m.setLocal index.toNat (truthValue (m.isRoomScriptRunning object))

/-- The handler of an operation: reads the operands one after the other and performs the
operation with them. -/
def handle : Operation → Run (Option Call)
  | .end_ => perform .end_ ()
  | .break_ => perform .break_ ()
  | .delay => do
    let ticks ← fetch Code.word
    perform .delay (ticks, ())
  | .jump => do
    let distance ← fetch Code.int
    perform .jump (distance, ())
  | .setLocal => do
    let index ← fetch Code.byte
    let value ← fetch Code.int
    perform .setLocal (index, value, ())
  | .addLocal => do
    let index ← fetch Code.byte
    let value ← fetch Code.int
    perform .addLocal (index, value, ())
  | .jumpIfZero => do
    let index ← fetch Code.byte
    let distance ← fetch Code.int
    perform .jumpIfZero (index, distance, ())
  | .startScript => do
    let number ← fetch Code.word
    let flags ← fetch Code.byte
    let args ← fetch Code.args
    perform .startScript (number, flags, args, ())
  | .stopScript => do
    let number ← fetch Code.word
    perform .stopScript (number, ())
  | .startObject => do
    let object ← fetch Code.word
    let verb ← fetch Code.byte
    let flags ← fetch Code.byte
    let args ← fetch Code.args
    perform .startObject (object, verb, flags, args, ())
  | .stopObject => do
    let object ← fetch Code.word
    perform .stopObject (object, ())
  | .freeze => do
    let flag ← fetch Code.byte
    perform .freeze (flag, ())
  | .beginCutscene => do
    let args ← fetch Code.args
    perform .beginCutscene (args, ())
  | .endCutscene => perform .endCutscene ()
  | .beginOverride => perform .beginOverride ()
  | .endOverride => perform .endOverride ()
  | .waitActor => do
    let number ← fetch Code.byte
    perform .waitActor (number, ())
  | .waitScript => do
    let number ← fetch Code.word
    perform .waitScript (number, ())
  | .walkActor => do
    let number ← fetch Code.byte
    let x ← fetch Code.int
    let y ← fetch Code.int
    let facing ← fetch Code.int
    perform .walkActor (number, x, y, facing, ())
  | .putActor => do
    let number ← fetch Code.byte
    let x ← fetch Code.int
    let y ← fetch Code.int
    let room ← fetch Code.byte
    perform .putActor (number, x, y, room, ())
  | .faceActor => do
    let number ← fetch Code.byte
    let facing ← fetch Code.int
    perform .faceActor (number, facing, ())
  | .actorSpeed => do
    let number ← fetch Code.byte
    let speedX ← fetch Code.byte
    let speedY ← fetch Code.byte
    perform .actorSpeed (number, speedX, speedY, ())
  | .setBoxFlags => do
    let box ← fetch Code.byte
    let value ← fetch Code.word
    perform .setBoxFlags (box, value, ())
  | .createBoxMatrix => perform .createBoxMatrix ()
  | .setScaleSlot => do
    let slot ← fetch Code.byte
    let y1 ← fetch Code.int
    let scale1 ← fetch Code.int
    let y2 ← fetch Code.int
    let scale2 ← fetch Code.int
    perform .setScaleSlot (slot, y1, scale1, y2, scale2, ())
  | .setVar => do
    let index ← fetch Code.word
    let value ← fetch Code.int
    perform .setVar (index, value, ())
  | .overrideToLocal => do
    let index ← fetch Code.byte
    perform .overrideToLocal (index, ())
  | .ignoreBoxes => do
    let number ← fetch Code.byte
    let ignore ← fetch Code.byte
    perform .ignoreBoxes (number, ignore, ())
  | .setEgo => do
    let number ← fetch Code.byte
    perform .setEgo (number, ())
  | .loadRoom => do
    let number ← fetch Code.byte
    perform .loadRoom (number, ())
  | .actorCostume => do
    let number ← fetch Code.byte
    let costume ← fetch Code.word
    perform .actorCostume (number, costume, ())
  | .stopActor => do
    let number ← fetch Code.byte
    perform .stopActor (number, ())
  | .jumpIfNotZero => do
    let index ← fetch Code.byte
    let distance ← fetch Code.int
    perform .jumpIfNotZero (index, distance, ())
  | .isScriptRunning => do
    let index ← fetch Code.byte
    let number ← fetch Code.word
    perform .isScriptRunning (index, number, ())
  | .isObjectRunning => do
    let index ← fetch Code.byte
    let object ← fetch Code.word
    perform .isObjectRunning (index, object, ())

/-- Fetches and performs one instruction of a slot, up to the call it makes. -/
def instruct (id : SlotId) : Run (Option Call) := do
  modify fun m => { m with opStart := m.pc }
  let opcode ← fetch Code.byte
  modify fun m => m.changeSlot id fun slot => { slot with executed := true }
  match Operation.ofCode? opcode with
  | none =>
    let m ← get
    Run.fail (.unknownOpcode opcode m.currentNumber m.opStart)
  | some operation => handle operation

/-- Carries out one instruction of a slot with the call it makes. -/
def step (run : Run Unit) (id : SlotId) : Run Unit := do
  let call ← instruct id
  answer run call

/-- Performs instructions until the executing slot gives up control. -/
def execute : (fuel : Nat) → Run Unit
  | 0 => throw (.fault .outOfFuel)
  | fuel + 1 => do
    match (← get).current with
    | none => pure ()
    | some id =>
      step (execute fuel) id
      execute fuel

end Adventure.Machine
