import Adventure.Proofs.Machine.Handlers
import Mathlib.Logic.Relation

/-!
# What an instruction can do

The instructions of a script are many, but they change the machine in few ways.
`Effect` lists these ways once: the executing script changes something beside the
scripts, or its own variables; it gives up control or ends; running scripts are
stopped, frozen or released; a room is entered.  `Leap` lists the instructions that
move the program counter, and `Claimed` is the start of a script in a free slot.

`perform_ok` says that every instruction that ends well is a chain of effects, a leap,
or a chain of effects followed by a claim.  What holds for effects, leaps and claims
holds for all instructions.
-/

set_option autoImplicit false

namespace Adventure

/-! ## What stays the same -/

/-- The same room up to what scripts can change in it. -/
structure Room.SameShape (before after : Room) : Prop where
  number : after.number = before.number
  boxes : after.boxes.map (fun box => { box with flags := .none }) =
    before.boxes.map fun box => { box with flags := .none }
  extraFlags : after.extraFlags.length = before.extraFlags.length

namespace Room.SameShape

theorem refl (room : Room) : room.SameShape room := ⟨rfl, rfl, rfl⟩

theorem trans {first second third : Room} (earlier : first.SameShape second)
    (later : second.SameShape third) : first.SameShape third :=
  ⟨later.number.trans earlier.number, later.boxes.trans earlier.boxes,
    later.extraFlags.trans earlier.extraFlags⟩

theorem setBoxFlags (room : Room) (id : BoxId) (value : UInt16) :
    room.SameShape (room.setBoxFlags id value) := by
  unfold Room.setBoxFlags
  split
  · exact ⟨rfl, rfl, by simp⟩
  · refine ⟨rfl, ?_, rfl⟩
    apply List.ext_getElem?
    intro index
    simp only [List.getElem?_map, List.getElem?_modify]
    split <;> cases room.boxes[index]? <;> rfl

theorem rebuildMatrix (room : Room) : room.SameShape room.rebuildMatrix := ⟨rfl, rfl, rfl⟩

theorem setRamp (room : Room) (slot : UInt8) (ramp : ScaleRamp) :
    room.SameShape (room.setRamp slot ramp) := by
  unfold Room.setRamp
  split
  · exact ⟨rfl, rfl, rfl⟩
  · exact refl room

end Room.SameShape

namespace CutsceneStack

/-- How scripts change the cutscenes, apart from arming an override. -/
inductive Turns (before : CutsceneStack) : CutsceneStack → Prop where
  | stay : Turns before before
  | opened {after : CutsceneStack} (data : Int) (pushed : before.push? data = some after) :
      Turns before after
  | closed {after : CutsceneStack} (popped : before.pop? = some after) : Turns before after
  | disarmed : Turns before (before.modifyTop fun frame => { frame with resumeOffset := none })

end CutsceneStack

namespace Slot

/-- A slot whose script goes on from an offset, at once or after a number of ticks. -/
def suspended (offset : Nat) (wait : Option Int) (slot : Slot) : Slot :=
  match wait with
  | none => { slot with offset := offset }
  | some ticks => { slot with offset := offset, delay := ticks, status := .paused }

/-- The same script at the same place, up to its variables and its holds on cutscenes. -/
def SameScript (before after : Slot) : Prop :=
  after = { before with locals := after.locals, cutsceneOverride := after.cutsceneOverride }

end Slot

/-- Where a script can be started: at the front of its code, or at a verb of its object. -/
def Library.Entry (library : Library) (number : UInt16) (location : ScriptLocation)
    (offset : Nat) : Prop :=
  (location.isScript = true ∧ (library.code? number location).isSome ∧ offset = 0) ∨
    ∃ object verb, library.object? number location = some object ∧
      object.verbOffset? verb = some offset

/-- A script that can be started has code. -/
theorem Library.Entry.code {library : Library} {number : UInt16} {location : ScriptLocation}
    {offset : Nat} (entry : library.Entry number location offset) :
    (library.code? number location).isSome = true := by
  rcases entry with ⟨_, known, _⟩ | ⟨object, verb, known, _⟩
  · exact known
  · cases location with
    | global => cases known
    | local_ => cases known
    | _ => simp [code?, known]

/-- An object is found among objects. -/
theorem Library.locate?_isObject {library : Library} {number : UInt16} {location : ScriptLocation}
    (located : library.locate? number = some location) : location.isObject = true := by
  unfold locate? at located
  repeat' split at located
  all_goals cases located
  all_goals rfl

/-- Code that does not belong to a room stays when another room's code comes in. -/
theorem Library.code?_room (library : Library) (room : RoomCode) (number : UInt16)
    {location : ScriptLocation} (stays : location.isRoomOwned = false) :
    { library with room := room }.code? number location = library.code? number location := by
  cases location with
  | global => rfl
  | inventory => rfl
  | local_ => cases stays
  | room => cases stays
  | floatingObject => cases stays

namespace Machine

/-! ## Reading changed slots -/

theorem changeCurrent_get? (m : Machine) (change : Slot → Slot) (id : SlotId) :
    (m.changeCurrent change).slots.get? id =
      if m.current = some id then (m.slots.get? id).map change else m.slots.get? id := by
  unfold changeCurrent
  cases m.current with
  | none => simp
  | some other => simp [Bank.get?_modify]

theorem changeCurrent_of_rest {m : Machine} (rest : m.current = none) (change : Slot → Slot) :
    m.changeCurrent change = m := by
  cases m
  cases rest
  rfl

theorem changeCurrent_of_running {m : Machine} {id : SlotId} (running : m.current = some id)
    (change : Slot → Slot) : m.changeCurrent change = m.changeSlot id change := by
  cases m
  cases running
  rfl

theorem stopWhere_get? (m : Machine) (test : Slot → Bool) (waits : CallFrame → Bool)
    (id : SlotId) :
    (m.stopWhere test waits).slots.get? id =
      (m.slots.get? id).map fun slot =>
        if !slot.isDead && test slot then slot.retire else slot := by
  simp only [stopWhere, retireBelow, Bank.get?_mapIdx]
  cases present : m.slots.get? id with
  | none => rfl
  | some slot =>
      obtain ⟨inside, _⟩ := List.getElem?_eq_some_iff.mp present
      rw [m.slots.length_cells] at inside
      simp [inside]

/-- The script that executes after others have been stopped was not among them. -/
theorem stopWhere_current {m : Machine} {test : Slot → Bool} {waits : CallFrame → Bool}
    {id : SlotId} (running : (m.stopWhere test waits).current = some id) :
    m.current = some id ∧
      ∀ slot, m.slots.get? id = some slot → slot.isDead = false → test slot = false := by
  simp only [stopWhere] at running
  split at running
  next => cases running
  next untouched =>
    refine ⟨running, ?_⟩
    intro slot present alive
    refine Bool.eq_false_iff.mpr fun stopped => ?_
    refine untouched (List.any_eq_true.mpr ⟨(id, slot.number), ?_, by simp [running]⟩)
    refine List.mem_filterMap.mpr ⟨(slot, id), List.mem_zipIdx_iff_getElem?.mpr present, ?_⟩
    simp [alive, stopped]

/-- Ending the executing script retires its slot. -/
theorem stopCurrent_eq (m : Machine) :
    ∃ events, m.stopCurrent =
      { m.changeCurrent .retire with current := none, events := events } := by
  cases running : m.current with
  | none =>
      refine ⟨m.events, ?_⟩
      cases m
      cases running
      rfl
  | some id =>
      unfold stopCurrent changeCurrent
      simp only [running]
      cases present : m.slots.get? id with
      | none =>
          refine ⟨m.events, ?_⟩
          have same : m.slots.modify id .retire = m.slots := by
            apply Bank.ext_get?
            intro other
            rw [Bank.get?_modify]
            split
            next here => rw [← here, present, Option.map_none]
            next => rfl
          rw [same]
      | some slot => exact ⟨_, rfl⟩

/-! ## Effects -/

/-- One way in which an instruction changes the machine. -/
inductive Effect : Machine → Machine → Prop where
  /-- Something beside the scripts changes. -/
  | aside (m : Machine) (room : Room) (shape : m.room.SameShape room) (cutscenes : CutsceneStack)
      (overrideActive : Bool) (cutsceneScript : Option SlotId) (vars : Bank Int 256) (cast : Cast)
      (ego : Option UInt8) (events : List String) (turns : m.cutscenes.Turns cutscenes) :
      Effect m
        { m with
          room := room
          cutscenes := cutscenes
          overrideActive := overrideActive
          cutsceneScript := cutsceneScript
          vars := vars
          cast := cast
          ego := ego
          events := events }
  /-- The executing script changes its variables or its marks. -/
  | tune (m : Machine) (change : Slot → Slot) (kept : ∀ slot : Slot, slot.SameScript (change slot)) :
      Effect m (m.changeCurrent change)
  /-- The executing script gives up control, here or at the front of its instruction. -/
  | yield (m : Machine) (offset : Nat) (place : offset = m.pc ∨ offset = m.opStart)
      (wait : Option Int) :
      Effect m { m.changeCurrent (Slot.suspended offset wait) with current := none, pc := offset }
  /-- The executing script ends. -/
  | finish (m : Machine) : Effect m m.stopCurrent
  /-- Scripts are stopped, and the calls of the stopped ones are detached. -/
  | stop (m : Machine) (test : Slot → Bool) (waits : CallFrame → Bool)
      (agree : ∀ slot caller, slot.isDead = false →
        test slot = waits ⟨slot.number, slot.location, caller⟩) :
      Effect m (m.stopWhere test waits)
  /-- Scripts are frozen or released, but the executing one is not frozen. -/
  | refreeze (m : Machine) (slots : SlotTable)
      (kept : ∀ id, ∃ freeze : Slot → UInt8,
        slots.get? id = (m.slots.get? id).map fun slot => { slot with freezeCount := freeze slot })
      (events : List String)
      (spared : ∀ id slot after, m.current = some id → m.slots.get? id = some slot →
        slots.get? id = some after → slot.freezeCount = 0 → after.freezeCount = 0) :
      Effect m { m with slots := slots, events := events }
  /-- A room is entered. -/
  | enterRoom (m : Machine) (number : UInt8) (loaded : LoadedRoom)
      (known : m.rooms.get? number = some loaded) :
      Effect m
        ({ m.stopRoomScripts with
            room := { loaded.geometry with number := number }
            library := { m.library with room := loaded.code } }.logged
          s!"room.load {number.toNat}")

/-- A chain of effects. -/
abbrev Effects : Machine → Machine → Prop := Relation.ReflTransGen Effect

/-- No live slot runs what has the number: a script, or an object, as the place tells. -/
def Vacant (m : Machine) (number : UInt16) (location : ScriptLocation) : Prop :=
  ∀ id slot, m.slots.get? id = some slot → slot.isDead = false → slot.number = number →
    slot.location.isScript ≠ location.isScript

/-- The start of a script in a free slot.  Unless it is recursive, no other instance of the
script runs. -/
inductive Claimed (m : Machine) (id : SlotId) : Machine → Prop where
  | intro (number : UInt16) (location : ScriptLocation) (offset : Nat)
      (freezeResistant recursive : Bool) (args : List Int) (event : String)
      (free : m.slots.findFree = some id) (real : number ≠ 0)
      (entry : m.library.Entry number location offset)
      (vacant : recursive = false → m.Vacant number location) :
      Claimed m id
        ((m.changeSlot id fun _ =>
          .start number location offset freezeResistant recursive args).logged event)

/-- An instruction that moves the program counter. -/
inductive Leap : (operation : Operation) → Operands operation.shape → Machine → Machine → Prop where
  | jump (m : Machine) (distance : Int) (inside : 0 ≤ m.pc + distance) :
      Leap .jump (distance, ()) m { m with pc := (m.pc + distance).toNat }
  | jumpIfZero (m : Machine) (index : UInt8) (distance : Int) (inside : 0 ≤ m.pc + distance) :
      Leap .jumpIfZero (index, distance, ()) m { m with pc := (m.pc + distance).toNat }
  | jumpIfNotZero (m : Machine) (index : UInt8) (distance : Int) (inside : 0 ≤ m.pc + distance) :
      Leap .jumpIfNotZero (index, distance, ()) m { m with pc := (m.pc + distance).toNat }
  /-- An override is armed at the three bytes that follow, which are skipped. -/
  | arm (m : Machine) (present : m.pc + 3 ≤ m.code.length) (overrideActive : Bool) :
      Leap .beginOverride () m
        { m with
          cutscenes := m.cutscenes.modifyTop fun frame =>
            { frame with resumeOffset := some m.pc, ownerSlot := m.current }
          pc := m.pc + 3
          overrideActive := overrideActive }

/-! ## The parts of an instruction -/

section Parts

variable {m m' : Machine}

theorem stopFamily_ok {number : UInt16} {family : ScriptLocation → Bool}
    (done : stopFamily number family m = .ok () m') : Effect m m' := by
  simp only [stopFamily, Run.bind_eq_ok_iff, Run.get_apply] at done
  obtain ⟨_, _, same, rest⟩ := done
  cases same
  cases held : m.heldSlot? number family with
  | some id => simp [held, Run.bind_eq_ok_iff] at rest
  | none =>
      rw [held] at rest
      cases rest
      refine .stop m _ _ ?_
      intro slot caller alive
      simp [runs, alive]

/-- When the instances of a number in a family of places have been stopped, none is left. -/
theorem stopFamily_vacates {number : UInt16} {family : ScriptLocation → Bool}
    (done : stopFamily number family m = .ok () m') {id : SlotId} {slot : Slot}
    (present : m'.slots.get? id = some slot) : runs number family slot = false := by
  simp only [stopFamily, Run.bind_eq_ok_iff, Run.get_apply] at done
  obtain ⟨_, _, same, rest⟩ := done
  cases same
  cases held : m.heldSlot? number family with
  | some id => simp [held, Run.bind_eq_ok_iff] at rest
  | none =>
      rw [held] at rest
      cases rest
      rw [stopWhere_get?] at present
      obtain ⟨before, _, same⟩ := Option.map_eq_some_iff.mp present
      split at same
      · subst same
        simp [runs, Slot.retire, Slot.isDead]
      next untouched =>
        subst same
        refine Bool.eq_false_iff.mpr fun hit => untouched ?_
        have alive : before.isDead = false := by
          simp only [runs, Bool.and_eq_true, Bool.not_eq_true'] at hit
          exact hit.1.2
        simp [alive, hit]

theorem stopScript_ok {number : UInt16} (done : stopScript number m = .ok () m') :
    Effects m m' := by
  unfold stopScript at done
  split at done
  · cases done
    exact .refl
  · exact .single (stopFamily_ok done)

theorem stopObject_ok {number : UInt16} (done : stopObject number m = .ok () m') :
    Effects m m' := by
  unfold stopObject at done
  split at done
  · cases done
    exact .refl
  · exact .single (stopFamily_ok done)

/-- Driving an actor changes the cast and the log. -/
theorem driveActor_ok {number : UInt8} {drive : Stage → Walk Unit}
    (done : Run.driveActor number drive m = .ok () m') :
    ∃ cast events, m' = { m with cast := cast, events := events } := by
  simp only [Run.driveActor, Run.withActor, Run.bind_eq_ok_iff, Run.get_apply] at done
  obtain ⟨_, _, ⟨_, _, same, rest⟩, ended⟩ := done
  cases same
  cases ended
  cases found : m.cast.get? number with
  | none =>
      rw [found] at rest
      cases rest
      exact ⟨_, _, rfl⟩
  | some actor =>
      simp only [found, Run.bind_eq_ok_iff, Run.ofChecked_eq_ok_iff] at rest
      obtain ⟨_, _, ⟨_, rfl⟩, _, _, changed, ended⟩ := rest
      cases changed
      cases ended
      exact ⟨_, _, rfl⟩

theorem forM_driveActor_ok {numbers : List UInt8} {drive : Stage → Walk Unit}
    (done : numbers.forM (fun number => Run.driveActor number drive) m = .ok () m') :
    ∃ cast events, m' = { m with cast := cast, events := events } := by
  induction numbers generalizing m with
  | nil =>
      cases done
      exact ⟨_, _, rfl⟩
  | cons number rest ih =>
      rw [Run.forM_cons, Run.bind_eq_ok_iff] at done
      obtain ⟨_, middle, first, later⟩ := done
      obtain ⟨_, _, rfl⟩ := driveActor_ok first
      obtain ⟨_, _, rfl⟩ := ih later
      exact ⟨_, _, rfl⟩

theorem effect_of_cast (m : Machine) (cast : Cast) (events : List String) :
    Effect m { m with cast := cast, events := events } :=
  .aside m _ (.refl _) _ _ _ _ _ _ _ .stay

/-- Entering a room that exists replaces the room and its code, and moves the cast. -/
theorem changeRoom_known {number : UInt8} {loaded : LoadedRoom}
    (known : m.rooms.get? number = some loaded) (done : changeRoom number m = .ok () m') :
    ∃ cast events, m' =
      { m.stopRoomScripts with
        room := { loaded.geometry with number := number }
        library := { m.library with room := loaded.code }
        cast := cast
        events := events } := by
  simp only [changeRoom, Run.get_bind_apply, known, Run.set_bind_apply] at done
  obtain ⟨cast, events, rfl⟩ := forM_driveActor_ok done
  exact ⟨cast, events, rfl⟩

theorem changeRoom_ok {number : UInt8} (done : changeRoom number m = .ok () m') :
    Effects m m' := by
  cases known : m.rooms.get? number with
  | none =>
      simp only [changeRoom, Run.get_bind_apply, known] at done
      cases done
      exact .refl
  | some loaded =>
      obtain ⟨cast, events, rfl⟩ := changeRoom_known known done
      exact .tail (.single (.enterRoom m number loaded known)) (effect_of_cast _ cast events)

theorem giveWay_ok {recursive : Bool} {stop : Run Unit}
    (stops : ∀ m', stop m = .ok () m' → Effects m m')
    (done : giveWay recursive stop m = .ok () m') : Effects m m' := by
  unfold giveWay at done
  split at done
  · cases done
    exact .refl
  · exact stops m' done

theorem claimSlot_ok {number : UInt16} {location : ScriptLocation} {offset : Nat}
    {freezeResistant recursive : Bool} {args : List Int} {report : SlotId → String} {id : SlotId}
    (real : number ≠ 0) (entry : m.library.Entry number location offset)
    (vacant : recursive = false → m.Vacant number location)
    (done : claimSlot number location offset freezeResistant recursive args report m =
      .ok id m') : Claimed m id m' := by
  simp only [claimSlot, Run.bind_eq_ok_iff, Run.get_apply] at done
  obtain ⟨_, _, same, rest⟩ := done
  cases same
  cases free : m.slots.findFree with
  | none => simp [free] at rest
  | some _ =>
      simp only [free, Run.bind_eq_ok_iff, Run.modify_apply, Run.log_apply] at rest
      obtain ⟨_, _, changed, _, _, reported, ended⟩ := rest
      cases changed
      cases reported
      cases ended
      exact .intro number location offset freezeResistant recursive args _ free real entry vacant

/-- A start that is not recursive finds no instance of its script. -/
theorem giveWay_vacates {number : UInt16} {family : ScriptLocation → Bool} {recursive : Bool}
    (location : ScriptLocation)
    (same : ∀ other : ScriptLocation, other.isScript = location.isScript → family other = true)
    (done : giveWay recursive (stopFamily number family) m = .ok () m') :
    recursive = false → m'.Vacant number location := by
  rintro rfl id slot present alive rfl place
  have idle : runs slot.number family slot = false := stopFamily_vacates done present
  simp [runs, alive, same _ place] at idle

/-- What the preparation of a slot amounts to: nothing to run, or a claimed slot. -/
def Prepared (m : Machine) (slot : Option SlotId) (m' : Machine) : Prop :=
  match slot with
  | none => Effects m m'
  | some id => ∃ middle, Effects m middle ∧ Claimed middle id m'

theorem scriptLocation_isScript (m : Machine) (number : UInt16) :
    (m.scriptLocation number).isScript = true := by
  unfold scriptLocation
  split <;> rfl

theorem prepareScript_ok {number : UInt16} {freezeResistant recursive : Bool} {args : List Int}
    {slot : Option SlotId}
    (done : prepareScript number freezeResistant recursive args m = .ok slot m') :
    Prepared m slot m' := by
  unfold prepareScript at done
  split at done
  next =>
    cases done
    exact .refl
  next real =>
    simp only [Run.bind_eq_ok_iff, Run.get_apply] at done
    obtain ⟨_, middle, stopped, _, _, same, rest⟩ := done
    cases same
    have before : Effects m middle := giveWay_ok (fun _ => stopScript_ok) stopped
    by_cases missing : (middle.library.code? number (middle.scriptLocation number)).isNone = true
    · simp [missing] at rest
    · simp only [missing, Bool.false_eq_true, if_false, Run.bind_eq_ok_iff] at rest
      obtain ⟨id, _, claimed, ended⟩ := rest
      cases ended
      have script := scriptLocation_isScript middle number
      have entry : middle.library.Entry number (middle.scriptLocation number) 0 :=
        .inl ⟨script, Option.isSome_iff_ne_none.mpr (by simpa using missing), rfl⟩
      simp only [stopScript, real, if_false] at stopped
      have vacant := giveWay_vacates _ (fun _ same => same.trans script) stopped
      exact ⟨middle, before, claimSlot_ok real entry vacant claimed⟩

theorem prepareObject_ok {object : UInt16} {verb : UInt8} {freezeResistant recursive : Bool}
    {args : List Int} {slot : Option SlotId}
    (done : prepareObject object verb freezeResistant recursive args m = .ok slot m') :
    Prepared m slot m' := by
  unfold prepareObject at done
  split at done
  next =>
    cases done
    exact .refl
  next real =>
    simp only [Run.bind_eq_ok_iff, Run.get_apply] at done
    obtain ⟨_, middle, stopped, _, _, same, rest⟩ := done
    cases same
    have before : Effects m middle := giveWay_ok (fun _ => stopObject_ok) stopped
    cases located : middle.library.locate? object with
    | none =>
        rw [located] at rest
        cases rest
        exact before
    | some location =>
        simp only [located] at rest
        cases found : (middle.library.object? object location).bind (·.verbOffset? verb) with
        | none =>
            rw [found] at rest
            cases rest
            exact before
        | some offset =>
            simp only [found, Run.bind_eq_ok_iff] at rest
            obtain ⟨id, _, claimed, ended⟩ := rest
            cases ended
            obtain ⟨code, known, placed⟩ := Option.bind_eq_some_iff.mp found
            have object_ := Library.locate?_isObject located
            simp only [stopObject, real, if_false] at stopped
            have vacant := giveWay_vacates location
              (fun _ same => by simpa [ScriptLocation.isObject, same] using object_) stopped
            exact ⟨middle, before,
              claimSlot_ok real (.inr ⟨code, verb, known, placed⟩) vacant claimed⟩

theorem onFailure_ok {α : Type} {run : Run α} {change : Machine → Machine} {value : α}
    (done : Run.onFailure run change m = .ok value m') : run m = .ok value m' := by
  unfold Run.onFailure at done
  split at done
  next ended =>
    cases done
    exact ended
  next => cases done

theorem Prepared.after {middle : Machine} {slot : Option SlotId}
    (prepared : Prepared middle slot m') (before : Effects m middle) : Prepared m slot m' := by
  cases slot with
  | none => exact before.trans prepared
  | some id =>
      obtain ⟨last, effects, claimed⟩ := prepared
      exact ⟨last, before.trans effects, claimed⟩

theorem releaseHold_effect (m : Machine) : Effect m m.releaseHold :=
  .tune m _ fun _ => rfl

theorem openCutscene_ok {args : List Int} {call : Option Call}
    (done : openCutscene args m = .ok call m') : Prepared m (call.map (·.slot)) m' := by
  simp only [openCutscene, Run.bind_eq_ok_iff, Run.get_apply, Run.modify_apply] at done
  obtain ⟨_, _, same, _, _, counted, _, _, same', rest⟩ := done
  cases same
  cases counted
  cases same'
  have first : Effects m (m.changeCurrent fun slot =>
      { slot with cutsceneOverride := Slot.countUp slot.cutsceneOverride }) :=
    .single (.tune m _ fun _ => rfl)
  generalize m.changeCurrent (fun slot =>
    { slot with cutsceneOverride := Slot.countUp slot.cutsceneOverride }) = marked at first rest
  cases pushed : marked.cutscenes.push? (args.headD 0) with
  | none =>
      rw [pushed] at rest
      cases rest
  | some cutscenes =>
      simp only [pushed, Run.bind_eq_ok_iff, Run.modify_apply, Run.log_apply, Run.get_apply] at rest
      obtain ⟨_, _, opened, _, _, logged, _, _, announced, _, _, same, slot, middle, hook, rest⟩ :=
        rest
      cases opened
      cases logged
      cases announced
      cases same
      have prepared := (prepareScript_ok (onFailure_ok hook)).after
        (first.tail (.aside marked _ (.refl _) _ _ _ _ _ _ _ (.opened _ pushed)))
      cases slot with
      | none =>
          simp only [Run.bind_eq_ok_iff, Run.modify_apply] at rest
          obtain ⟨_, _, forgotten, ended⟩ := rest
          cases forgotten
          cases ended
          exact .tail prepared (.aside middle _ (.refl _) _ _ _ _ _ _ _ .stay)
      | some id =>
          cases rest
          exact prepared

theorem closeCutscene_ok {call : Option Call} (done : closeCutscene m = .ok call m') :
    Prepared m (call.map (·.slot)) m' := by
  simp only [closeCutscene, Run.bind_eq_ok_iff, Run.get_apply, Run.modify_apply] at done
  obtain ⟨_, _, released, _, _, same, rest⟩ := done
  cases released
  cases same
  have first : Effects m m.releaseHold := .single (releaseHold_effect m)
  generalize m.releaseHold = loosened at first rest
  have second : Effects m
      (if loosened.cutscenes.top.resumeOffset.isSome then loosened.releaseHold else loosened) := by
    split
    · exact first.tail (releaseHold_effect loosened)
    · exact first
  have scenes : (if loosened.cutscenes.top.resumeOffset.isSome then loosened.releaseHold
      else loosened).cutscenes = loosened.cutscenes := by
    split <;> rfl
  generalize (if loosened.cutscenes.top.resumeOffset.isSome then loosened.releaseHold
    else loosened) = freed at second scenes rest
  cases popped : loosened.cutscenes.pop? with
  | none => simp [popped, Run.bind_eq_ok_iff] at rest
  | some cutscenes =>
      simp only [popped, Run.bind_eq_ok_iff, Run.set_apply, Run.log_apply] at rest
      obtain ⟨_, _, closed, _, _, logged, slot, middle, hook, ended⟩ := rest
      cases closed
      cases logged
      cases ended
      have prepared := (prepareScript_ok hook).after
        (second.tail (.aside freed _ (.refl _) _ _ _ _ _ _ _ (.closed (scenes ▸ popped))))
      cases slot with
      | none => exact prepared
      | some id => exact prepared

theorem yieldHere_effect (m : Machine) : Effect m m.yieldHere := .yield m m.pc (.inl rfl) none

theorem retryNextTick_effect (m : Machine) : Effect m m.retryNextTick :=
  .yield m m.opStart (.inr rfl) none

/-- A script that is to wait is paused and noted at once. -/
theorem delayCurrent_eq (m : Machine) (ticks : Int) :
    m.delayCurrent ticks =
      { m.changeCurrent (Slot.suspended m.pc (some ticks)) with current := none, pc := m.pc } := by
  unfold delayCurrent yieldHere changeCurrent
  cases m.current with
  | none => rfl
  | some id =>
      dsimp only
      congr 1
      apply Bank.ext_cells
      simp only [Bank.cells_modify, List.modify_modify_eq]
      rfl

theorem delayCurrent_effect (m : Machine) (ticks : Int) : Effect m (m.delayCurrent ticks) := by
  rw [delayCurrent_eq]
  exact .yield m m.pc (.inl rfl) (some ticks)

/-- The freezes of a slot after a freeze: one more where it holds, none for the script that is
opening a cutscene. -/
theorem freezeScripts_get? (m : Machine) (flag : UInt8) (id : SlotId) :
    (m.freezeScripts flag).slots.get? id =
      (m.slots.get? id).map fun slot =>
        { slot with
          freezeCount :=
            if m.cutsceneScript = some id then 0
            else if m.isFrozenBy flag id slot then Slot.countUp slot.freezeCount
            else slot.freezeCount } := by
  have frozen : (m.slots.mapIdx fun id slot =>
        if m.isFrozenBy flag id slot then
          { slot with freezeCount := Slot.countUp slot.freezeCount }
        else slot).get? id =
      (m.slots.get? id).map fun slot =>
        { slot with
          freezeCount :=
            if m.isFrozenBy flag id slot then Slot.countUp slot.freezeCount
            else slot.freezeCount } := by
    rw [Bank.get?_mapIdx]
    congr 1
    funext slot
    split <;> rfl
  unfold freezeScripts
  cases m.cutsceneScript with
  | none => simpa [logged] using frozen
  | some opener =>
      dsimp only [logged]
      rw [Bank.get?_modify, frozen]
      by_cases here : opener = id
      · simp only [here, if_true, Option.map_map]
        rfl
      · simp only [here, if_false, Option.some.injEq]

theorem freezeScripts_effect (m : Machine) (flag : UInt8) : Effect m (m.freezeScripts flag) := by
  refine .refreeze m _ (fun id => ⟨_, freezeScripts_get? m flag id⟩) _ ?_
  intro id slot after running present found free
  rw [freezeScripts_get?, present] at found
  cases found
  have spared : m.isFrozenBy flag id slot = false := by simp [isFrozenBy, running]
  simp [spared, free]

theorem unfreezeScripts_effect (m : Machine) : Effect m m.unfreezeScripts := by
  refine .refreeze m _ (fun id => ⟨_, Bank.get?_map _ _ _⟩) _ ?_
  intro id slot after _ present found free
  rw [Bank.get?_map, present] at found
  cases found
  simp [Slot.countDown, free]

theorem jumpBy_ok {distance : Int} (done : jumpBy distance m = .ok () m') :
    0 ≤ m.pc + distance ∧ m' = { m with pc := (m.pc + distance).toNat } := by
  simp only [jumpBy, Run.bind_eq_ok_iff, Run.get_apply] at done
  obtain ⟨_, _, same, rest⟩ := done
  cases same
  by_cases negative : (m.pc : Int) + distance < 0
  · simp [negative] at rest
  · simp only [negative, if_false] at rest
    cases rest
    exact ⟨Int.not_lt.mp negative, rfl⟩

/-- A jump on a local variable is taken or not. -/
theorem jumpOnLocal_ok {index : UInt8} {distance : Int} {whenZero : Bool}
    (done : jumpOnLocal index distance whenZero m = .ok () m') :
    m' = m ∨ 0 ≤ m.pc + distance ∧ m' = { m with pc := (m.pc + distance).toNat } := by
  simp only [jumpOnLocal, Run.bind_eq_ok_iff, Run.get_apply] at done
  obtain ⟨_, _, same, rest⟩ := done
  cases same
  split at rest
  · exact .inr (jumpBy_ok rest)
  · cases rest
    exact .inl rfl

theorem fetch_ok {α : Type} {read : Code → Fetch α} {value : α}
    (done : fetch read m = .ok value m') :
    ∃ pc, read m.code m.pc = .ok (value, pc) ∧ m' = { m with pc := pc } := by
  unfold fetch at done
  split at done
  next value' pc found =>
    cases done
    exact ⟨pc, found, rfl⟩
  next => cases done

/-- An override is armed only when three bytes follow, and they are skipped. -/
theorem beginOverride_ok (done : beginOverride m = .ok () m') : Leap .beginOverride () m m' := by
  simp only [beginOverride, Run.bind_eq_ok_iff, Run.modify_apply] at done
  obtain ⟨_, _, armed, _, _, first, _, _, rest, cleared⟩ := done
  cases armed
  obtain ⟨_, read, rfl⟩ := fetch_ok first
  obtain ⟨_, read', rfl⟩ := fetch_ok rest
  obtain ⟨rfl, _⟩ := Code.byte_ok read
  obtain ⟨rfl, present⟩ := Code.word_ok read'
  cases cleared
  dsimp only at present ⊢
  split
  · exact .arm m (by omega) false
  · exact .arm m (by omega) m.overrideActive

end Parts

/-! ## Whole instructions -/

section Whole

variable {m m' : Machine}

theorem alone_ok {run : Run Unit} {call : Option Call} (done : alone run m = .ok call m') :
    call = none ∧ run m = .ok () m' := by
  simp only [alone, Run.bind_eq_ok_iff] at done
  obtain ⟨_, _, ran, ended⟩ := done
  cases ended
  exact ⟨rfl, ran⟩

/-- An instruction whose part is a chain of effects. -/
theorem prepared_of_alone {run : Run Unit} {call : Option Call}
    (effects : ∀ m', run m = .ok () m' → Effects m m') (done : alone run m = .ok call m') :
    Prepared m (call.map (·.slot)) m' := by
  obtain ⟨rfl, ran⟩ := alone_ok done
  exact effects m' ran

/-- An instruction that is one effect. -/
theorem prepared_of_effect {change : Machine → Machine} {call : Option Call}
    (effect : Effect m (change m)) (done : alone (modify change) m = .ok call m') :
    Prepared m (call.map (·.slot)) m' := by
  obtain ⟨rfl, ran⟩ := alone_ok done
  cases ran
  exact .single effect

theorem prepared_of_driveActor {number : UInt8} {drive : Stage → Walk Unit} {call : Option Call}
    (done : alone (Run.driveActor number drive) m = .ok call m') :
    Prepared m (call.map (·.slot)) m' := by
  refine prepared_of_alone (fun _ ran => ?_) done
  obtain ⟨cast, events, rfl⟩ := driveActor_ok ran
  exact .single (effect_of_cast m cast events)

theorem setLocal_effect (m : Machine) (index : Nat) (value : Int) :
    Effect m (m.setLocal index value) :=
  .tune m _ fun _ => rfl

theorem prepared_of_slot {run : Run (Option SlotId)} {call : Option Call}
    (prepares : ∀ slot m', run m = .ok slot m' → Prepared m slot m')
    (done : (run >>= fun slot => pure (slot.map fun id => (⟨id, false⟩ : Call))) m = .ok call m') :
    Prepared m (call.map (·.slot)) m' := by
  obtain ⟨slot, _, prepared, ended⟩ := Run.bind_eq_ok_iff.mp done
  cases ended
  rw [Option.map_map, Function.comp_def, Option.map_id']
  exact prepares slot m' prepared

/-- **What an instruction does**: it leaps, or it is a chain of effects, after which a slot
may be claimed for a call. -/
theorem perform_ok {operation : Operation} {operands : Operands operation.shape}
    {call : Option Call} (done : perform operation operands m = .ok call m') :
    (call = none ∧ Leap operation operands m m') ∨ Prepared m (call.map (·.slot)) m' := by
  cases operation with
  | end_ => exact .inr (prepared_of_effect (.finish m) done)
  | break_ => exact .inr (prepared_of_effect (yieldHere_effect m) done)
  | delay => exact .inr (prepared_of_effect (delayCurrent_effect m _) done)
  | jump =>
      obtain ⟨rfl, ran⟩ := alone_ok done
      obtain ⟨inside, rfl⟩ := jumpBy_ok ran
      exact .inl ⟨rfl, .jump m _ inside⟩
  | setLocal => exact .inr (prepared_of_effect (setLocal_effect m _ _) done)
  | addLocal => exact .inr (prepared_of_effect (setLocal_effect m _ _) done)
  | jumpIfZero =>
      obtain ⟨rfl, ran⟩ := alone_ok done
      obtain rfl | ⟨inside, rfl⟩ := jumpOnLocal_ok ran
      · exact .inr .refl
      · exact .inl ⟨rfl, .jumpIfZero m _ _ inside⟩
  | startScript => exact .inr (prepared_of_slot (fun _ _ => prepareScript_ok) done)
  | stopScript =>
      refine .inr (prepared_of_alone (fun _ ran => ?_) done)
      split at ran
      · cases ran
        exact .single (.finish m)
      · exact stopScript_ok ran
  | startObject => exact .inr (prepared_of_slot (fun _ _ => prepareObject_ok) done)
  | stopObject => exact .inr (prepared_of_alone (fun _ => stopObject_ok) done)
  | freeze =>
      refine .inr (prepared_of_effect ?_ done)
      split
      · exact unfreezeScripts_effect m
      · exact freezeScripts_effect m _
  | beginCutscene => exact .inr (openCutscene_ok done)
  | endCutscene => exact .inr (closeCutscene_ok done)
  | beginOverride =>
      obtain ⟨rfl, ran⟩ := alone_ok done
      exact .inl ⟨rfl, beginOverride_ok ran⟩
  | endOverride =>
      exact .inr (prepared_of_effect (.aside m _ (.refl _) _ _ _ _ _ _ _ .disarmed) done)
  | waitActor =>
      refine .inr (prepared_of_alone (fun _ ran => ?_) done)
      cases ran
      dsimp only
      split
      · exact .single (retryNextTick_effect m)
      · exact .refl
  | waitScript =>
      refine .inr (prepared_of_alone (fun _ ran => ?_) done)
      cases ran
      dsimp only
      split
      · exact .single (retryNextTick_effect m)
      · exact .refl
  | walkActor => exact .inr (prepared_of_driveActor done)
  | putActor => exact .inr (prepared_of_driveActor done)
  | faceActor => exact .inr (prepared_of_driveActor done)
  | actorSpeed => exact .inr (prepared_of_driveActor done)
  | setBoxFlags =>
      exact .inr (prepared_of_effect (.aside m _ (.setBoxFlags _ _ _) _ _ _ _ _ _ _ .stay) done)
  | createBoxMatrix =>
      exact .inr (prepared_of_effect (.aside m _ (.rebuildMatrix _) _ _ _ _ _ _ _ .stay) done)
  | setScaleSlot =>
      exact .inr (prepared_of_effect (.aside m _ (.setRamp _ _ _) _ _ _ _ _ _ _ .stay) done)
  | setVar => exact .inr (prepared_of_effect (.aside m _ (.refl _) _ _ _ _ _ _ _ .stay) done)
  | overrideToLocal => exact .inr (prepared_of_effect (setLocal_effect m _ _) done)
  | ignoreBoxes => exact .inr (prepared_of_driveActor done)
  | setEgo => exact .inr (prepared_of_effect (.aside m _ (.refl _) _ _ _ _ _ _ _ .stay) done)
  | loadRoom => exact .inr (prepared_of_alone (fun _ => changeRoom_ok) done)
  | actorCostume => exact .inr (prepared_of_driveActor done)
  | stopActor => exact .inr (prepared_of_driveActor done)
  | jumpIfNotZero =>
      obtain ⟨rfl, ran⟩ := alone_ok done
      obtain rfl | ⟨inside, rfl⟩ := jumpOnLocal_ok ran
      · exact .inr .refl
      · exact .inl ⟨rfl, .jumpIfNotZero m _ _ inside⟩
  | isScriptRunning => exact .inr (prepared_of_effect (setLocal_effect m _ _) done)
  | isObjectRunning => exact .inr (prepared_of_effect (setLocal_effect m _ _) done)

/-- The machine when an instruction has been fetched and is about to be performed. -/
def fetched (m : Machine) (id : SlotId) (after : Nat) : Machine :=
  { m with opStart := m.pc, pc := after }.changeSlot id fun slot => { slot with executed := true }

/-- An instruction is fetched from the code at the program counter and then performed. -/
theorem instruct_ok {id : SlotId} {call : Option Call} (done : instruct id m = .ok call m') :
    ∃ opcode operation operands after, m.code[m.pc]? = some opcode ∧
      Operation.ofCode? opcode = some operation ∧
      m.code.operands operation.shape (m.pc + 1) = .ok (operands, after) ∧
      perform operation operands (m.fetched id after) = .ok call m' := by
  simp only [instruct, Run.bind_eq_ok_iff, Run.modify_apply] at done
  obtain ⟨_, _, marked, opcode, _, first, _, _, touched, rest⟩ := done
  cases marked
  obtain ⟨_, read, rfl⟩ := fetch_ok first
  obtain ⟨rfl, found⟩ := Code.byte_ok read
  cases touched
  cases known : Operation.ofCode? opcode with
  | none => simp [known, Run.bind_eq_ok_iff] at rest
  | some operation =>
      simp only [known, handle_eq, Run.bind_eq_ok_iff] at rest
      obtain ⟨operands, _, second, performed⟩ := rest
      obtain ⟨after, read', rfl⟩ := fetch_ok second
      exact ⟨opcode, operation, operands, after, found, known, read', performed⟩

end Whole

/-! ## What effects leave alone -/

section Bounds

variable {m m' : Machine}

/-- How a slot goes on when its script does not end: with the same script and code, at the same
place unless it has just given up control. -/
structure Onward (m m' : Machine) (id : SlotId) (before after : Slot) : Prop where
  number : after.number = before.number
  location : after.location = before.location
  executed : after.executed = before.executed
  alive : after.isDead = before.isDead ∨ m.current = some id ∧ after.isDead = false
  offset : after.offset = before.offset ∨
    m.current = some id ∧ (after.offset = m.pc ∨ after.offset = m.opStart)
  code : before.isDead = false →
    m'.library.code? before.number before.location = m.library.code? before.number before.location

theorem Onward.of_same {id : SlotId} {slot : Slot} (library : m'.library = m.library) :
    Onward m m' id slot slot :=
  ⟨rfl, rfl, rfl, .inl rfl, .inl rfl, fun _ => by rw [library]⟩

/-- **What an effect does to a slot**: its script ends, or it goes on. -/
theorem Effect.slot (effect : Effect m m') {id : SlotId} {slot : Slot}
    (present : m'.slots.get? id = some slot) :
    ∃ before, m.slots.get? id = some before ∧
      (slot = before.retire ∨ Onward m m' id before slot) := by
  cases effect with
  | aside => exact ⟨slot, present, .inr (.of_same rfl)⟩
  | tune change kept =>
      rw [changeCurrent_get?] at present
      split at present
      · obtain ⟨before, found, rfl⟩ := Option.map_eq_some_iff.mp present
        rw [kept before]
        exact ⟨before, found, .inr ⟨rfl, rfl, rfl, .inl rfl, .inl rfl, fun _ => rfl⟩⟩
      · exact ⟨slot, present, .inr (.of_same rfl)⟩
  | yield offset place wait =>
      change (m.changeCurrent _).slots.get? id = some slot at present
      rw [changeCurrent_get?] at present
      split at present
      next running =>
        obtain ⟨before, found, rfl⟩ := Option.map_eq_some_iff.mp present
        refine ⟨before, found, .inr ?_⟩
        cases wait with
        | none => exact ⟨rfl, rfl, rfl, .inl rfl, .inr ⟨running, place⟩, fun _ => rfl⟩
        | some ticks =>
            exact ⟨rfl, rfl, rfl, .inr ⟨running, rfl⟩, .inr ⟨running, place⟩, fun _ => rfl⟩
      next => exact ⟨slot, present, .inr (.of_same rfl)⟩
  | finish =>
      obtain ⟨events, same⟩ := stopCurrent_eq m
      rw [same] at present ⊢
      change (m.changeCurrent _).slots.get? id = some slot at present
      rw [changeCurrent_get?] at present
      split at present
      · obtain ⟨before, found, rfl⟩ := Option.map_eq_some_iff.mp present
        exact ⟨before, found, .inl rfl⟩
      · exact ⟨slot, present, .inr (.of_same rfl)⟩
  | stop test waits =>
      rw [stopWhere_get?] at present
      obtain ⟨before, found, same⟩ := Option.map_eq_some_iff.mp present
      split at same
      · exact ⟨before, found, .inl same.symm⟩
      · subst same
        exact ⟨before, found, .inr (.of_same rfl)⟩
  | refreeze slots kept =>
      obtain ⟨freeze, same⟩ := kept id
      rw [present] at same
      obtain ⟨before, found, rfl⟩ := Option.map_eq_some_iff.mp same.symm
      exact ⟨before, found, .inr ⟨rfl, rfl, rfl, .inl rfl, .inl rfl, fun _ => rfl⟩⟩
  | enterRoom number loaded =>
      change m.stopRoomScripts.slots.get? id = some slot at present
      rw [stopRoomScripts, stopWhere_get?] at present
      obtain ⟨before, found, same⟩ := Option.map_eq_some_iff.mp present
      split at same
      · exact ⟨before, found, .inl same.symm⟩
      next stays =>
        subst same
        refine ⟨before, found, .inr ⟨rfl, rfl, rfl, .inl rfl, .inl rfl, fun alive => ?_⟩⟩
        rw [alive] at stays
        exact Library.code?_room _ _ _ (by simpa using stays)

/-- **What an effect does to the room**: scripts may change it, or another one is entered with its
code. -/
theorem Effect.place (effect : Effect m m') :
    (m'.library = m.library ∧ m.room.SameShape m'.room) ∨
      ∃ number loaded, m.rooms.get? number = some loaded ∧
        m'.library = { m.library with room := loaded.code } ∧
        m'.room = { loaded.geometry with number := number } := by
  cases effect with
  | aside _ shape => exact .inl ⟨rfl, shape⟩
  | finish =>
      obtain ⟨events, same⟩ := stopCurrent_eq m
      rw [same]
      exact .inl ⟨rfl, .refl _⟩
  | enterRoom number loaded known => exact .inr ⟨number, loaded, known, rfl, rfl⟩
  | _ => exact .inl ⟨rfl, .refl _⟩

/-- No effect changes the rules or the rooms that can be entered. -/
theorem Effect.fixed (effect : Effect m m') : m'.rules = m.rules ∧ m'.rooms = m.rooms := by
  cases effect with
  | finish =>
      obtain ⟨events, same⟩ := stopCurrent_eq m
      rw [same]
      exact ⟨rfl, rfl⟩
  | _ => exact ⟨rfl, rfl⟩

/-- The slot that is claimed was free and now runs a script. -/
theorem Claimed.slot {id : SlotId} (claimed : Claimed m id m') :
    (∃ slot, m.slots.get? id = some slot ∧ slot.isDead = true) ∧
      ∃ slot, m'.slots.get? id = some slot ∧ slot.isDead = false := by
  cases claimed with
  | intro number location offset freezeResistant recursive args event free =>
      obtain ⟨slot, present, dead⟩ := SlotTable.findFree_dead free
      refine ⟨⟨slot, present, dead⟩,
        .start number location offset freezeResistant recursive args, ?_, rfl⟩
      simp [changeSlot, logged, Bank.get?_modify, present]

/-- A script that begins: it is alive and has a number and code, and it is the only instance of
its script unless it is recursive. -/
structure Begun (m : Machine) (slot : Slot) : Prop where
  alive : slot.isDead = false
  real : slot.number ≠ 0
  code : (m.library.code? slot.number slot.location).isSome = true
  vacant : slot.recursive = false → m.Vacant slot.number slot.location

/-- **What a claim does to a slot**: nothing, or its script begins. -/
theorem Claimed.begun {id other : SlotId} {slot : Slot} (claimed : Claimed m id m')
    (present : m'.slots.get? other = some slot) :
    m.slots.get? other = some slot ∨ other = id ∧ Begun m slot := by
  cases claimed with
  | intro number location offset freezeResistant recursive args event free real entry vacant =>
      change (m.slots.modify id _).get? other = some slot at present
      rw [Bank.get?_modify] at present
      split at present
      next same =>
        obtain ⟨_, _, rfl⟩ := Option.map_eq_some_iff.mp present
        exact .inr ⟨same.symm, rfl, real, entry.code, vacant⟩
      next => exact .inl present

/-- Slot zero is never claimed. -/
theorem Claimed.ne_zero {id : SlotId} (claimed : Claimed m id m') : id ≠ 0 := by
  cases claimed with
  | intro _ _ _ _ _ _ _ free => exact SlotTable.findFree_ne_zero free

theorem Claimed.other {id : SlotId} (claimed : Claimed m id m') {other : SlotId}
    (distinct : id ≠ other) : m'.slots.get? other = m.slots.get? other := by
  cases claimed
  simp [changeSlot, logged, Bank.get?_modify, distinct]

theorem Claimed.current {id : SlotId} (claimed : Claimed m id m') : m'.current = m.current := by
  cases claimed
  rfl

theorem Claimed.library {id : SlotId} (claimed : Claimed m id m') : m'.library = m.library := by
  cases claimed
  rfl

theorem Claimed.code {id : SlotId} (claimed : Claimed m id m') : m'.code = m.code := by
  cases claimed
  rfl

end Bounds

end Machine

end Adventure
