import Adventure.Proofs.Machine.Orders

/-!
# Instructions that leave cutscenes alone

Two instructions open and close cutscenes.  All others leave alone how many cutscenes are
open, which script is just opening one, and how many cutscenes a script holds, as long as
the script goes on.  They may freeze scripts, but never the one that is just opening a
cutscene.  `Offstage` is this relation, and it names the slot in which a script is started,
if any.

The two instructions do their own part first and prepare a hook then, which happens
offstage (`openCutscene_offstage`, `closeCutscene_offstage`).
-/

set_option autoImplicit false

namespace Adventure

namespace Slot

/-- What happens to the holds of a slot: they stay, or the script ends and has none. -/
def Carries (before after : Slot) : Prop :=
  (after.cutsceneOverride = before.cutsceneOverride ∧
      (after.isDead = true → before.isDead = true)) ∨
    (after.cutsceneOverride = 0 ∧ after.isDead = true)

theorem Carries.refl (slot : Slot) : slot.Carries slot := .inl ⟨rfl, fun dead => dead⟩

theorem carries_retire (slot : Slot) : slot.Carries slot.retire := .inr ⟨rfl, rfl⟩

end Slot

namespace CutsceneStack

theorem push?_pointer {stack pushed : CutsceneStack} {data : Int}
    (pushes : stack.push? data = some pushed) : pushed.pointer.val = stack.pointer.val + 1 := by
  unfold push? at pushes
  split at pushes
  · cases pushes
    rfl
  · cases pushes

theorem pop?_pointer {stack popped : CutsceneStack}
    (pops : stack.pop? = some popped) : popped.pointer.val + 1 = stack.pointer.val := by
  unfold pop? at pops
  split at pops
  · cases pops
  · cases pops
    change stack.pointer.val - 1 + 1 = stack.pointer.val
    omega

end CutsceneStack

namespace Machine

variable {m m' : Machine} {claimed : Option SlotId}

/-- Cutscenes are left alone; a script may have been started in a slot. -/
structure Offstage (claimed : Option SlotId) (m m' : Machine) : Prop where
  opener : m'.cutsceneScript = m.cutsceneScript
  depth : m'.cutscenes.pointer = m.cutscenes.pointer
  new : ∀ {id slot}, claimed = some id → m'.slots.get? id = some slot →
    slot.cutsceneOverride = 0 ∧ slot.freezeCount = 0
  slot : ∀ {id after}, claimed ≠ some id → m'.slots.get? id = some after →
    ∃ before, m.slots.get? id = some before ∧ before.Carries after ∧
      (m.cutsceneScript = some id → before.freezeCount = 0 → after.freezeCount = 0)

namespace Offstage

/-- A change of the slots, seen slot by slot. -/
theorem of_slots (change : SlotId → Slot → Slot) (opener : m'.cutsceneScript = m.cutsceneScript)
    (depth : m'.cutscenes.pointer = m.cutscenes.pointer)
    (slots : ∀ id, m'.slots.get? id = (m.slots.get? id).map (change id))
    (kept : ∀ (id : SlotId) (slot : Slot), slot.Carries (change id slot) ∧
      (m.cutsceneScript = some id → slot.freezeCount = 0 → (change id slot).freezeCount = 0)) :
    Offstage none m m' := by
  refine ⟨opener, depth, fun claims => (nomatch claims), ?_⟩
  intro id after _ present
  rw [slots] at present
  obtain ⟨before, found, rfl⟩ := Option.map_eq_some_iff.mp present
  exact ⟨before, found, kept id before⟩

theorem of_same (opener : m'.cutsceneScript = m.cutsceneScript)
    (depth : m'.cutscenes.pointer = m.cutscenes.pointer) (slots : m'.slots = m.slots) :
    Offstage none m m' := by
  refine of_slots (fun _ slot => slot) opener depth (fun id => ?_) fun _ slot => ⟨.refl slot, ?_⟩
  · rw [slots, Option.map_id']
  · exact fun _ free => free

/-- A change of the executing slot that leaves its freezes alone. -/
theorem of_current (change : Slot → Slot) (opener : m'.cutsceneScript = m.cutsceneScript)
    (depth : m'.cutscenes.pointer = m.cutscenes.pointer)
    (slots : m'.slots = (m.changeCurrent change).slots)
    (kept : ∀ slot : Slot, slot.Carries (change slot) ∧
      (change slot).freezeCount = slot.freezeCount) : Offstage none m m' := by
  refine of_slots (fun id slot => if m.current = some id then change slot else slot) opener depth
    (fun id => ?_) fun id slot => ?_
  · rw [slots, changeCurrent_get?]
    split
    · rfl
    · rw [Option.map_id']
  · split
    · exact ⟨(kept slot).1, fun _ free => (kept slot).2.trans free⟩
    · exact ⟨.refl slot, fun _ free => free⟩

/-- What happens to the slots happens again elsewhere. -/
theorem of_eq {middle : Machine} (offstage : Offstage claimed m middle)
    (opener : m'.cutsceneScript = middle.cutsceneScript)
    (depth : m'.cutscenes.pointer = middle.cutscenes.pointer)
    (slots : m'.slots = middle.slots) : Offstage claimed m m' := by
  refine ⟨opener.trans offstage.opener, depth.trans offstage.depth, ?_, ?_⟩
  · rw [slots]
    exact offstage.new
  · rw [slots]
    exact offstage.slot

theorem stopWhere (m : Machine) (test : Slot → Bool) (waits : CallFrame → Bool) :
    Offstage none m (m.stopWhere test waits) := by
  refine of_slots _ rfl rfl (fun id => stopWhere_get? m test waits id) fun id slot => ?_
  split
  · exact ⟨slot.carries_retire, fun _ free => free⟩
  · exact ⟨.refl slot, fun _ free => free⟩

theorem stopRoomScripts (m : Machine) : Offstage none m m.stopRoomScripts := stopWhere m _ _

theorem stopCurrent (m : Machine) : Offstage none m m.stopCurrent := by
  obtain ⟨events, same⟩ := stopCurrent_eq m
  rw [same]
  exact of_current _ rfl rfl rfl fun slot => ⟨slot.carries_retire, rfl⟩

theorem yieldHere (m : Machine) : Offstage none m m.yieldHere :=
  of_current _ rfl rfl rfl fun slot => ⟨.refl slot, rfl⟩

theorem delayCurrent (m : Machine) (ticks : Int) : Offstage none m (m.delayCurrent ticks) := by
  rw [delayCurrent_eq]
  exact of_current _ rfl rfl rfl fun _ => ⟨.inl ⟨rfl, fun dead => (nomatch dead)⟩, rfl⟩

theorem setLocal (m : Machine) (index : Nat) (value : Int) :
    Offstage none m (m.setLocal index value) :=
  of_current _ rfl rfl rfl fun slot => ⟨.refl slot, rfl⟩

/-- A freeze spares the script that is just opening a cutscene. -/
theorem freezeScripts (m : Machine) (flag : UInt8) : Offstage none m (m.freezeScripts flag) := by
  refine of_slots _ ?_ ?_ (freezeScripts_get? m flag) fun id slot => ⟨.refl slot, ?_⟩
  · rfl
  · rfl
  · intro opening _
    exact if_pos opening

theorem unfreezeScripts (m : Machine) : Offstage none m m.unfreezeScripts := by
  refine of_slots _ rfl rfl (fun id => Bank.get?_map _ _ id) fun id slot => ⟨.refl slot, ?_⟩
  intro _ free
  simp [Slot.countDown, free]

theorem driveActor {number : UInt8} {drive : Stage → Walk Unit}
    (done : Run.driveActor number drive m = .ok () m') : Offstage none m m' := by
  obtain ⟨cast, events, rfl⟩ := driveActor_ok done
  exact of_same rfl rfl rfl

theorem changeRoom {number : UInt8} (done : Machine.changeRoom number m = .ok () m') :
    Offstage none m m' := by
  cases known : m.rooms.get? number with
  | none =>
      simp only [Machine.changeRoom, Run.get_bind_apply, known] at done
      cases done
      exact of_same rfl rfl rfl
  | some loaded =>
      obtain ⟨cast, events, rfl⟩ := changeRoom_known known done
      exact (stopRoomScripts m).of_eq rfl rfl rfl

theorem jumpBy {distance : Int} (done : Machine.jumpBy distance m = .ok () m') :
    Offstage none m m' := by
  obtain ⟨_, rfl⟩ := jumpBy_ok done
  exact of_same rfl rfl rfl

theorem jumpOnLocal {index : UInt8} {distance : Int} {whenZero : Bool}
    (done : Machine.jumpOnLocal index distance whenZero m = .ok () m') : Offstage none m m' := by
  obtain rfl | ⟨_, rfl⟩ := jumpOnLocal_ok done
  · exact of_same rfl rfl rfl
  · exact of_same rfl rfl rfl

theorem beginOverride (done : Machine.beginOverride m = .ok () m') : Offstage none m m' := by
  cases beginOverride_ok done
  exact of_same rfl rfl rfl

/-! ### Starting scripts -/

/-- Stopping a family of scripts is all that a stop does. -/
theorem stopFamily {number : UInt16} {family : ScriptLocation → Bool}
    (done : Machine.stopFamily number family m = .ok () m') :
    Offstage none m m' ∧ m'.overrideActive = m.overrideActive := by
  simp only [Machine.stopFamily, Run.get_bind_apply] at done
  cases held : m.heldSlot? number family with
  | some id => simp [held, Run.bind_eq_ok_iff] at done
  | none =>
      rw [held] at done
      cases done
      exact ⟨stopWhere m _ _, rfl⟩

theorem stopScript {number : UInt16} (done : Machine.stopScript number m = .ok () m') :
    Offstage none m m' ∧ m'.overrideActive = m.overrideActive := by
  unfold Machine.stopScript at done
  split at done
  · cases done
    exact ⟨of_same rfl rfl rfl, rfl⟩
  · exact stopFamily done

theorem stopObject {number : UInt16} (done : Machine.stopObject number m = .ok () m') :
    Offstage none m m' ∧ m'.overrideActive = m.overrideActive := by
  unfold Machine.stopObject at done
  split at done
  · cases done
    exact ⟨of_same rfl rfl rfl, rfl⟩
  · exact stopFamily done

theorem giveWay {recursive : Bool} {stop : Run Unit}
    (stops : ∀ {m'}, stop m = .ok () m' →
      Offstage none m m' ∧ m'.overrideActive = m.overrideActive)
    (done : Machine.giveWay recursive stop m = .ok () m') :
    Offstage none m m' ∧ m'.overrideActive = m.overrideActive := by
  unfold Machine.giveWay at done
  split at done
  · cases done
    exact ⟨of_same rfl rfl rfl, rfl⟩
  · exact stops done

/-- A slot that is taken for a script has no holds and no freezes. -/
theorem claimSlot {number : UInt16} {location : ScriptLocation} {offset : Nat}
    {freezeResistant recursive : Bool} {args : List Int} {report : SlotId → String} {id : SlotId}
    {middle : Machine} (before : Offstage none m middle)
    (done : Machine.claimSlot number location offset freezeResistant recursive args report middle =
      .ok id m') : Offstage (some id) m m' ∧ m'.overrideActive = middle.overrideActive := by
  simp only [Machine.claimSlot, Run.get_bind_apply] at done
  cases free : middle.slots.findFree with
  | none => simp [free] at done
  | some found =>
      simp only [free, Run.modify_bind_apply, Run.bind_eq_ok_iff, Run.log_apply] at done
      obtain ⟨_, _, logged, same⟩ := done
      cases logged
      cases same
      refine ⟨⟨before.opener, before.depth, ?_, ?_⟩, rfl⟩
      · intro other slot same present
        cases same
        change (middle.slots.modify id _).get? id = some slot at present
        rw [Bank.get?_modify, if_pos rfl] at present
        obtain ⟨_, _, rfl⟩ := Option.map_eq_some_iff.mp present
        exact ⟨rfl, rfl⟩
      · intro other slot distinct present
        have apart : id ≠ other := fun same => distinct (congrArg some same)
        change (middle.slots.modify id _).get? other = some slot at present
        rw [Bank.get?_modify, if_neg apart] at present
        exact before.slot (by simp) present

theorem prepareScript {number : UInt16} {freezeResistant recursive : Bool} {args : List Int}
    {slot : Option SlotId}
    (done : Machine.prepareScript number freezeResistant recursive args m = .ok slot m') :
    Offstage slot m m' ∧ m'.overrideActive = m.overrideActive := by
  unfold Machine.prepareScript at done
  split at done
  next =>
    cases done
    exact ⟨of_same rfl rfl rfl, rfl⟩
  next =>
    simp only [Run.bind_eq_ok_iff, Run.get_apply] at done
    obtain ⟨_, middle, stopped, _, _, same, rest⟩ := done
    cases same
    obtain ⟨before, flag⟩ := giveWay stopScript stopped
    split at rest
    · cases rest
    · obtain ⟨id, _, claims, ended⟩ := Run.bind_eq_ok_iff.mp rest
      cases ended
      obtain ⟨offstage, flag'⟩ := claimSlot before claims
      exact ⟨offstage, flag'.trans flag⟩

theorem prepareObject {object : UInt16} {verb : UInt8} {freezeResistant recursive : Bool}
    {args : List Int} {slot : Option SlotId}
    (done : Machine.prepareObject object verb freezeResistant recursive args m = .ok slot m') :
    Offstage slot m m' := by
  unfold Machine.prepareObject at done
  split at done
  next =>
    cases done
    exact of_same rfl rfl rfl
  next =>
    simp only [Run.bind_eq_ok_iff, Run.get_apply] at done
    obtain ⟨_, middle, stopped, _, _, same, rest⟩ := done
    cases same
    have before := (giveWay stopObject stopped).1
    cases located : middle.library.locate? object with
    | none =>
        rw [located] at rest
        cases rest
        exact before
    | some location =>
        simp only [located] at rest
        cases found : (middle.library.object? object location).bind (·.verbOffset? verb) with
        | none =>
            rw [found] at rest
            cases rest
            exact before
        | some offset =>
            simp only [found, Run.bind_eq_ok_iff] at rest
            obtain ⟨id, _, claims, ended⟩ := rest
            cases ended
            exact (claimSlot before claims).1

/-- The call of a prepared slot. -/
theorem of_slot {run : Run (Option SlotId)} {call : Option Call}
    (prepares : ∀ {slot m'}, run m = .ok slot m' → Offstage slot m m')
    (done : (run >>= fun slot => pure (slot.map fun id => (⟨id, false⟩ : Call))) m = .ok call m') :
    Offstage (call.map (·.slot)) m m' := by
  obtain ⟨slot, _, prepared, ended⟩ := Run.bind_eq_ok_iff.mp done
  cases ended
  rw [Option.map_map, Function.comp_def, Option.map_id']
  exact prepares prepared

/-- An instruction that starts no script. -/
theorem alone {run : Run Unit} {call : Option Call}
    (part : ∀ {m'}, run m = .ok () m' → Offstage none m m')
    (done : Machine.alone run m = .ok call m') : Offstage (call.map (·.slot)) m m' := by
  obtain ⟨rfl, ran⟩ := alone_ok done
  exact part ran

theorem change {change : Machine → Machine} {call : Option Call}
    (part : Offstage none m (change m))
    (done : Machine.alone (modify change) m = .ok call m') :
    Offstage (call.map (·.slot)) m m' := by
  refine alone (fun ran => ?_) done
  cases ran
  exact part

end Offstage

/-! ## Whole instructions -/

/-- **Every instruction but the two that open and close cutscenes leaves cutscenes alone.** -/
theorem perform_offstage {operation : Operation} {operands : Operands operation.shape}
    {call : Option Call} (opens : operation ≠ .beginCutscene) (closes : operation ≠ .endCutscene)
    (done : perform operation operands m = .ok call m') : Offstage (call.map (·.slot)) m m' := by
  cases operation with
  | end_ => exact .change (.stopCurrent m) done
  | break_ => exact .change (.yieldHere m) done
  | delay => exact .change (.delayCurrent m _) done
  | jump => exact .alone .jumpBy done
  | setLocal => exact .change (.setLocal m _ _) done
  | addLocal => exact .change (.setLocal m _ _) done
  | jumpIfZero => exact .alone .jumpOnLocal done
  | startScript => exact .of_slot (fun ran => (Offstage.prepareScript ran).1) done
  | stopScript =>
      refine .alone (fun ran => ?_) done
      split at ran
      · cases ran
        exact .stopCurrent m
      · exact (Offstage.stopScript ran).1
  | startObject => exact .of_slot .prepareObject done
  | stopObject => exact .alone (fun ran => (Offstage.stopObject ran).1) done
  | freeze =>
      refine .change ?_ done
      split
      · exact .unfreezeScripts m
      · exact .freezeScripts m _
  | beginCutscene => exact absurd rfl opens
  | endCutscene => exact absurd rfl closes
  | beginOverride => exact .alone .beginOverride done
  | waitActor =>
      refine .change ?_ done
      split
      · exact .of_current _ rfl rfl rfl fun slot => ⟨.refl slot, rfl⟩
      · exact .of_same rfl rfl rfl
  | waitScript =>
      refine .change ?_ done
      split
      · exact .of_current _ rfl rfl rfl fun slot => ⟨.refl slot, rfl⟩
      · exact .of_same rfl rfl rfl
  | walkActor => exact .alone .driveActor done
  | putActor => exact .alone .driveActor done
  | faceActor => exact .alone .driveActor done
  | actorSpeed => exact .alone .driveActor done
  | overrideToLocal => exact .change (.setLocal m _ _) done
  | ignoreBoxes => exact .alone .driveActor done
  | loadRoom => exact .alone .changeRoom done
  | actorCostume => exact .alone .driveActor done
  | stopActor => exact .alone .driveActor done
  | jumpIfNotZero => exact .alone .jumpOnLocal done
  | isScriptRunning => exact .change (.setLocal m _ _) done
  | isObjectRunning => exact .change (.setLocal m _ _) done
  | _ => exact .change (.of_same rfl rfl rfl) done

/-- The operation that the executing script performs next. -/
def upcoming? (m : Machine) : Option Operation :=
  m.current.bind fun _ => m.code[m.pc]?.bind Operation.ofCode?

/-- An instruction performs the operation that comes up. -/
theorem instruct_performs {id : SlotId} {call : Option Call} (running : m.current = some id)
    (done : instruct id m = .ok call m') :
    ∃ operation operands after, m.upcoming? = some operation ∧
      perform operation operands (m.fetched id after) = .ok call m' := by
  obtain ⟨opcode, operation, operands, after, found, known, _, performed⟩ := instruct_ok done
  exact ⟨operation, operands, after, by simp [upcoming?, running, found, known], performed⟩

/-! ## Opening and closing a cutscene -/

/-- A cutscene has been opened for the executing script; no hook has been prepared yet. -/
structure Opened (m m' : Machine) : Prop where
  slots : m'.slots = (m.changeCurrent fun slot =>
    { slot with cutsceneOverride := Slot.countUp slot.cutsceneOverride }).slots
  depth : m'.cutscenes.pointer.val = m.cutscenes.pointer.val + 1

/-- The innermost cutscene has been closed; no hook has been prepared yet. -/
structure Closed (m m' : Machine) : Prop where
  slots : m'.slots =
    (if m.cutscenes.top.resumeOffset.isSome then m.releaseHold.releaseHold else m.releaseHold).slots
  depth : m'.cutscenes.pointer.val + 1 = m.cutscenes.pointer.val
  opener : m'.cutsceneScript = m.cutsceneScript

/-- Only a script without a number is prepared in no slot, and nothing happens for it. -/
theorem prepareScript_none {number : UInt16} {freezeResistant recursive : Bool} {args : List Int}
    (done : prepareScript number freezeResistant recursive args m = .ok none m') : m' = m := by
  unfold prepareScript at done
  split at done
  · cases done
    rfl
  · simp only [Run.bind_eq_ok_iff, Run.get_apply] at done
    obtain ⟨_, _, _, _, _, _, rest⟩ := done
    split at rest
    · cases rest
    · obtain ⟨_, _, _, ended⟩ := Run.bind_eq_ok_iff.mp rest
      cases ended

/-- **Opening a cutscene** is done before the start hook is prepared.  When there is a hook, the
executing script is the one that is just opening a cutscene. -/
theorem openCutscene_offstage {args : List Int} {call : Option Call}
    (done : openCutscene args m = .ok call m') :
    ∃ middle, Opened m middle ∧ Offstage (call.map (·.slot)) middle m' ∧
      match call with
      | none => m' = middle
      | some hook => hook.opening = true ∧ middle.cutsceneScript = m.current := by
  simp only [openCutscene, Run.get_bind_apply, Run.modify_bind_apply] at done
  cases pushed : (m.changeCurrent fun slot => { slot with
      cutsceneOverride := Slot.countUp slot.cutsceneOverride }).cutscenes.push? (args.headD 0) with
  | none =>
      rw [pushed] at done
      cases done
  | some cutscenes =>
      simp only [pushed, Run.modify_bind_apply, Run.get_bind_apply, Run.bind_eq_ok_iff,
        Run.log_apply] at done
      obtain ⟨_, _, logged, slot, middle, hook, rest⟩ := done
      cases logged
      have deeper := CutsceneStack.push?_pointer pushed
      have hook := onFailure_ok hook
      cases slot with
      | none =>
          cases prepareScript_none hook
          cases rest
          refine ⟨_, ?_, .of_same rfl rfl rfl, Eq.refl _⟩
          exact ⟨rfl, deeper⟩
      | some id =>
          cases rest
          have offstage := (Offstage.prepareScript hook).1
          refine ⟨_, ?_, offstage, rfl, rfl⟩
          exact ⟨rfl, deeper⟩

/-- **Closing a cutscene** is done before the end hook is prepared, and no override is active
then. -/
theorem closeCutscene_offstage {call : Option Call} (done : closeCutscene m = .ok call m') :
    ∃ middle, Closed m middle ∧ Offstage (call.map (·.slot)) middle m' ∧
      m'.overrideActive = false := by
  simp only [closeCutscene, Run.modify_bind_apply, Run.get_bind_apply] at done
  cases popped : m.releaseHold.cutscenes.pop? with
  | none =>
      rw [popped] at done
      cases done
  | some cutscenes =>
      simp only [popped, Run.set_bind_apply, Run.bind_eq_ok_iff, Run.log_apply] at done
      obtain ⟨_, _, logged, slot, _, hook, ended⟩ := done
      cases logged
      cases ended
      obtain ⟨offstage, flag⟩ := Offstage.prepareScript hook
      have shallower := CutsceneStack.pop?_pointer popped
      rw [Option.map_map, Function.comp_def, Option.map_id']
      refine ⟨_, ?_, offstage, flag⟩
      refine ⟨rfl, shallower, ?_⟩
      change (if _ then _ else _ : Machine).cutsceneScript = _
      split <;> rfl

end Machine

end Adventure
