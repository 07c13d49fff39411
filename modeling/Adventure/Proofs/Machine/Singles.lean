import Adventure.Proofs.Machine.Deeds

/-!
# Scripts that run once

A script that is started beside its running instances is recursive; any other start stops
them first.  So as long as nobody starts a script recursively, neither the host nor an
instruction, no two live slots run the same script or the same object.

Starting a script looks for live instances only, and the slots keep the numbers of what they
have run.  The invariant `Sole` therefore says more: a dead slot has lost its number, and no
number is carried by two slots, dead or alive.
-/

set_option autoImplicit false

namespace Adventure

/-- Whether the instruction starts a script beside its running instances. -/
def Instruction.isRecursive : Instruction → Bool
  | ⟨.startScript, (_, flags, _, ())⟩ => flags &&& 2 != 0
  | ⟨.startObject, (_, _, flags, _, ())⟩ => flags &&& 2 != 0
  | _ => false

/-- The instruction at a place of the code, if there is a whole one. -/
def Code.instruction? (code : Code) (place : Nat) : Option Instruction :=
  match code[place]?.bind Operation.ofCode? with
  | none => none
  | some operation =>
    match code.operands operation.shape (place + 1) with
    | .ok (operands, _) => some ⟨operation, operands⟩
    | .error _ => none

namespace Machine

variable {m m' : Machine}

/-- Whether the executing script is about to start a script recursively. -/
def startsBeside (m : Machine) : Bool :=
  m.current.isSome && (m.code.instruction? m.pc).any Instruction.isRecursive

/-- Whether an order is to start a script recursively. -/
def Order.isRecursive : Order → Bool
  | startScript _ _ recursive _ => recursive
  | startObject _ _ _ recursive _ => recursive
  | _ => false

/-- Whether a deed is to start a script recursively. -/
def Deed.isRecursive : Deed → Bool
  | order given => given.isRecursive
  | _ => false

/-- No two live slots run the same script, and no two the same object. -/
def Singly (m : Machine) : Prop :=
  ∀ id other slot twin, m.slots.get? id = some slot → m.slots.get? other = some twin →
    slot.isDead = false → twin.isDead = false → slot.number ≠ 0 → twin.number = slot.number →
    twin.location.isScript = slot.location.isScript → other = id

/-! ## How a slot was started -/

/-- The slot remembers whether its script was started recursively. -/
def StartedAs (recursive : Bool) (id : SlotId) (m : Machine) : Prop :=
  ∃ slot, m.slots.get? id = some slot ∧ slot.recursive = recursive

theorem claimSlot_startedAs {number : UInt16} {location : ScriptLocation} {offset : Nat}
    {freezeResistant recursive : Bool} {args : List Int} {report : SlotId → String} {id : SlotId}
    (done : claimSlot number location offset freezeResistant recursive args report m =
      .ok id m') : StartedAs recursive id m' := by
  simp only [claimSlot, Run.get_bind_apply] at done
  cases free : m.slots.findFree with
  | none => simp [free] at done
  | some found =>
      simp only [free, Run.modify_bind_apply, Run.bind_eq_ok_iff, Run.log_apply] at done
      obtain ⟨_, _, logged, same⟩ := done
      cases logged
      cases same
      obtain ⟨slot, present, _⟩ := SlotTable.findFree_dead free
      refine ⟨.start number location offset freezeResistant recursive args, ?_, rfl⟩
      simp [changeSlot, Machine.logged, Bank.get?_modify, present]

theorem prepareScript_startedAs {number : UInt16} {freezeResistant recursive : Bool}
    {args : List Int} {id : SlotId}
    (done : prepareScript number freezeResistant recursive args m = .ok (some id) m') :
    StartedAs recursive id m' := by
  unfold prepareScript at done
  split at done
  · cases done
  · simp only [Run.bind_eq_ok_iff, Run.get_apply] at done
    obtain ⟨_, _, _, _, _, _, done⟩ := done
    split at done
    · cases done
    · obtain ⟨_, _, claimed, same⟩ := Run.bind_eq_ok_iff.mp done
      cases same
      exact claimSlot_startedAs claimed

theorem prepareObject_startedAs {object : UInt16} {verb : UInt8} {freezeResistant recursive : Bool}
    {args : List Int} {id : SlotId}
    (done : prepareObject object verb freezeResistant recursive args m = .ok (some id) m') :
    StartedAs recursive id m' := by
  unfold prepareObject at done
  split at done
  · cases done
  · simp only [Run.bind_eq_ok_iff, Run.get_apply] at done
    obtain ⟨_, _, _, middle, _, _, rest⟩ := done
    cases located : middle.library.locate? object with
    | none =>
        rw [located] at rest
        cases rest
    | some location =>
        simp only [located] at rest
        cases found : (middle.library.object? object location).bind (·.verbOffset? verb) with
        | none =>
            rw [found] at rest
            cases rest
        | some offset =>
            simp only [found, Run.bind_eq_ok_iff] at rest
            obtain ⟨_, _, claimed, same⟩ := rest
            cases same
            exact claimSlot_startedAs claimed

/-- Hooks of cutscenes are not started recursively. -/
theorem openCutscene_startedAs {args : List Int} {call : Call}
    (done : openCutscene args m = .ok (some call) m') : StartedAs false call.slot m' := by
  simp only [openCutscene, Run.get_bind_apply, Run.modify_bind_apply] at done
  generalize m.changeCurrent _ = marked at done
  cases pushed : marked.cutscenes.push? (args.headD 0) with
  | none =>
      rw [pushed] at done
      cases done
  | some cutscenes =>
      simp only [pushed, Run.modify_bind_apply, Run.get_bind_apply, Run.bind_eq_ok_iff] at done
      obtain ⟨_, _, _, slot, middle, hook, rest⟩ := done
      cases slot with
      | none =>
          cases rest
      | some id =>
          cases rest
          exact prepareScript_startedAs (onFailure_ok hook)

theorem closeCutscene_startedAs {call : Call} (done : closeCutscene m = .ok (some call) m') :
    StartedAs false call.slot m' := by
  simp only [closeCutscene, Run.modify_bind_apply, Run.get_bind_apply] at done
  cases popped : m.releaseHold.cutscenes.pop? with
  | none =>
      rw [popped] at done
      cases done
  | some cutscenes =>
      simp only [popped, Run.set_bind_apply, Run.bind_eq_ok_iff] at done
      obtain ⟨_, _, _, slot, _, hook, ended⟩ := done
      cases slot with
      | none => cases ended
      | some id =>
          cases ended
          exact prepareScript_startedAs hook

/-- The call of a prepared slot. -/
theorem startedAs_of_slot {run : Run (Option SlotId)} {call : Call} {recursive : Bool}
    (prepares : ∀ id m', run m = .ok (some id) m' → StartedAs recursive id m')
    (done : (run >>= fun slot => pure (slot.map fun id => (⟨id, false⟩ : Call))) m =
      .ok (some call) m') : StartedAs recursive call.slot m' := by
  obtain ⟨slot, _, prepared, ended⟩ := Run.bind_eq_ok_iff.mp done
  cases slot with
  | none => cases ended
  | some id =>
      cases ended
      exact prepares id _ prepared

/-- **What an instruction starts is recursive when its flags say so.** -/
theorem perform_startedAs {operation : Operation} {operands : Operands operation.shape}
    {call : Call} (done : perform operation operands m = .ok (some call) m') :
    StartedAs (Instruction.isRecursive ⟨operation, operands⟩) call.slot m' := by
  cases operation with
  | startScript => exact startedAs_of_slot (fun _ _ => prepareScript_startedAs) done
  | startObject => exact startedAs_of_slot (fun _ _ => prepareObject_startedAs) done
  | beginCutscene => exact openCutscene_startedAs done
  | endCutscene => exact closeCutscene_startedAs done
  | _ => cases (alone_ok done).1

theorem instruct_startedAs {id : SlotId} {call : Call} {asked : Machine}
    (running : m.current = some id) (asks : instruct id m = .ok (some call) asked) :
    StartedAs m.startsBeside call.slot asked := by
  obtain ⟨opcode, operation, operands, after, found, known, read, performed⟩ := instruct_ok asks
  have decoded : m.code.instruction? m.pc = some ⟨operation, operands⟩ := by
    simp [Code.instruction?, found, known, read]
  have same : m.startsBeside = Instruction.isRecursive ⟨operation, operands⟩ := by
    simp [startsBeside, running, decoded]
  rw [same]
  exact perform_startedAs performed

theorem Order.prepare_startedAs {order : Order} {call : Call} {asked : Machine}
    (asks : order.prepare m = .ok (some call) asked) :
    StartedAs order.isRecursive call.slot asked := by
  cases order with
  | startScript => exact startedAs_of_slot (fun _ _ => prepareScript_startedAs) asks
  | startObject => exact startedAs_of_slot (fun _ _ => prepareObject_startedAs) asks
  | beginCutscene => exact openCutscene_startedAs asks
  | endCutscene => exact closeCutscene_startedAs asks
  | _ => cases (alone_ok asks).1

/-! ## The invariant -/

/-- Dead slots have no number, and no two slots carry the same script or the same object. -/
structure Sole (m : Machine) : Prop where
  dead : ∀ {id slot}, m.slots.get? id = some slot → slot.isDead = true → slot.number = 0
  once : ∀ {id other slot twin}, m.slots.get? id = some slot → m.slots.get? other = some twin →
    slot.number ≠ 0 → twin.number = slot.number →
    twin.location.isScript = slot.location.isScript → other = id

namespace Sole

theorem singly (sole : Sole m) : Singly m :=
  fun _ _ _ _ present found _ _ real number place => sole.once present found real number place

theorem of_pristine (pristine : Pristine m) : Sole m := by
  refine ⟨?_, ?_⟩
  · intro id slot present _
    rw [pristine.slot present]
    rfl
  · intro id other slot twin present _ real
    rw [pristine.slot present] at real
    exact absurd rfl real

/-- It is enough that every slot has lost its number, or carries what it carried before and has
not died. -/
theorem of_slots (sole : Sole m)
    (slots : ∀ {id slot}, m'.slots.get? id = some slot → slot.number = 0 ∨
      ∃ before, m.slots.get? id = some before ∧ slot.number = before.number ∧
        slot.location = before.location ∧ (slot.isDead = true → before.isDead = true)) :
    Sole m' := by
  refine ⟨?_, ?_⟩
  · intro id slot present dead
    rcases slots present with none | ⟨before, found, number, _, stays⟩
    · exact none
    · rw [number]
      exact sole.dead found (stays dead)
  · intro id other slot twin present found real number place
    rcases slots present with none | ⟨before, present', number', location', _⟩
    · exact absurd none real
    rcases slots found with none | ⟨twin', found', number'', location'', _⟩
    · exact absurd (number.symm.trans none) real
    rw [number'] at real
    rw [number', number''] at number
    rw [location', location''] at place
    exact sole.once present' found' real number place

theorem quiet (sole : Sole m) (quiet : Quiet m m') : Sole m' := by
  refine sole.of_slots fun present => .inr ?_
  obtain ⟨before, found, number, location, dead⟩ := quiet.scripts present
  exact ⟨before, found, number, location, fun gone => dead.symm.trans gone⟩

theorem effect (sole : Sole m) (effect : Effect m m') : Sole m' := by
  refine sole.of_slots fun present => ?_
  obtain ⟨before, found, rfl | onward⟩ := effect.slot present
  · exact .inl rfl
  · refine .inr ⟨before, found, onward.number, onward.location, fun gone => ?_⟩
    rcases onward.alive with same | ⟨_, alive⟩
    · exact same.symm.trans gone
    · cases gone.symm.trans alive

theorem abort (sole : Sole m) : Sole m.abortCutscene := by
  refine sole.of_slots fun {id slot} present => .inr ?_
  unfold abortCutscene at present
  split at present
  next offset owner _ _ =>
    change (m.slots.modify owner _).get? id = some slot at present
    rw [Bank.get?_modify] at present
    split at present
    · obtain ⟨before, found, rfl⟩ := Option.map_eq_some_iff.mp present
      refine ⟨before, found, rfl, rfl, fun gone => ?_⟩
      cases gone
    · exact ⟨slot, present, rfl, rfl, fun gone => gone⟩
  next => exact ⟨slot, present, rfl, rfl, fun gone => gone⟩

/-- A script that begins alone has no twin among the slots of before, dead or alive. -/
theorem apart (sole : Sole m) {id : SlotId} {slot twin : Slot} (begun : Begun m slot)
    (plain : slot.recursive = false) (present : m.slots.get? id = some twin)
    (number : twin.number = slot.number) : twin.location.isScript ≠ slot.location.isScript := by
  refine begun.vacant plain id twin present (Bool.eq_false_iff.mpr fun gone => ?_) number
  exact begun.real (number.symm.trans (sole.dead present gone))

/-- **A start that is not recursive leaves one instance of its script**, the new one. -/
theorem claimed {id : SlotId} (sole : Sole m) (claims : Claimed m id m')
    (plain : StartedAs false id m') : Sole m' := by
  obtain ⟨new, present, plain⟩ := plain
  -- a slot of before, or the new one, which says itself that it is not recursive
  have each : ∀ {other slot}, m'.slots.get? other = some slot →
      m.slots.get? other = some slot ∨ other = id ∧ Begun m slot ∧ slot.recursive = false := by
    intro other slot found
    rcases claims.begun found with before | ⟨rfl, begun⟩
    · exact .inl before
    · cases present.symm.trans found
      exact .inr ⟨rfl, begun, plain⟩
  refine ⟨?_, ?_⟩
  · intro other slot found gone
    rcases each found with before | ⟨_, begun, _⟩
    · exact sole.dead before gone
    · cases gone.symm.trans begun.alive
  · intro first other slot twin found found' real number place
    rcases each found with before | ⟨rfl, begun, plain⟩
    · rcases each found' with before' | ⟨rfl, begun, plain⟩
      · exact sole.once before before' real number place
      · exact absurd place.symm (sole.apart begun plain before number.symm)
    · rcases each found' with before' | ⟨same, _⟩
      · exact absurd place (sole.apart begun plain before' number)
      · exact same

/-- **As long as no start is recursive, no script is carried twice**, whatever a host does. -/
theorem enduring :
    Enduring (fun deed => deed.isRecursive = false) (fun moment => moment.startsBeside = false)
      Sole where
  quiet := Sole.quiet
  effect sole _ effect := sole.effect effect
  called sole fair running asks claims := by
    have started := instruct_startedAs running asks
    rw [fair] at started
    exact sole.claimed claims started
  ordered sole allowed asks claims := by
    have started := Order.prepare_startedAs asks
    change Order.isRecursive _ = false at allowed
    rw [allowed] at started
    exact sole.claimed claims started
  abort sole _ := sole.abort

end Sole

/-- **Scripts that are not started recursively run once.**  Whatever a host has done with a new
game, as long as neither it nor an instruction has started a script recursively, no two live slots
run the same script, and no two the same object; and this holds in every moment of the next deed,
in the middle of calls. -/
theorem scripts_run_singly {start m : Machine} (pristine : Pristine start)
    (hosted : Hosted (fun deed => deed.isRecursive = false)
      (fun moment => moment.startsBeside = false) start m) :
    Singly m ∧ ∀ (deed : Deed) (fuel : Nat), deed.isRecursive = false →
      (∀ moment, deed.Moment fuel m moment → moment.startsBeside = false) →
      ∀ moment, deed.Moment fuel m moment → Singly moment := by
  have here : Sole m := Sole.enduring.hosted (.of_pristine pristine) pristine.rest hosted
  refine ⟨here.singly, ?_⟩
  intro deed fuel allowed fair moment during
  have there := Sole.enduring.moment here (hosted.rest pristine.rest) allowed fair during
  exact there.singly

/-! ## A game in which a script is started again and again -/

/-- The passages of an execution, one by one. -/
def passages : (fuel : Nat) → Machine → List Machine
  | 0, m => [m]
  | fuel + 1, m =>
    m :: match m.current with
      | none => []
      | some id =>
        let inside :=
          match instruct id m with
          | .ok (some call) asked =>
            match enter call.slot asked with
            | .ok _ entered => passages fuel entered
            | .error _ _ => []
          | _ => []
        let later :=
          match step (execute fuel) id m with
          | .ok _ next => passages fuel next
          | .error _ _ => []
        inside ++ later

theorem Passes.mem_passages {fuel : Nat} {moment : Machine} (passes : Passes fuel m moment) :
    moment ∈ passages fuel m := by
  induction passes with
  | here fuel m => cases fuel <;> exact .head _
  | inside running asks enters _ ih =>
      refine .tail _ ?_
      simp only [running, asks, enters]
      exact List.mem_append_left _ ih
  | later running steps _ ih =>
      refine .tail _ ?_
      simp only [running, steps]
      exact List.mem_append_right _ ih

/-- Every moment of an order is fair when every passage of the script that it starts is. -/
theorem Order.fair {order : Order} {fuel : Nat} {call : Call} {asked entered : Machine}
    {Fair : Machine → Prop} (once : order ≠ .tick)
    (asks : order.prepare m = .ok (some call) asked)
    (enters : enter call.slot asked = .ok () entered)
    (fair : ∀ moment ∈ passages fuel entered, Fair moment) :
    ∀ moment, (Deed.order order).Moment fuel m moment → Fair moment := by
  intro moment during
  cases during with
  | called asks' enters' passes =>
      cases asks.symm.trans asks'
      cases enters.symm.trans enters'
      exact fair moment passes.mem_passages
  | turn opens =>
      cases opens
      exact absurd rfl once

/-- A game with two scripts.  The first starts the second, which waits. -/
def restarts : Machine :=
  .boot .standard ⟨[(1, [0x07, 2, 0, 0, 0, 0x01]), (2, [0x01, 0x00])], [], [], .empty⟩ []

theorem scripts_run_singly_restarts : ∃ m moment : Machine,
    Hosted (fun deed => deed.isRecursive = false) (fun moment => moment.startsBeside = false)
        restarts m ∧
      m.isScriptRunning 2 = true ∧ Singly m ∧
      (Deed.order (.startScript 1 false false [])).Moment 9 m moment ∧
      moment.current = some 1 ∧ moment.calls.length = 2 ∧ moment.isScriptRunning 2 = true ∧
      Singly moment := by
  let second : Order := .startScript 2 false false []
  let first : Order := .startScript 1 false false []
  have asks : second.prepare restarts = .ok (some ⟨1, false⟩) _ :=
    Run.eq_ok_of_value? (by decide +kernel)
  have enters : enter 1 (Run.last second.prepare restarts) = .ok () _ :=
    Run.eq_ok_of_value? (by decide +kernel)
  have done : (Deed.order second).carryOut 9 restarts = .ok () _ :=
    Run.eq_ok_of_value? (by decide +kernel)
  let waiting := Run.last ((Deed.order second).carryOut 9) restarts
  have asks' : first.prepare waiting = .ok (some ⟨2, false⟩) _ :=
    Run.eq_ok_of_value? (by decide +kernel)
  have enters' : enter 2 (Run.last first.prepare waiting) = .ok () _ :=
    Run.eq_ok_of_value? (by decide +kernel)
  let calling := Run.last (enter 2) (Run.last first.prepare waiting)
  have asks'' : instruct 2 calling = .ok (some ⟨1, false⟩) _ :=
    Run.eq_ok_of_value? (by decide +kernel)
  have enters'' : enter 1 (Run.last (instruct 2) calling) = .ok () _ :=
    Run.eq_ok_of_value? (by decide +kernel)
  have hosted : Hosted (fun deed => deed.isRecursive = false)
      (fun moment => moment.startsBeside = false) restarts waiting :=
    .deed .begin (.order second) rfl 9
      (Order.fair (by decide) asks enters (by decide +kernel)) done
  obtain ⟨singly, next⟩ := scripts_run_singly (boot_pristine _ _ _) hosted
  have during : (Deed.order first).Moment 9 waiting _ :=
    .called asks' enters' (.inside (by decide +kernel) asks'' enters'' (.here 8 _))
  have alone := next (.order first) 9 rfl
    (Order.fair (by decide) asks' enters' (by decide +kernel)) _ during
  let called := Run.last (enter 1) (Run.last (instruct 2) calling)
  have facts : waiting.isScriptRunning 2 = true ∧ called.current = some 1 ∧
      called.calls.length = 2 ∧ called.isScriptRunning 2 = true := by decide +kernel
  obtain ⟨runs, current, calls, runs'⟩ := facts
  exact ⟨waiting, called, hosted, runs, singly, during, current, calls, runs', alone⟩

end Machine

end Adventure
