import Adventure.Proofs.Machine.Balance
import Adventure.Proofs.Machine.Offstage
import Adventure.Proofs.Machine.Singles

/-!
# The script that opens a cutscene

A script that opens a cutscene waits until the start hook has run, and the hook may freeze
scripts.  A freeze spares the script that is just opening a cutscene, so it can go on
afterwards.

The machine remembers one such script at a time.  As long as the hook opens no cutscene of
its own, the slot stays spared (`Spared`), whatever scripts the hook runs.  When it does,
the machine forgets the outer script with the inner one, and a freeze that follows holds the
outer script: it has opened its cutscene and is frozen.
-/

set_option autoImplicit false

namespace Adventure

/-- Two banks of a size have the same cells. -/
theorem Bank.exists_get? {α : Type} {n : Nat} {bank : Bank α n} (other : Bank α n) {index : Nat}
    {value : α} (present : bank.get? index = some value) : ∃ value', other.get? index = some value' := by
  obtain ⟨inside, _⟩ := List.getElem?_eq_some_iff.mp present
  rw [bank.length_cells, ← other.length_cells] at inside
  exact ⟨_, List.getElem?_eq_getElem inside⟩

namespace Machine

variable {m m' : Machine} {id : SlotId}

/-! ## Spared slots -/

/-- Whatever the slot carries is not frozen. -/
def Unfrozen (id : SlotId) (m : Machine) : Prop :=
  ∀ slot, m.slots.get? id = some slot → slot.freezeCount = 0

namespace Unfrozen

theorem of_slots (free : Unfrozen id m) (slots : m'.slots = m.slots) : Unfrozen id m' := by
  intro slot present
  exact free slot (slots ▸ present)

/-- A change of one slot that leaves its freezes alone. -/
theorem changeSlot (free : Unfrozen id m) (changed : SlotId) {change : Slot → Slot}
    (kept : ∀ slot : Slot, (change slot).freezeCount = slot.freezeCount) :
    Unfrozen id (m.changeSlot changed change) := by
  intro slot present
  change (m.slots.modify changed change).get? id = some slot at present
  rw [Bank.get?_modify] at present
  split at present
  · obtain ⟨before, found, rfl⟩ := Option.map_eq_some_iff.mp present
    exact (kept before).trans (free before found)
  · exact free slot present

/-- A change of the executing slot that leaves its freezes alone. -/
theorem changeCurrent (free : Unfrozen id m) {change : Slot → Slot}
    (kept : ∀ slot : Slot, (change slot).freezeCount = slot.freezeCount) :
    Unfrozen id (m.changeCurrent change) := by
  cases running : m.current with
  | none => rwa [changeCurrent_of_rest running]
  | some current =>
      rw [changeCurrent_of_running running]
      exact free.changeSlot current kept

theorem fetched (free : Unfrozen id m) (current : SlotId) (after : Nat) :
    Unfrozen id (m.fetched current after) := by
  have ready : Unfrozen id { m with opStart := m.pc, pc := after } := free
  exact ready.changeSlot current fun _ => rfl

theorem opened (free : Unfrozen id m) (opened : Opened m m') : Unfrozen id m' := by
  refine of_slots ?_ opened.slots
  exact free.changeCurrent fun _ => rfl

theorem closed (free : Unfrozen id m) (closed : Closed m m') : Unfrozen id m' := by
  have once : Unfrozen id m.releaseHold := free.changeCurrent fun _ => rfl
  refine of_slots ?_ closed.slots
  split
  · exact once.changeCurrent fun _ => rfl
  · exact once

theorem returned (free : Unfrozen id m) (returned : Returned m m') : Unfrozen id m' := by
  cases returned with
  | bare => exact free
  | stays => exact free
  | resumes => exact free

end Unfrozen

/-- The slot is just opening a cutscene, and it is not frozen. -/
structure Spared (id : SlotId) (m : Machine) : Prop where
  opener : m.cutsceneScript = some id
  free : Unfrozen id m

namespace Spared

theorem offstage (spared : Spared id m) {claimed : Option SlotId}
    (offstage : Offstage claimed m m') : Spared id m' := by
  refine ⟨offstage.opener.trans spared.opener, fun slot present => ?_⟩
  by_cases new : claimed = some id
  · exact (offstage.new new present).2
  · obtain ⟨before, found, _, free⟩ := offstage.slot new present
    exact free spared.opener (spared.free before found)

theorem enter {callee : SlotId} (spared : Spared id m)
    (done : Machine.enter callee m = .ok () m') : Spared id m' := by
  obtain ⟨_, _, _, _, rfl⟩ := enter_ok done
  have noted : Unfrozen id m.noted := spared.free.changeCurrent fun _ => rfl
  exact ⟨spared.opener, noted⟩

theorem returned (spared : Spared id m) (returned : Returned m m') : Spared id m' := by
  refine ⟨?_, spared.free.returned returned⟩
  cases returned with
  | bare => exact spared.opener
  | stays => exact spared.opener
  | resumes => exact spared.opener

end Spared

/-! ## The run of the hook -/

/-- Only an instruction that opens a cutscene calls a start hook. -/
theorem perform_opening {operation : Operation} {operands : Operands operation.shape} {call : Call}
    (other : operation ≠ .beginCutscene)
    (done : perform operation operands m = .ok (some call) m') : call.opening = false := by
  have of_slot : ∀ {run : Run (Option SlotId)},
      (run >>= fun slot => pure (slot.map fun id => (⟨id, false⟩ : Call))) m = .ok (some call) m' →
        call.opening = false := by
    intro run called
    obtain ⟨slot, _, _, ended⟩ := Run.bind_eq_ok_iff.mp called
    cases slot with
    | none => cases ended
    | some id =>
        cases ended
        rfl
  cases operation with
  | startScript => exact of_slot done
  | startObject => exact of_slot done
  | beginCutscene => exact absurd rfl other
  | endCutscene =>
      change closeCutscene m = _ at done
      simp only [closeCutscene, Run.modify_bind_apply, Run.get_bind_apply] at done
      cases popped : m.releaseHold.cutscenes.pop? with
      | none =>
          rw [popped] at done
          cases done
      | some cutscenes =>
          simp only [popped, Run.set_bind_apply, Run.bind_eq_ok_iff] at done
          obtain ⟨_, _, _, slot, _, _, ended⟩ := done
          cases slot with
          | none => cases ended
          | some id =>
              cases ended
              rfl
  | _ => cases (alone_ok done).1

/-- An instruction that opens no cutscene spares the slot. -/
theorem Spared.instruct {other : SlotId} {call : Option Call} (spared : Spared id m)
    (running : m.current = some other) (plain : m.upcoming? ≠ some .beginCutscene)
    (done : Machine.instruct other m = .ok call m') :
    Spared id m' ∧ ∀ callee, call = some callee → callee.opening = false := by
  obtain ⟨operation, operands, after, comes, performed⟩ := instruct_performs running done
  have opens : operation ≠ .beginCutscene := by
    rintro rfl
    exact plain comes
  have fetched : Spared id (m.fetched other after) := ⟨spared.opener, spared.free.fetched _ _⟩
  refine ⟨?_, ?_⟩
  · by_cases closes : operation = .endCutscene
    · subst closes
      obtain ⟨middle, closed, offstage, _⟩ := closeCutscene_offstage performed
      have after : Spared id middle := ⟨closed.opener.trans fetched.opener, fetched.free.closed closed⟩
      exact after.offstage offstage
    · exact fetched.offstage (perform_offstage opens closes performed)
  · rintro callee rfl
    exact perform_opening opens performed

/-- **While no further cutscene is opened, the slot stays spared**, in every passage. -/
theorem Spared.passes {fuel : Nat} {moment : Machine} (spared : Spared id m)
    (plain : ∀ moment, Passes fuel m moment → moment.upcoming? ≠ some .beginCutscene)
    (passes : Passes fuel m moment) : Spared id moment := by
  induction fuel generalizing m moment with
  | zero =>
      cases passes
      exact spared
  | succ fuel ih =>
      have here := plain m (.here _ _)
      cases passes with
      | here => exact spared
      | inside running asks enters rest =>
          have before := (spared.instruct running here asks).1
          exact ih (before.enter enters)
            (fun _ passes => plain _ (.inside running asks enters passes)) rest
      | later running steps rest =>
          refine ih ?_ (fun _ passes => plain _ (.later running steps passes)) rest
          rcases step_ok steps with alone | ⟨call, asked, entered, ended, returned, asks, enters,
            ran, back, rfl⟩
          · exact (spared.instruct running here alone).1
          · obtain ⟨before, hook⟩ := spared.instruct running here asks
            have ends := ih (before.enter enters)
              (fun _ passes => plain _ (.inside running asks enters passes)) (.last ran)
            rw [hook call rfl, if_neg Bool.false_ne_true]
            exact ends.returned (returnToCaller_ok back)

/-! ## Every moment of a deed -/

theorem Deed.Opens.idle {deed : Deed} {begun : Machine} (idle : Idle m)
    (opens : deed.Opens m begun) : Idle begun :=
  ⟨opens.rest, opens.calls.trans idle.closed⟩

/-- The executing script of every moment of a deed is runnable. -/
theorem Deed.Moment.awake {deed : Deed} {fuel : Nat} {moment : Machine} (idle : Idle m)
    (during : deed.Moment fuel m moment) : Awake moment := by
  cases during with
  | called asks enters passes => exact idle.moment (.called asks enters passes)
  | turn opens inside earlier ready loads passes =>
      have before : Idle _ := Run.forM_kept Idle.turn (opens.idle idle) earlier
      exact (Awake.kept.passes (before.load ready loads) (Nat.zero_le _) passes).1

/-- **A script that opens a cutscene is not frozen by its start hook**, unless the hook opens a
further cutscene.  Whatever a host has done with a game, in every moment of its next deed in
which a script opens a cutscene: when the hook has run, with all the scripts it starts, either
the slot of the script is not frozen, or in some passage of the hook's run another cutscene is
opened. -/
theorem cutscene_opener_unfrozen {moment next : Machine} {deed : Deed} {fuel left : Nat}
    (ongoing : Ongoing m) (during : deed.Moment fuel m moment) (executing : moment.current = some id)
    (opens : moment.upcoming? = some .beginCutscene)
    (done : step (execute left) id moment = .ok () next) :
    (∃ slot, next.slots.get? id = some slot ∧ slot.freezeCount = 0) ∨
      ∃ call asked entered inner, instruct id moment = .ok (some call) asked ∧
        enter call.slot asked = .ok () entered ∧ Passes left entered inner ∧
        inner.upcoming? = some .beginCutscene := by
  obtain ⟨slot, present, able⟩ := (during.awake ongoing.idle).active executing
  have free : Unfrozen id moment := by
    intro slot' present'
    cases present.symm.trans present'
    simp only [Slot.isRunnable, Bool.and_eq_true, beq_iff_eq] at able
    exact able.2
  have same : ∀ {after : Machine}, Unfrozen id after →
      ∃ slot, after.slots.get? id = some slot ∧ slot.freezeCount = 0 := by
    intro after free
    obtain ⟨slot', present'⟩ := Bank.exists_get? after.slots present
    exact ⟨slot', present', free slot' present'⟩
  rcases step_ok done with alone | ⟨call, asked, entered, ended, returned, asks, enters, ran, back,
    rfl⟩
  · obtain ⟨operation, operands, after, comes, performed⟩ := instruct_performs executing alone
    cases opens.symm.trans comes
    obtain ⟨middle, opened, _, rfl⟩ := openCutscene_offstage performed
    exact .inl (same ((free.fetched id after).opened opened))
  · obtain ⟨operation, operands, after, comes, performed⟩ := instruct_performs executing asks
    cases opens.symm.trans comes
    obtain ⟨middle, opened, offstage, hook, opener⟩ := openCutscene_offstage performed
    have begins : Spared id middle :=
      ⟨opener.trans executing, (free.fetched id after).opened opened⟩
    by_cases further : ∃ inner, Passes left entered inner ∧ inner.upcoming? = some .beginCutscene
    · obtain ⟨inner, passes, comes⟩ := further
      exact .inr ⟨call, asked, entered, inner, asks, enters, passes, comes⟩
    · have ends := ((begins.offstage offstage).enter enters).passes
        (fun inner passes comes => further ⟨inner, passes, comes⟩) (.last ran)
      have last : Unfrozen id returned := ends.free.returned (returnToCaller_ok back)
      rw [hook, if_pos rfl]
      exact .inl (same (last.of_slots rfl))

/-- A game with a script that opens a cutscene, and a start hook that freezes scripts. -/
def freezingHook : Machine :=
  { boot .standard ⟨[(1, [0x0C, 0, 0x01]), (2, [0x0B, 1, 0x00])], [], [], .empty⟩ [] with
    hooks := ⟨2, 0⟩ }

theorem cutscene_opener_freezingHook : ∃ (moment next : Machine) (slot : Slot),
    (Deed.order (.startScript 1 false false [])).Moment 9 freezingHook moment ∧
      moment.upcoming? = some .beginCutscene ∧ step (execute 8) 1 moment = .ok () next ∧
      next.slots.get? 1 = some slot ∧ slot.isDead = false ∧ slot.freezeCount = 0 := by
  let order : Order := .startScript 1 false false []
  let asked := Run.last order.prepare freezingHook
  let opening := Run.last (enter 1) asked
  let hooked := Run.last (instruct 1) opening
  let entered := Run.last (enter 2) hooked
  let next := Run.last (step (execute 8) 1) opening
  have ends : Run.value? order.prepare freezingHook = some (some ⟨1, false⟩) ∧
      Run.value? (enter 1) asked = some () ∧
      Run.value? (instruct 1) opening = some (some ⟨2, true⟩) ∧
      Run.value? (enter 2) hooked = some () ∧ Run.value? (step (execute 8) 1) opening = some () := by
    decide +kernel
  obtain ⟨asks, enters, hooks, enters', steps⟩ := ends
  have facts : opening.current = some 1 ∧ opening.upcoming? = some .beginCutscene ∧
      (next.slots.get? 1).map (·.isDead) = some false ∧
      (passages 8 entered).all (fun inner => inner.upcoming? != some .beginCutscene) = true := by
    decide +kernel
  obtain ⟨executing, opens, alive, plain⟩ := facts
  have during : (Deed.order order).Moment 9 freezingHook opening :=
    .called (Run.eq_ok_of_value? asks) (Run.eq_ok_of_value? enters) (.here 9 opening)
  have hooks : instruct 1 opening = .ok _ hooked := Run.eq_ok_of_value? hooks
  have enters' : enter 2 hooked = .ok () entered := Run.eq_ok_of_value? enters'
  have steps : step (execute 8) 1 opening = .ok () next := Run.eq_ok_of_value? steps
  -- the machines are known well enough
  clear_value asked opening hooked entered next
  have ongoing : Ongoing freezingHook := .fresh ⟨rfl, rfl, rfl⟩
  rcases cutscene_opener_unfrozen ongoing during executing opens steps with
    ⟨slot, present, free⟩ | ⟨_, _, _, inner, asks', enters'', passes, comes⟩
  · rw [present] at alive
    exact ⟨opening, next, slot, during, opens, steps, present, Option.some.inj alive, free⟩
  · cases hooks.symm.trans asks'
    cases enters'.symm.trans enters''
    simpa [comes] using List.all_eq_true.mp plain inner passes.mem_passages

/-- A game with a script that opens a cutscene.  The start hook runs another script then, which
opens and closes a cutscene of its own and freezes scripts. -/
def nestedHook : Machine :=
  { boot .standard
      ⟨[(1, [0x0C, 0, 0x01]), (2, [0x20, 0, 5, 0, 0x07, 3, 0, 0, 0, 0x00]),
        (3, [0x0C, 1, 1, 0, 0x0D, 0x0B, 1, 0x00])], [], [], .empty⟩ [] with
    hooks := ⟨2, 0⟩ }

/-- A cutscene inside of the start hook takes the protection away: the script that opens the outer
cutscene is alive and frozen when its instruction is done, and it does not go on. -/
theorem nested_cutscene_freezes_opener : ∃ moment next : Machine,
    (Deed.order (.startScript 1 false false [])).Moment 19 nestedHook moment ∧
      moment.current = some 1 ∧ moment.upcoming? = some .beginCutscene ∧
      step (execute 18) 1 moment = .ok () next ∧ next.current = none ∧
      (next.slots.get? 1).map (fun slot => (slot.number, slot.status, slot.freezeCount)) =
        some (1, .running, 1) := by
  let order : Order := .startScript 1 false false []
  let asked := Run.last order.prepare nestedHook
  let opening := Run.last (enter 1) asked
  let next := Run.last (step (execute 18) 1) opening
  have ends : Run.value? order.prepare nestedHook = some (some ⟨1, false⟩) ∧
      Run.value? (enter 1) asked = some () ∧ Run.value? (step (execute 18) 1) opening = some () := by
    decide +kernel
  obtain ⟨asks, enters, steps⟩ := ends
  have facts : opening.current = some 1 ∧ opening.upcoming? = some .beginCutscene ∧
      next.current = none ∧
      (next.slots.get? 1).map (fun slot => (slot.number, slot.status, slot.freezeCount)) =
        some (1, .running, 1) := by decide +kernel
  obtain ⟨executing, opens, frozen⟩ := facts
  have during : (Deed.order order).Moment 19 nestedHook opening :=
    .called (Run.eq_ok_of_value? asks) (Run.eq_ok_of_value? enters) (.here 19 opening)
  exact ⟨opening, next, during, executing, opens, Run.eq_ok_of_value? steps, frozen⟩

end Machine

end Adventure
