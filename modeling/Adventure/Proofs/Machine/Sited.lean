import Adventure.Proofs.Machine.Orders

/-!
# The executing script and its code

The machine keeps the code it reads beside its slots.  Whenever a script executes, it is
alive and that code is its own: loading a slot brings the two together, and whatever
could part them, such as entering a room, takes control from the script as well.
-/

set_option autoImplicit false

namespace Adventure.Machine

variable {m m' : Machine}

/-- The executing script is alive, and the code that is read is its own. -/
def Sited (m : Machine) : Prop :=
  ∀ id, m.current = some id → ∃ slot, m.slots.get? id = some slot ∧ slot.isDead = false ∧
    m.library.code? slot.number slot.location = some m.code

namespace Sited

theorem of_rest (rest : m.current = none) : Sited m := by
  intro id running
  cases rest.symm.trans running

/-- Only the executing slot, the library and the code matter. -/
theorem of_same (sited : Sited m) (current : m'.current = m.current)
    (slot : ∀ id, m.current = some id → m'.slots.get? id = m.slots.get? id)
    (library : m'.library = m.library) (code : m'.code = m.code) : Sited m' := by
  intro id running
  rw [current] at running
  rw [slot id running, library, code]
  exact sited id running

/-- A change of the executing slot that leaves its script alone. -/
theorem changeCurrent (sited : Sited m) {change : Slot → Slot}
    (kept : ∀ slot : Slot, slot.SameScript (change slot)) : Sited (m.changeCurrent change) := by
  intro id running
  change m.current = some id at running
  obtain ⟨slot, present, alive, known⟩ := sited id running
  have same := kept slot
  refine ⟨change slot, ?_, ?_, ?_⟩
  · rw [changeCurrent_get?, if_pos running, present]
    rfl
  · rw [same]
    exact alive
  · rw [same]
    exact known

theorem effect (sited : Sited m) (effect : Effect m m') : Sited m' := by
  cases effect with
  | aside => exact sited.of_same rfl (fun _ _ => rfl) rfl rfl
  | tune change kept => exact sited.changeCurrent kept
  | yield => exact .of_rest rfl
  | finish =>
      obtain ⟨events, same⟩ := stopCurrent_eq m
      rw [same]
      exact .of_rest rfl
  | stop test waits =>
      intro id running
      obtain ⟨running, spared⟩ := stopWhere_current running
      obtain ⟨slot, present, alive, known⟩ := sited id running
      refine ⟨slot, ?_, alive, known⟩
      simp [stopWhere_get?, present, spared slot present alive]
  | refreeze slots kept =>
      intro id running
      obtain ⟨slot, present, alive, known⟩ := sited id running
      obtain ⟨freeze, same⟩ := kept id
      rw [present] at same
      exact ⟨_, same, alive, known⟩
  | enterRoom number loaded =>
      intro id running
      change m.stopRoomScripts.current = some id at running
      obtain ⟨running, spared⟩ := stopWhere_current running
      obtain ⟨slot, present, alive, known⟩ := sited id running
      have stays := spared slot present alive
      refine ⟨slot, ?_, alive, (Library.code?_room _ _ _ stays).trans known⟩
      change m.stopRoomScripts.slots.get? id = some slot
      simp [stopRoomScripts, stopWhere_get?, present, stays]

theorem stable : Stable Sited where
  fetch after sited running := by
    intro id' running'
    obtain ⟨slot, present, alive, known⟩ := sited id' running'
    refine ⟨{ slot with executed := true }, ?_, alive, known⟩
    cases running.symm.trans running'
    simp [fetched, changeSlot, Bank.get?_modify, present]
  effect := Sited.effect
  leap sited leap := by
    cases leap with
    | jump => exact sited.of_same rfl (fun _ _ => rfl) rfl rfl
    | jumpIfZero => exact sited.of_same rfl (fun _ _ => rfl) rfl rfl
    | jumpIfNotZero => exact sited.of_same rfl (fun _ _ => rfl) rfl rfl
    | arm => exact sited.of_same rfl (fun _ _ => rfl) rfl rfl

end Sited

/-- The slot that is claimed is not the executing one: it runs nothing. -/
theorem Sited.unclaimed {id caller : SlotId} (sited : Sited m) (claimed : Claimed m id m')
    (calling : m.current = some caller) : id ≠ caller := by
  rintro rfl
  obtain ⟨⟨free, present, dead⟩, _⟩ := claimed.slot
  obtain ⟨slot, present', alive, _⟩ := sited id calling
  cases present.symm.trans present'
  cases dead.symm.trans alive

theorem Sited.claimed {id : SlotId} (sited : Sited m) (claimed : Claimed m id m') : Sited m' :=
  sited.of_same claimed.current (fun _ active => claimed.other (sited.unclaimed claimed active))
    claimed.library claimed.code

/-- A slot that is entered executes its own code. -/
theorem Sited.enter {id : SlotId} (live : ∃ slot, m.slots.get? id = some slot ∧ slot.isDead = false)
    (done : Machine.enter id m = .ok () m') : Sited m' := by
  obtain ⟨slot, code, present, known, rfl⟩ := enter_ok done
  intro id' running
  cases running
  refine ⟨slot, present, ?_, known⟩
  obtain ⟨before, present', alive⟩ := live
  rw [noted, changeCurrent_get?, present'] at present
  split at present
  · cases present
    exact alive
  · cases present
    exact alive

theorem Sited.returned (returned : Returned m m') : Sited m' := by
  cases returned with
  | bare => exact .of_rest rfl
  | stays => exact .of_rest rfl
  | resumes frame outer open_ caller slot code real waits present number location alive free known =>
      intro id running
      cases running
      exact ⟨slot, present, alive, known⟩

theorem Sited.kept : Kept 0 Sited where
  instruct := Sited.stable.instruct
  call sited running asks enters := by
    obtain ⟨middle, _, claimed⟩ := Sited.stable.asks sited running asks
    exact .enter claimed.slot.2 enters
  back _ _ returned := .returned returned
  forget sited := sited.of_same rfl (fun _ _ => rfl) rfl rfl

/-! ## Every moment of an order -/

/-- A slot that is ready for its turn is alive. -/
theorem isReady_alive {id : SlotId} (ready : m.isReady id = true) :
    ∃ slot, m.slots.get? id = some slot ∧ slot.isDead = false := by
  unfold isReady at ready
  cases present : m.slots.get? id with
  | none => simp [present] at ready
  | some slot =>
      simp only [present, Slot.isRunnable, Bool.and_eq_true, beq_iff_eq] at ready
      exact ⟨slot, rfl, by simp [Slot.isDead, ready.1.1]⟩

/-- A slot that gets its turn executes its own code. -/
theorem Sited.load {id : SlotId} (ready : m.isReady id = true)
    (loads : loadSlotCode id { m with current := some id } = .ok () m') : Sited m' := by
  obtain ⟨slot, present, alive⟩ := isReady_alive ready
  obtain ⟨slot', code, present', known, rfl⟩ := loadSlotCode_ok loads
  cases present.symm.trans present'
  intro id running
  cases running
  exact ⟨slot, present, alive, known⟩

/-- **In every order, the executing script is alive and its code is the one that is read.** -/
theorem Sited.lasting (Allowed : Order → Prop) : Lasting Allowed Sited where
  kept := Sited.kept
  prepare _ rest _ prepares := .of_rest (Order.prepare_rest rest prepares)
  enter _ live enters := .enter live enters
  begins _ begins := .of_rest (by rw [beginTick_ok begins])
  load _ ready loads := .load ready loads
  walk _ _ sited := sited.of_same rfl (fun _ _ => rfl) rfl rfl

end Adventure.Machine
