import Adventure.Proofs.Machine.Deeds

/-!
# The slot table stays well formed

A slot is dead exactly when it carries no number, slot zero is never used, and every script
that is alive has code in the library.  Slots come and go on many ways, and entering a room
takes code away; what keeps the table in order is that a slot loses its number when its
script ends, and that the scripts of a room end when the room is left.

So a slot that is ready for its turn can be loaded.  Skipping a cutscene is left out: it
makes a slot run again even when its script has ended.
-/

set_option autoImplicit false

namespace Adventure

/-- The slots are eighty, the first is not used, the dead ones are those without a number, and
the scripts of the others have code. -/
structure SlotTable.WellFormed (slots : SlotTable) (library : Library) : Prop where
  size : slots.cells.length = 80
  zero : ∃ slot, slots.get? 0 = some slot ∧ slot.isDead = true
  dead_iff : ∀ {id slot}, slots.get? id = some slot → (slot.isDead = true ↔ slot.number = 0)
  code : ∀ {id slot}, slots.get? id = some slot → slot.isDead = false →
    (library.code? slot.number slot.location).isSome = true

namespace SlotTable.WellFormed

variable {slots : SlotTable} {library : Library}

/-- What is to be shown of a table: its size is known from its type. -/
theorem of_slots (zero : ∀ {slot}, slots.get? 0 = some slot → slot.isDead = true)
    (dead_iff : ∀ {id slot}, slots.get? id = some slot → (slot.isDead = true ↔ slot.number = 0))
    (code : ∀ {id slot}, slots.get? id = some slot → slot.isDead = false →
      (library.code? slot.number slot.location).isSome = true) :
    slots.WellFormed library := by
  refine ⟨slots.length_cells, ?_, dead_iff, code⟩
  have inside : 0 < slots.cells.length := by
    rw [slots.length_cells]
    decide
  exact ⟨_, List.getElem?_eq_getElem inside, zero (List.getElem?_eq_getElem inside)⟩

theorem zero_dead (wellFormed : slots.WellFormed library) {slot : Slot}
    (present : slots.get? 0 = some slot) : slot.isDead = true := by
  obtain ⟨_, present', dead⟩ := wellFormed.zero
  cases present.symm.trans present'
  exact dead

/-- Where every slot runs nothing, the table is well formed. -/
theorem empty : SlotTable.empty.WellFormed library := by
  have each : ∀ {id slot}, SlotTable.empty.get? id = some slot → slot = .empty :=
    fun present => List.eq_of_mem_replicate (List.mem_of_getElem? present)
  refine of_slots ?_ ?_ ?_
  · intro slot present
    rw [each present]
    rfl
  · intro id slot present
    rw [each present]
    decide
  · intro id slot present alive
    rw [each present] at alive
    cases alive

end SlotTable.WellFormed

namespace Machine

variable {m m' : Machine}

/-- A script that goes on is alive as before: only the executing script can be made to wait, and
that one is alive. -/
theorem Onward.dead {id : SlotId} {before after : Slot} (onward : Onward m m' id before after)
    (sited : Sited m) (present : m.slots.get? id = some before) : after.isDead = before.isDead := by
  rcases onward.alive with same | ⟨running, alive⟩
  · exact same
  · obtain ⟨slot, present', alive', _⟩ := sited id running
    cases present.symm.trans present'
    rw [alive, alive']

/-- The machine's slots go with its library. -/
def Tabled (m : Machine) : Prop := m.slots.WellFormed m.library

namespace Tabled

theorem quiet (tabled : Tabled m) (quiet : Quiet m m') : Tabled m' := by
  refine .of_slots ?_ ?_ ?_
  · intro slot present
    obtain ⟨before, found, _, _, dead⟩ := quiet.scripts present
    rw [dead]
    exact tabled.zero_dead found
  · intro id slot present
    obtain ⟨before, found, number, _, dead⟩ := quiet.scripts present
    rw [dead, number]
    exact tabled.dead_iff found
  · intro id slot present alive
    obtain ⟨before, found, number, location, dead⟩ := quiet.scripts present
    rw [quiet.library, number, location]
    exact tabled.code found (dead.symm.trans alive)

theorem effect (tabled : Tabled m) (sited : Sited m) (effect : Effect m m') : Tabled m' := by
  refine .of_slots ?_ ?_ ?_
  · intro slot present
    obtain ⟨before, found, rfl | onward⟩ := effect.slot present
    · rfl
    · rw [onward.dead sited found]
      exact tabled.zero_dead found
  · intro id slot present
    obtain ⟨before, found, rfl | onward⟩ := effect.slot present
    · exact ⟨fun _ => rfl, fun _ => rfl⟩
    · rw [onward.dead sited found, onward.number]
      exact tabled.dead_iff found
  · intro id slot present alive
    obtain ⟨before, found, rfl | onward⟩ := effect.slot present
    · cases alive
    · rw [onward.dead sited found] at alive
      rw [onward.number, onward.location, onward.code alive]
      exact tabled.code found alive

/-- A script is started with a number and with code, in a slot that is not slot zero. -/
theorem claimed {id : SlotId} (tabled : Tabled m) (claimed : Claimed m id m') : Tabled m' := by
  refine .of_slots ?_ ?_ ?_
  · intro slot present
    rcases claimed.begun present with before | ⟨same, _⟩
    · exact tabled.zero_dead before
    · exact absurd same.symm claimed.ne_zero
  · intro other slot present
    rcases claimed.begun present with before | ⟨_, begun⟩
    · exact tabled.dead_iff before
    · simp [begun.alive, begun.real]
  · intro other slot present alive
    rw [claimed.library]
    rcases claimed.begun present with before | ⟨_, begun⟩
    · exact tabled.code before alive
    · exact begun.code

/-- **The table stays well formed** in everything a host does but skipping a cutscene. -/
theorem enduring : Enduring (· ≠ .order .abortCutscene) (fun _ => True) Tabled where
  quiet := Tabled.quiet
  effect := Tabled.effect
  called tabled _ _ _ claims := tabled.claimed claims
  ordered tabled _ _ claims := tabled.claimed claims
  abort _ allowed := absurd rfl allowed

/-- A slot that is ready can be loaded. -/
theorem loads (tabled : Tabled m) {id : SlotId} (ready : m.isReady id = true) :
    ∃ loaded, loadSlotCode id { m with current := some id } = .ok () loaded := by
  obtain ⟨slot, present, alive⟩ := isReady_alive ready
  obtain ⟨code, known⟩ := Option.isSome_iff_exists.mp (tabled.code present alive)
  refine ⟨{ m with current := some id, code := code, pc := slot.offset }, ?_⟩
  simp only [loadSlotCode, Run.get_bind_apply, present, known]
  rfl

end Tabled

/-- **The slot table stays well formed.**  Whatever a host has done with a new game, short of
skipping a cutscene, the table is well formed, and it is in every moment of the next deed.  So
in a tick or a pass every slot that is ready for its turn can be loaded. -/
theorem slot_table_wellFormed {start m : Machine} (pristine : Pristine start)
    (hosted : Hosted (· ≠ .order .abortCutscene) (fun _ => True) start m) :
    m.slots.WellFormed m.library ∧
      ∀ (deed : Deed) (fuel : Nat), deed ≠ .order .abortCutscene →
        (∀ moment, deed.Moment fuel m moment → moment.slots.WellFormed moment.library) ∧
        ∀ begun before id, deed.Opens m begun → id < 80 →
          (List.range id).forM (takeTurn fuel) begun = .ok () before → before.isReady id = true →
          ∃ loaded, loadSlotCode id { before with current := some id } = .ok () loaded := by
  have begins : Tabled start := by
    unfold Tabled
    rw [pristine.slots]
    exact .empty
  have here : Tabled m := Tabled.enduring.hosted begins pristine.rest hosted
  have rest := hosted.rest pristine.rest
  refine ⟨here, fun deed fuel allowed => ⟨fun moment during => ?_, ?_⟩⟩
  · exact Tabled.enduring.moment here rest allowed (fun _ _ => trivial) during
  · intro begun before id opens inside earlier ready
    have tabled : Tabled before := Tabled.enduring.turns here opens (fun _ _ => trivial)
      (Nat.le_of_lt inside) earlier
    exact tabled.loads ready

/-- A game with a room whose script waits for its next turn. -/
def roomGame : Machine :=
  .boot .standard .empty [(1, ⟨.nowhere, ⟨[(200, [0x01, 0x00])], []⟩⟩)]

theorem slot_table_wellFormed_roomGame : ∃ m before loaded,
    Hosted (· ≠ .order .abortCutscene) (fun _ => True) roomGame m ∧
      m.slots.WellFormed m.library ∧
      (List.range 1).forM (takeTurn 9) m.unturned = .ok () before ∧ before.isReady 1 = true ∧
      loadSlotCode 1 { before with current := some 1 } = .ok () loaded := by
  let entered := Run.last ((Deed.order (.changeRoom 1)).carryOut 9) roomGame
  let started := Run.last ((Deed.order (.startScript 200 false false [])).carryOut 9) entered
  have enters : (Deed.order (.changeRoom 1)).carryOut 9 roomGame = .ok () entered :=
    Run.eq_ok_of_value? (by decide +kernel)
  have starts : (Deed.order (.startScript 200 false false [])).carryOut 9 entered =
      .ok () started := Run.eq_ok_of_value? (by decide +kernel)
  have turns : (List.range 1).forM (takeTurn 9) started.unturned = .ok () _ :=
    Run.eq_ok_of_value? (by decide +kernel)
  have ready : (Run.last ((List.range 1).forM (takeTurn 9)) started.unturned).isReady 1 = true := by
    decide +kernel
  have hosted : Hosted (· ≠ .order .abortCutscene) (fun _ => True) roomGame started :=
    .deed (.deed .begin _ (by simp) 9 (fun _ _ => trivial) enters) _ (by simp) 9
      (fun _ _ => trivial) starts
  obtain ⟨wellFormed, next⟩ := slot_table_wellFormed (boot_pristine _ _ _) hosted
  obtain ⟨loaded, loads⟩ := (next .pass 9 (by simp)).2 _ _ 1 .pass (by decide) turns ready
  exact ⟨started, _, loaded, hosted, wellFormed, turns, ready, loads⟩

end Machine

end Adventure
