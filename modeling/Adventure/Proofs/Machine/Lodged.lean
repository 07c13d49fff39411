import Adventure.Proofs.Machine.Orders
import Adventure.Proofs.Script.Assembly
import Adventure.Scenario.Build

/-!
# A game stays in its house

A game is built with its rules, its rooms and its code, and nothing that happens in it changes
them.  The room that is shown is always one of its rooms, up to what scripts can change in a
room, and the code of that room is the room's part of the library.  So a slot that carries a
number is alive and has code: scripts that would lose theirs end when the room is left.

Slots whose number is zero are left out.  Skipping a cutscene makes the slot that armed the
override run again, even when its script has ended and the slot is empty.
-/

set_option autoImplicit false

namespace Adventure

namespace Machine

variable {start m m' : Machine}

/-- The machine has the rules, rooms and code of another one. -/
structure Lodged (start m : Machine) : Prop where
  rules : m.rules = start.rules
  rooms : m.rooms = start.rooms
  library : m.library = { start.library with room := m.library.room }
  room : ∃ loaded, start.rooms.get? m.room.number = some loaded ∧
    m.library.room = loaded.code ∧
    { loaded.geometry with number := m.room.number }.SameShape m.room
  scripts : ∀ {id slot}, m.slots.get? id = some slot → slot.number ≠ 0 →
    slot.isDead = false ∧ (m.library.code? slot.number slot.location).isSome = true

namespace Lodged

/-- A machine in the same room whose slots carry the same scripts, as far as they carry one. -/
theorem of_same (lodged : Lodged start m) (rules : m'.rules = m.rules) (rooms : m'.rooms = m.rooms)
    (library : m'.library = m.library) (room : m'.room = m.room)
    (scripts : ∀ {id slot}, m'.slots.get? id = some slot → slot.number ≠ 0 →
      ∃ before, m.slots.get? id = some before ∧ slot.number = before.number ∧
        slot.location = before.location ∧ (before.isDead = false → slot.isDead = false)) :
    Lodged start m' := by
  refine ⟨rules.trans lodged.rules, rooms.trans lodged.rooms, ?_, ?_, ?_⟩
  · rw [library]
    exact lodged.library
  · rw [library, room]
    exact lodged.room
  · intro id slot present real
    obtain ⟨before, found, number, location, alive⟩ := scripts present real
    rw [number] at real
    obtain ⟨living, known⟩ := lodged.scripts found real
    refine ⟨alive living, ?_⟩
    rw [library, number, location]
    exact known

theorem of_slots (lodged : Lodged start m) (rules : m'.rules = m.rules)
    (rooms : m'.rooms = m.rooms) (library : m'.library = m.library) (room : m'.room = m.room)
    (slots : m'.slots = m.slots) : Lodged start m' := by
  refine lodged.of_same rules rooms library room ?_
  intro id slot present _
  rw [slots] at present
  exact ⟨slot, present, rfl, rfl, fun alive => alive⟩

theorem changeSlot (lodged : Lodged start m) (id : SlotId) {change : Slot → Slot}
    (kept : ∀ slot : Slot, (change slot).number = slot.number ∧
      (change slot).location = slot.location ∧
      (slot.isDead = false → (change slot).isDead = false)) :
    Lodged start (m.changeSlot id change) := by
  refine lodged.of_same rfl rfl rfl rfl ?_
  intro other slot present _
  simp only [Machine.changeSlot, Bank.get?_modify] at present
  split at present
  · obtain ⟨before, found, rfl⟩ := Option.map_eq_some_iff.mp present
    exact ⟨before, found, kept before⟩
  · exact ⟨slot, present, rfl, rfl, fun alive => alive⟩

theorem effect (lodged : Lodged start m) (effect : Effect m m') : Lodged start m' := by
  obtain ⟨rules, rooms⟩ := effect.fixed
  refine ⟨rules.trans lodged.rules, rooms.trans lodged.rooms, ?_, ?_, ?_⟩
  · rcases effect.place with ⟨same, _⟩ | ⟨_, _, _, same, _⟩
    · rw [same]
      exact lodged.library
    · rw [same, lodged.library]
  · rcases effect.place with ⟨same, shape⟩ | ⟨number, loaded, known, same, entered⟩
    · obtain ⟨loaded, known, code, shape'⟩ := lodged.room
      refine ⟨loaded, ?_, ?_, ?_⟩
      · rw [shape.number]
        exact known
      · rw [same]
        exact code
      · rw [shape.number]
        exact shape'.trans shape
    · rw [same, entered]
      rw [lodged.rooms] at known
      exact ⟨loaded, known, rfl, .refl _⟩
  · intro id slot present real
    obtain ⟨before, found, rfl | onward⟩ := effect.slot present
    · exact absurd rfl real
    rw [onward.number] at real
    obtain ⟨alive, known⟩ := lodged.scripts found real
    refine ⟨?_, ?_⟩
    · rcases onward.alive with same | ⟨_, alive'⟩
      · exact same.trans alive
      · exact alive'
    · rw [onward.number, onward.location, onward.code alive]
      exact known

theorem effects (lodged : Lodged start m) (effects : Effects m m') : Lodged start m' := by
  induction effects with
  | refl => exact lodged
  | tail _ effect ih => exact ih.effect effect

/-- A script is started only where it has code. -/
theorem claimed {id : SlotId} (lodged : Lodged start m) (claimed : Claimed m id m') :
    Lodged start m' := by
  cases claimed with
  | intro number location offset freezeResistant recursive args event free real entry =>
      refine ⟨lodged.rules, lodged.rooms, lodged.library, lodged.room, ?_⟩
      intro other slot present real'
      simp only [Machine.changeSlot, logged, Bank.get?_modify] at present
      split at present
      · obtain ⟨_, _, rfl⟩ := Option.map_eq_some_iff.mp present
        exact ⟨rfl, entry.code⟩
      · exact lodged.scripts present real'

theorem prepared {slot : Option SlotId} (lodged : Lodged start m)
    (prepared : Prepared m slot m') : Lodged start m' := by
  cases slot with
  | none => exact lodged.effects prepared
  | some id =>
      obtain ⟨middle, effects, claimed⟩ := prepared
      exact (lodged.effects effects).claimed claimed

theorem stable : Stable (Lodged start) where
  fetch after lodged running := by
    unfold fetched
    refine Lodged.changeSlot ?_ _ fun _ => ⟨rfl, rfl, fun alive => alive⟩
    exact lodged.of_slots rfl rfl rfl rfl rfl
  effect := Lodged.effect
  leap lodged leap := by
    cases leap with
    | jump => exact lodged.of_slots rfl rfl rfl rfl rfl
    | jumpIfZero => exact lodged.of_slots rfl rfl rfl rfl rfl
    | jumpIfNotZero => exact lodged.of_slots rfl rfl rfl rfl rfl
    | arm => exact lodged.of_slots rfl rfl rfl rfl rfl

theorem noted (lodged : Lodged start m) : Lodged start m.noted := by
  refine lodged.of_same rfl rfl rfl rfl ?_
  intro id slot present _
  rw [Machine.noted, changeCurrent_get?] at present
  split at present
  · obtain ⟨before, found, rfl⟩ := Option.map_eq_some_iff.mp present
    exact ⟨before, found, rfl, rfl, fun alive => alive⟩
  · exact ⟨slot, present, rfl, rfl, fun alive => alive⟩

theorem enter {id : SlotId} (lodged : Lodged start m) (done : Machine.enter id m = .ok () m') :
    Lodged start m' := by
  obtain ⟨_, _, _, _, rfl⟩ := enter_ok done
  exact lodged.noted.of_slots rfl rfl rfl rfl rfl

theorem kept : Kept 0 (Lodged start) where
  instruct := stable.instruct
  call lodged running asks enters := by
    obtain ⟨middle, before, claimed⟩ := stable.asks lodged running asks
    exact (before.claimed claimed).enter enters
  back lodged _ returned := by
    cases returned with
    | bare => exact lodged.of_slots rfl rfl rfl rfl rfl
    | stays => exact lodged.of_slots rfl rfl rfl rfl rfl
    | resumes => exact lodged.of_slots rfl rfl rfl rfl rfl
  forget lodged := lodged.of_slots rfl rfl rfl rfl rfl

/-- Skipping a cutscene leaves every slot its script. -/
theorem abortCutscene (lodged : Lodged start m) : Lodged start m.abortCutscene := by
  unfold Machine.abortCutscene
  split
  next offset owner _ _ =>
    have redirected : Lodged start
        (m.changeSlot owner fun slot =>
          { slot with
            offset := offset
            status := .running
            delay := 0
            freezeCount := 0
            cutsceneOverride := Slot.countDown slot.cutsceneOverride }) :=
      lodged.changeSlot owner fun _ => ⟨rfl, rfl, fun _ => rfl⟩
    exact redirected.of_slots rfl rfl rfl rfl rfl
  next => exact lodged

theorem begun (lodged : Lodged start m) (done : beginTick m = .ok () m') : Lodged start m' := by
  rw [beginTick_ok done]
  refine lodged.of_same rfl rfl rfl rfl ?_
  intro id slot present _
  simp only [Bank.get?_map, Option.map_map] at present
  obtain ⟨before, found, rfl⟩ := Option.map_eq_some_iff.mp present
  obtain ⟨number, location, _, dead⟩ := waitSlot_same 1 before
  exact ⟨before, found, number, location, fun alive => dead.trans alive⟩

/-- **Orders leave a game in its house.** -/
theorem lasting (Allowed : Order → Prop) : Lasting Allowed (Lodged start) where
  kept := Lodged.kept
  prepare := by
    intro m m' order call lodged _ _ prepares
    by_cases abort : order = .abortCutscene
    · subst abort
      obtain ⟨_, aborted⟩ := alone_ok prepares
      cases aborted
      exact lodged.abortCutscene
    · exact lodged.prepared (Order.prepare_ok abort prepares)
  enter lodged _ enters := lodged.enter enters
  begins lodged begins := lodged.begun begins
  load lodged _ loads := by
    obtain ⟨_, _, _, _, rfl⟩ := loadSlotCode_ok loads
    exact lodged.of_slots rfl rfl rfl rfl rfl
  walk _ _ lodged := lodged.of_slots rfl rfl rfl rfl rfl

end Lodged

/-! ## Games that have just been built -/

/-- Driving an actor never fails but by a fault. -/
theorem driveActor_error {number : UInt8} {drive : Stage → Walk Unit} {halt : Halt}
    (failed : Run.driveActor number drive m = .error halt m') : ∃ fault, halt = .fault fault := by
  simp only [Run.driveActor, Run.withActor, Run.bind_eq_error_iff, Run.get_apply] at failed
  rcases failed with (early | ⟨_, _, same, rest⟩) | ⟨_, _, _, late⟩
  · cases early
  · cases same
    cases found : m.cast.get? number with
    | none =>
        rw [found] at rest
        cases rest
    | some actor =>
        simp only [found, Run.bind_eq_error_iff, Run.ofChecked_eq_error_iff] at rest
        rcases rest with ⟨fault, _, rfl, _⟩ | ⟨_, _, _, (late | ⟨_, _, _, late⟩)⟩
        · exact ⟨fault, rfl⟩
        · cases late
        · cases late
  · cases late

theorem changeRoom_error {number : UInt8} {halt : Halt}
    (failed : changeRoom number m = .error halt m') : ∃ fault, halt = .fault fault := by
  cases known : m.rooms.get? number with
  | none =>
      simp only [changeRoom, Run.get_bind_apply, known] at failed
      cases failed
  | some loaded =>
      simp only [changeRoom, Run.get_bind_apply, known, Run.set_bind_apply] at failed
      obtain ⟨_, _, _, failed⟩ := Run.forM_error (fun _ _ => trivial) trivial failed
      exact driveActor_error failed

end Machine

namespace Scenario

open Machine (Lodged)

variable {scenario : Scenario} {source : FileSource} {directory : String} {rules : Rules}

/-- Before its first room is entered, a game is at rest and runs nothing, and it has this room. -/
theorem assemble_ok {m : Machine} (assembled : scenario.assemble source directory rules = .ok m) :
    m.current = none ∧ m.slots = .empty ∧
      ∃ loaded, m.rooms.get? scenario.startRoom = some loaded := by
  obtain ⟨library, _, assembled⟩ := Assembler.bind_eq_ok assembled
  obtain ⟨rooms, _, assembled⟩ := Assembler.bind_eq_ok assembled
  split at assembled
  next known =>
    obtain ⟨cast, _, assembled⟩ := Assembler.bind_eq_ok assembled
    cases assembled
    exact ⟨rfl, rfl, Option.isSome_iff_exists.mp known⟩
  next => cases assembled

/-- Building enters the first room of the game. -/
theorem build_ok {start : Machine} (built : scenario.build source directory rules = .ok start) :
    ∃ m loaded cast events, scenario.assemble source directory rules = .ok m ∧
      m.rooms.get? scenario.startRoom = some loaded ∧ start.current = none ∧
      start =
        { m.stopRoomScripts with
          room := { loaded.geometry with number := scenario.startRoom }
          library := { m.library with room := loaded.code }
          cast := cast
          events := events } := by
  obtain ⟨m, assembled, built⟩ := Assembler.bind_eq_ok built
  obtain ⟨rest, _, loaded, known⟩ := assemble_ok assembled
  split at built
  next m' entered =>
    cases built
    have still := Machine.Effects.current_none (Machine.changeRoom_ok entered) rest
    obtain ⟨cast, events, same⟩ := Machine.changeRoom_known known entered
    exact ⟨m, loaded, cast, events, assembled, known, still, same⟩
  next => cases built
  next failed =>
    obtain ⟨_, same⟩ := Machine.changeRoom_error failed
    cases same

/-- In a game that has been built no script runs yet. -/
theorem build_slots {start : Machine} (built : scenario.build source directory rules = .ok start)
    {id : SlotId} {slot : Slot} (present : start.slots.get? id = some slot) :
    slot = .empty := by
  obtain ⟨m, loaded, cast, events, assembled, _, _, rfl⟩ := build_ok built
  obtain ⟨_, empty, _⟩ := assemble_ok assembled
  change m.stopRoomScripts.slots.get? id = some slot at present
  rw [Machine.stopRoomScripts, Machine.stopWhere_get?, empty] at present
  obtain ⟨before, found, rfl⟩ := Option.map_eq_some_iff.mp present
  cases List.eq_of_mem_replicate (List.mem_of_getElem? found)
  rfl

/-- **A game that has been built is at rest, in one of its rooms.** -/
theorem build_lodged {start : Machine} (built : scenario.build source directory rules = .ok start) :
    Lodged start start ∧ start.current = none := by
  have slots := @build_slots _ _ _ _ _ built
  obtain ⟨m, loaded, cast, events, _, known, still, rfl⟩ := build_ok built
  refine ⟨⟨rfl, rfl, rfl, ⟨loaded, known, rfl, .refl _⟩, ?_⟩, still⟩
  intro id slot present real
  rw [slots present] at real
  exact absurd rfl real

end Scenario

end Adventure
