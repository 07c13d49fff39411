import Adventure.Proofs.Machine.Orders

/-!
# Machines that cannot be told apart

Beside the game a machine carries traces of how it got there: which slots have had their
turn in the last tick, where the last script was read, whether the routing of the room came
from a block that was cut short, and the log.  Two machines that differ in nothing else are
`Alike`.

How much of the traces counts depends on what the machines are about to do.  The marks of
turns count within a tick only.  The code that is read counts while a script executes, and
the front of an instruction counts while that instruction is performed; these are the
levels.  The logs may differ in what they held when the comparison began.
-/

set_option autoImplicit false

namespace Adventure

/-! ## Rooms -/

/-- The room with another note on how its routing was read. -/
def Room.withTruncated (room : Room) (truncated : Bool) : Room :=
  { room with matrix := { room.matrix with truncated := truncated } }

namespace Room

variable (room : Room) (truncated : Bool)

theorem setBoxFlags_withTruncated (id : BoxId) (value : UInt16) :
    (room.withTruncated truncated).setBoxFlags id value =
      (room.setBoxFlags id value).withTruncated truncated := by
  unfold setBoxFlags
  split <;> rfl

theorem setRamp_withTruncated (slot : UInt8) (ramp : ScaleRamp) :
    (room.withTruncated truncated).setRamp slot ramp =
      (room.setRamp slot ramp).withTruncated truncated := by
  unfold setRamp
  split <;> rfl

theorem nextBox_withTruncated (source target : Option BoxId) :
    (room.withTruncated truncated).nextBox source target = room.nextBox source target := by
  cases source with
  | none => cases target <;> rfl
  | some => cases target <;> rfl

end Room

/-- A stage whose room has another note on how its routing was read. -/
def Stage.withTruncated (stage : Stage) (truncated : Bool) : Stage :=
  { stage with room := stage.room.withTruncated truncated }

namespace Stage

variable (stage : Stage) (truncated : Bool) (fuel : Nat)

theorem routeOnce_withTruncated :
    (stage.withTruncated truncated).routeOnce = stage.routeOnce := by
  unfold routeOnce
  simp only [Stage.withTruncated, Room.nextBox_withTruncated]
  rfl

theorem route_withTruncated : (stage.withTruncated truncated).route fuel = stage.route fuel := by
  induction fuel with
  | zero => rfl
  | succ fuel ih =>
      simp only [route, routeOnce_withTruncated, ih]
      rfl

theorem advance_withTruncated :
    (stage.withTruncated truncated).advance fuel = stage.advance fuel := by
  simp only [advance, proceed, startRoute, route_withTruncated]
  rfl

/-- Actors walk the same way however the routing was read. -/
theorem tickActors_withTruncated (actors : List Actor) :
    (stage.withTruncated truncated).tickActors fuel actors = stage.tickActors fuel actors := by
  induction actors with
  | nil => rfl
  | cons actor rest ih =>
      simp only [tickActors, tickActor, advance_withTruncated, ih]
      rfl

end Stage

/-! ## Slots -/

/-- A slot as it is seen when its mark of the turn counts, or when it does not. -/
def Slot.seen (turns : Bool) (slot : Slot) : Slot :=
  { slot with executed := slot.executed && turns }

namespace SlotTable

/-- The slots as they are seen. -/
def seen (turns : Bool) (slots : SlotTable) : SlotTable := slots.map (Slot.seen turns)

variable {turns : Bool} {slots other : SlotTable}

theorem get?_seen (turns : Bool) (slots : SlotTable) (id : SlotId) :
    (seen turns slots).get? id = (slots.get? id).map (Slot.seen turns) :=
  Bank.get?_map _ _ _

theorem get?_none_of_seen (same : seen turns other = seen turns slots) {id : SlotId}
    (absent : slots.get? id = none) : other.get? id = none := by
  have found := get?_seen turns other id
  rw [same, get?_seen, absent] at found
  exact Option.map_eq_none_iff.mp found.symm

theorem get?_some_of_seen (same : seen turns other = seen turns slots) {id : SlotId} {slot : Slot}
    (present : slots.get? id = some slot) :
    ∃ executed, other.get? id = some { slot with executed := executed } := by
  have found := get?_seen turns other id
  rw [same, get?_seen, present] at found
  obtain ⟨slot', present', same⟩ := Option.map_eq_some_iff.mp found.symm
  refine ⟨slot'.executed, ?_⟩
  have rest : { slot'.seen turns with executed := slot'.executed } =
      { slot.seen turns with executed := slot'.executed } := by rw [same]
  rw [present']
  exact congrArg some rest

/-- With the marks, nothing is left out. -/
theorem eq_of_seen (same : seen true other = seen true slots) : other = slots := by
  have whole (slots : SlotTable) : seen true slots = slots := by
    apply Bank.ext_get?
    intro id
    rw [get?_seen]
    cases slots.get? id with
    | none => rfl
    | some slot => simp [Slot.seen]
  rw [← whole other, same, whole]

/-- Without the marks, they are all taken off. -/
theorem seen_false (slots : SlotTable) :
    seen false slots = slots.map fun slot => { slot with executed := false } := by
  unfold seen
  congr 1
  funext slot
  simp [Slot.seen]

theorem seen_false_seen (turns : Bool) (slots : SlotTable) :
    seen false (seen turns slots) = seen false slots := by
  apply Bank.ext_get?
  intro id
  simp only [seen, Bank.get?_map, Option.map_map]
  congr 1
  funext slot
  simp [Slot.seen]

/-- What is the same with the marks is the same without them. -/
theorem seen_false_of_seen (same : seen turns other = seen turns slots) :
    seen false other = seen false slots := by
  rw [← seen_false_seen turns other, same, seen_false_seen]

section Tests

variable {test : Slot → Bool}

theorem any_of_seen (same : seen turns other = seen turns slots)
    (unmarked : ∀ slot, test (slot.seen turns) = test slot) : any other test = any slots test := by
  have apart (slots : SlotTable) : any (seen turns slots) test = any slots test := by
    simp only [any, seen, Bank.cells_map, List.any_map, Function.comp_def, unmarked]
  rw [← apart other, same, apart]

theorem all_of_seen (same : seen turns other = seen turns slots)
    (unmarked : ∀ slot, test (slot.seen turns) = test slot) :
    other.cells.all test = slots.cells.all test := by
  have apart (slots : SlotTable) : (seen turns slots).cells.all test = slots.cells.all test := by
    simp only [seen, Bank.cells_map, List.all_map, Function.comp_def, unmarked]
  rw [← apart other, same, apart]

theorem findIdx?_of_seen (same : seen turns other = seen turns slots)
    (unmarked : ∀ slot, test (slot.seen turns) = test slot) :
    other.cells.findIdx? test = slots.cells.findIdx? test := by
  have apart (slots : SlotTable) :
      (seen turns slots).cells.findIdx? test = slots.cells.findIdx? test := by
    simp only [seen, Bank.cells_map, List.findIdx?_map, Function.comp_def, unmarked]
  rw [← apart other, same, apart]

theorem findFree_of_seen (same : seen turns other = seen turns slots) :
    findFree other = findFree slots := by
  have apart (slots : SlotTable) : findFree (seen turns slots) = findFree slots := by
    simp only [findFree, seen, Bank.cells_map, List.zipIdx_map, ← List.map_drop,
      List.findSome?_map]
    rfl
  rw [← apart other, same, apart]

theorem liveWhere_of_seen {m r : Machine} (same : seen turns r.slots = seen turns m.slots)
    (unmarked : ∀ slot, test (slot.seen turns) = test slot) :
    r.liveWhere test = m.liveWhere test := by
  have apart (m : Machine) : m.liveWhere test =
      (seen turns m.slots).cells.zipIdx.filterMap fun entry =>
        if !entry.1.isDead && test entry.1 then some (entry.2, entry.1.number) else none := by
    simp only [Machine.liveWhere, seen, Bank.cells_map, List.zipIdx_map, List.filterMap_map]
    congr 1
    funext entry
    simp only [Function.comp_apply, Prod.map, unmarked]
    rfl
  rw [apart r, same, ← apart]

end Tests

section Changes

theorem seen_mapIdx {change : Nat → Slot → Slot}
    (comm : ∀ id slot, change id (slot.seen turns) = (change id slot).seen turns)
    (same : seen turns other = seen turns slots) :
    seen turns (other.mapIdx change) = seen turns (slots.mapIdx change) := by
  have apart (slots : SlotTable) :
      seen turns (slots.mapIdx change) = (seen turns slots).mapIdx change := by
    apply Bank.ext_get?
    intro id
    simp only [seen, Bank.get?_map, Bank.get?_mapIdx, Option.map_map, Function.comp_def, comm]
  rw [apart other, same, ← apart slots]

theorem seen_map {change : Slot → Slot}
    (comm : ∀ slot, change (slot.seen turns) = (change slot).seen turns)
    (same : seen turns other = seen turns slots) :
    seen turns (other.map change) = seen turns (slots.map change) := by
  have apart (slots : SlotTable) :
      seen turns (slots.map change) = (seen turns slots).map change := by
    apply Bank.ext_get?
    intro id
    simp only [seen, Bank.get?_map, Option.map_map, Function.comp_def, comm]
  rw [apart other, same, ← apart slots]

/-- A change of a slot that looks different through the marks, such as setting one. -/
theorem seen_modify_as (shown : Slot → Slot) {change : Slot → Slot} (id : SlotId)
    (comm : ∀ slot, shown (slot.seen turns) = (change slot).seen turns)
    (same : seen turns other = seen turns slots) :
    seen turns (other.modify id change) = seen turns (slots.modify id change) := by
  have apart (slots : SlotTable) :
      seen turns (slots.modify id change) = (seen turns slots).modify id shown := by
    apply Bank.ext_get?
    intro index
    simp only [seen, Bank.get?_map, Bank.get?_modify]
    split
    · simp only [Option.map_map, Function.comp_def, comm]
    · rfl
  rw [apart other, same, ← apart slots]

theorem seen_modify {change : Slot → Slot} (id : SlotId)
    (comm : ∀ slot, change (slot.seen turns) = (change slot).seen turns)
    (same : seen turns other = seen turns slots) :
    seen turns (other.modify id change) = seen turns (slots.modify id change) :=
  seen_modify_as change id comm same

theorem seen_retireBelow {test : Slot → Bool} (bound : Nat)
    (unmarked : ∀ slot, test (slot.seen turns) = test slot)
    (same : seen turns other = seen turns slots) :
    seen turns (Machine.retireBelow other bound test) =
      seen turns (Machine.retireBelow slots bound test) := by
  refine seen_mapIdx (fun id slot => ?_) same
  rw [unmarked]
  change (if (_ && !slot.isDead && _) = true then _ else _) = _
  split <;> rfl

end Changes

end SlotTable

namespace Machine

/-! ## Likeness -/

/-- The traces that a machine carries beside its game. -/
structure Guise where
  slots : SlotTable
  truncated : Bool
  code : Code
  pc : Nat
  opStart : Nat
  events : List String

/-- The machine with other traces. -/
def wearing (m : Machine) (guise : Guise) : Machine :=
  { m with
    slots := guise.slots
    room := m.room.withTruncated guise.truncated
    code := guise.code
    pc := guise.pc
    opStart := guise.opStart
    events := guise.events }

/-- What the logs of two machines held when their comparison began. -/
structure Past where
  log : List String
  other : List String

/-- Two logs to which the same events have been added. -/
def Past.SameLog (past : Past) (log other : List String) : Prop :=
  ∃ later, log = past.log ++ later ∧ other = past.other ++ later

theorem Past.SameLog.append {past : Past} {log other : List String}
    (same : past.SameLog log other) (events : List String) :
    past.SameLog (log ++ events) (other ++ events) := by
  obtain ⟨later, rfl, rfl⟩ := same
  exact ⟨later ++ events, List.append_assoc _ _ _, List.append_assoc _ _ _⟩

/-- How much of the code that is read counts. -/
inductive Level where
  /-- Nothing: no script executes, or its code is about to be looked up. -/
  | idle
  /-- The code and the place of the next instruction. -/
  | between
  /-- The front of the instruction that is performed as well. -/
  | inside

/-- The traces of reading are those of the machine, as far as they count. -/
def Guise.Reads (guise : Guise) (m : Machine) : Level → Prop
  | .idle => True
  | .between => guise.code = m.code ∧ guise.pc = m.pc
  | .inside => guise.code = m.code ∧ guise.pc = m.pc ∧ guise.opStart = m.opStart

/-- Traces that are those of the machine, as far as they count. -/
structure Fits (past : Past) (turns : Bool) (level : Level) (m : Machine) (guise : Guise) :
    Prop where
  slots : SlotTable.seen turns guise.slots = SlotTable.seen turns m.slots
  reads : guise.Reads m level
  log : past.SameLog m.events guise.events

/-- Two machines that differ in traces that do not count. -/
inductive Alike (past : Past) (turns : Bool) (level : Level) (m : Machine) : Machine → Prop where
  | intro (guise : Guise) (fits : Fits past turns level m guise) :
      Alike past turns level m (m.wearing guise)

variable {past : Past} {turns : Bool} {level : Level} {m r : Machine}

namespace Alike

theorem idle (alike : Alike past turns level m r) : Alike past turns .idle m r := by
  cases alike with
  | intro guise fits => exact .intro guise { fits with reads := trivial }

theorem between (alike : Alike past turns .inside m r) : Alike past turns .between m r := by
  cases alike with
  | intro guise fits => exact .intro guise { fits with reads := ⟨fits.reads.1, fits.reads.2.1⟩ }

/-- The least that is compared. -/
theorem faint (alike : Alike past turns level m r) : Alike past false .idle m r := by
  cases alike with
  | intro guise fits =>
      exact .intro guise ⟨SlotTable.seen_false_of_seen fits.slots, trivial, fits.log⟩

/-! ## Reading -/

theorem rules (alike : Alike past turns level m r) : r.rules = m.rules := by
  cases alike
  rfl

theorem library (alike : Alike past turns level m r) : r.library = m.library := by
  cases alike
  rfl

theorem rooms (alike : Alike past turns level m r) : r.rooms = m.rooms := by
  cases alike
  rfl

theorem calls (alike : Alike past turns level m r) : r.calls = m.calls := by
  cases alike
  rfl

theorem cutscenes (alike : Alike past turns level m r) : r.cutscenes = m.cutscenes := by
  cases alike
  rfl

theorem current (alike : Alike past turns level m r) : r.current = m.current := by
  cases alike
  rfl

theorem overrideActive (alike : Alike past turns level m r) :
    r.overrideActive = m.overrideActive := by
  cases alike
  rfl

theorem hooks (alike : Alike past turns level m r) : r.hooks = m.hooks := by
  cases alike
  rfl

theorem boxes (alike : Alike past turns level m r) : r.room.boxes = m.room.boxes := by
  cases alike
  rfl

theorem cast (alike : Alike past turns level m r) : r.cast = m.cast := by
  cases alike
  rfl

theorem place (alike : Alike past turns .between m r) : r.pc = m.pc := by
  cases alike with
  | intro guise fits => exact fits.reads.2

theorem front (alike : Alike past turns .inside m r) : r.opStart = m.opStart := by
  cases alike with
  | intro guise fits => exact fits.reads.2.2

/-- Both machines have a slot, up to its mark, or neither has it. -/
theorem slot (alike : Alike past turns level m r) (id : SlotId) :
    (m.slots.get? id = none ∧ r.slots.get? id = none) ∨
      ∃ slot executed, m.slots.get? id = some slot ∧
        r.slots.get? id = some { slot with executed := executed } := by
  cases alike with
  | intro guise fits =>
      cases present : m.slots.get? id with
      | none => exact .inl ⟨rfl, SlotTable.get?_none_of_seen fits.slots present⟩
      | some slot =>
          obtain ⟨executed, present'⟩ := SlotTable.get?_some_of_seen fits.slots present
          exact .inr ⟨slot, executed, rfl, present'⟩

theorem currentNumber (alike : Alike past turns level m r) :
    r.currentNumber = m.currentNumber := by
  unfold Machine.currentNumber currentSlot?
  rw [alike.current]
  cases m.current with
  | none => rfl
  | some id =>
      dsimp only
      rcases alike.slot id with ⟨absent, absent'⟩ | ⟨slot, executed, present, present'⟩
      · rw [absent, absent']
      · rw [present, present']

theorem localValue (alike : Alike past turns level m r) (index : Nat) :
    r.localValue index = m.localValue index := by
  unfold Machine.localValue SlotTable.local?
  rw [alike.current]
  cases m.current with
  | none => rfl
  | some id =>
      dsimp only
      rcases alike.slot id with ⟨absent, absent'⟩ | ⟨slot, executed, present, present'⟩
      · rw [absent, absent']
      · rw [present, present']
        rfl

theorem callFrame (alike : Alike past turns level m r) : r.callFrame = m.callFrame := by
  unfold Machine.callFrame
  rw [alike.current]
  cases m.current with
  | none => rfl
  | some id =>
      dsimp only
      rcases alike.slot id with ⟨absent, absent'⟩ | ⟨slot, executed, present, present'⟩
      · rw [absent, absent']
      · rw [present, present']

theorem isResumable (alike : Alike past turns level m r) (frame : CallFrame) (caller : SlotId) :
    r.isResumable frame caller = m.isResumable frame caller := by
  unfold Machine.isResumable
  rcases alike.slot caller with ⟨absent, absent'⟩ | ⟨slot, executed, present, present'⟩
  · rw [absent, absent']
  · rw [present, present']
    rfl

theorem isScriptRunning (alike : Alike past turns level m r) (number : UInt16) :
    r.isScriptRunning number = m.isScriptRunning number := by
  cases alike with
  | intro guise fits => exact SlotTable.any_of_seen fits.slots fun _ => rfl

theorem isRoomScriptRunning (alike : Alike past turns level m r) (number : UInt16) :
    r.isRoomScriptRunning number = m.isRoomScriptRunning number := by
  cases alike with
  | intro guise fits => exact SlotTable.any_of_seen fits.slots fun _ => rfl

theorem heldSlot? (alike : Alike past turns level m r) (number : UInt16)
    (family : ScriptLocation → Bool) : r.heldSlot? number family = m.heldSlot? number family := by
  unfold Machine.heldSlot?
  rw [alike.rules]
  cases alike with
  | intro guise fits =>
      change (if _ then guise.slots.cells.findIdx? _ else none) = _
      rw [SlotTable.findIdx?_of_seen fits.slots fun _ => rfl]

/-- Within a tick the same slots are ready. -/
theorem isReady (alike : Alike past true level m r) (id : SlotId) :
    r.isReady id = m.isReady id := by
  cases alike with
  | intro guise fits =>
      have same : (m.wearing guise).slots = m.slots := SlotTable.eq_of_seen fits.slots
      unfold Machine.isReady
      rw [same]

end Alike

end Machine

end Adventure
