import Adventure.Proofs.Machine.Failure
import Adventure.Proofs.Machine.Sited

/-!
# Assembled code is read in step

A machine reads code byte by byte and knows nothing of where instructions begin.  When all
code comes from the assembler, it still begins every instruction at a boundary of the
program: instructions are read back as they were written, jumps lead to labels, and
every offset that a slot remembers is one at which an instruction ended or will be tried
again.

`InStep` is the invariant.  Effects keep it together with the offset of the instruction
that is being performed (`Poised`), and leaps keep it because the program is closed.
-/

set_option autoImplicit false

namespace Adventure

/-! ## Assembled libraries -/

/-- Code and labels that the assembler has written, with overrides armed in front of jumps. -/
def Assembler.Wrote (code : Code) (labels : Labels) : Prop :=
  ∃ source, assemble source = .ok ⟨code, labels⟩ ∧ OverridesJump source

/-- All code of the library comes from the assembler, and verbs start at labels. -/
structure Library.Assembled (library : Library) : Prop where
  scripts : ∀ {number location code}, location.isScript = true →
    library.code? number location = some code → ∃ labels, Assembler.Wrote code labels
  objects : ∀ {number location object}, library.object? number location = some object →
    ∃ labels, Assembler.Wrote object.code labels ∧
      ∀ verb offset, (verb, offset) ∈ object.verbs → ∃ name, labels.lookup name = some offset

/-- A boundary of code whose program is closed. -/
def Code.OnTrack (code : Code) (place : Nat) : Prop :=
  ∃ program : Program, program.Closed ∧ program.code = code ∧ program.Boundary place

/-- The code comes from the assembler, and the place is a boundary of every text it can come
from. -/
def Code.AtBoundary (code : Code) (place : Nat) : Prop :=
  (∃ labels, Assembler.Wrote code labels) ∧
    ∀ source instructions labels, Assembler.program source = .ok (instructions, labels) →
      Program.code instructions = code → Program.Boundary instructions place

theorem Code.OnTrack.atBoundary {code : Code} {place : Nat} (onTrack : code.OnTrack place)
    (written : ∃ labels, Assembler.Wrote code labels) : code.AtBoundary place := by
  refine ⟨written, ?_⟩
  intro source instructions labels read same
  obtain ⟨program, closed, same', boundary⟩ := onTrack
  cases Program.code_injective closed.fits (Assembler.program_fits read) (same'.trans same.symm)
  exact boundary

theorem Assembler.assemble_ok {source : String} {code : Code} {labels : Labels}
    (assembled : assemble source = .ok ⟨code, labels⟩) :
    ∃ instructions, program source = .ok (instructions, labels) ∧
      Program.code instructions = code := by
  obtain ⟨⟨instructions, found⟩, read, ended⟩ := bind_eq_ok assembled
  cases ended
  exact ⟨instructions, read, rfl⟩

theorem Assembler.Wrote.closed {code : Code} {labels : Labels} (wrote : Wrote code labels) :
    ∃ program : Program, program.Closed ∧ program.code = code ∧
      ∀ name offset, labels.lookup name = some offset → program.Boundary offset := by
  obtain ⟨source, assembled, overrides⟩ := wrote
  obtain ⟨instructions, read, same⟩ := assemble_ok assembled
  exact ⟨instructions, program_closed read overrides, same, fun _ _ => program_label read⟩

theorem ObjectCode.verbOffset?_mem {object : ObjectCode} {verb : UInt8} {offset : Nat}
    (found : object.verbOffset? verb = some offset) : ∃ known, (known, offset) ∈ object.verbs := by
  unfold verbOffset? at found
  split at found
  next place known =>
    cases found
    exact ⟨verb, Assembler.mem_of_lookup known⟩
  next => exact ⟨defaultVerb, Assembler.mem_of_lookup found⟩

theorem Library.Assembled.code {library : Library} (assembled : library.Assembled)
    {number : UInt16} {location : ScriptLocation} {code : Code}
    (known : library.code? number location = some code) :
    ∃ labels, Assembler.Wrote code labels := by
  have object : ∀ {location}, (library.object? number location).map (·.code) = some code →
      ∃ labels, Assembler.Wrote code labels := by
    intro location known
    obtain ⟨object, found, rfl⟩ := Option.map_eq_some_iff.mp known
    obtain ⟨labels, wrote, _⟩ := assembled.objects found
    exact ⟨labels, wrote⟩
  cases location with
  | global => exact assembled.scripts rfl known
  | local_ => exact assembled.scripts rfl known
  | room => exact object known
  | inventory => exact object known
  | floatingObject => exact object known

/-- A script is started at a boundary of its code. -/
theorem Library.Assembled.entry {library : Library} (assembled : library.Assembled)
    {number : UInt16} {location : ScriptLocation} {offset : Nat} {code : Code}
    (entry : library.Entry number location offset)
    (known : library.code? number location = some code) : code.OnTrack offset := by
  rcases entry with ⟨script, _, rfl⟩ | ⟨object, verb, found, placed⟩
  · obtain ⟨labels, wrote⟩ := assembled.scripts script known
    obtain ⟨program, closed, same, _⟩ := wrote.closed
    exact ⟨program, closed, same, program.boundary_zero⟩
  · obtain ⟨labels, wrote, verbs⟩ := assembled.objects found
    obtain ⟨program, closed, same, bounds⟩ := wrote.closed
    obtain ⟨verb', member⟩ := ObjectCode.verbOffset?_mem placed
    obtain ⟨name, defined⟩ := verbs verb' offset member
    have own : object.code = code := by
      cases location with
      | global => cases found
      | local_ => cases found
      | _ => simpa [code?, found] using known
    exact ⟨program, closed, same.trans own, bounds name offset defined⟩

namespace Machine

variable {m m' : Machine}

/-! ## What effects leave alone -/

/-- A script that is alive after an effect was alive before, with the same code.  It goes on
where it would have gone on, or it has just given up control. -/
theorem Effect.goesOn (effect : Effect m m') (sited : Sited m) {id : SlotId} {slot : Slot}
    (present : m'.slots.get? id = some slot) (alive : slot.isDead = false) :
    ∃ before, m.slots.get? id = some before ∧ before.isDead = false ∧
      Onward m m' id before slot := by
  obtain ⟨before, found, rfl | onward⟩ := effect.slot present
  · cases alive
  refine ⟨before, found, ?_, onward⟩
  rcases onward.alive with same | ⟨running, _⟩
  · exact same.symm.trans alive
  · obtain ⟨before', found', alive', _⟩ := sited id running
    cases found.symm.trans found'
    exact alive'

/-- A script that still executes reads the same code at the same place. -/
theorem Effect.reading (effect : Effect m m') {id : SlotId} (running : m'.current = some id) :
    m.current = some id ∧ m'.code = m.code ∧ m'.pc = m.pc ∧ m'.opStart = m.opStart := by
  cases effect with
  | yield => cases running
  | finish =>
      obtain ⟨events, same⟩ := stopCurrent_eq m
      rw [same] at running
      cases running
  | stop => exact ⟨(stopWhere_current running).1, rfl, rfl, rfl⟩
  | enterRoom =>
      change m.stopRoomScripts.current = some id at running
      exact ⟨(stopWhere_current running).1, rfl, rfl, rfl⟩
  | _ => exact ⟨running, rfl, rfl, rfl⟩

/-! ## The invariant -/

/-- All offsets that the machine goes on from are boundaries of assembled code. -/
structure InStep (m : Machine) : Prop where
  library : m.library.Assembled
  rooms : ∀ {number loaded}, m.rooms.get? number = some loaded →
    { m.library with room := loaded.code }.Assembled
  slots : ∀ {id slot code}, m.slots.get? id = some slot → slot.isDead = false →
    m.library.code? slot.number slot.location = some code → code.OnTrack slot.offset
  sited : Sited m
  pc : ∀ {id}, m.current = some id → m.code.OnTrack m.pc

/-- In step, also at the front of the instruction that is being performed. -/
def Poised (m : Machine) : Prop :=
  InStep m ∧ ∀ {id}, m.current = some id → m.code.OnTrack m.opStart

namespace Poised

theorem effect (poised : Poised m) (effect : Effect m m') : Poised m' := by
  obtain ⟨inStep, front⟩ := poised
  refine ⟨⟨?_, ?_, ?_, inStep.sited.effect effect, ?_⟩, ?_⟩
  · rcases effect.place with ⟨same, _⟩ | ⟨number, loaded, known, same, _⟩
    · rw [same]
      exact inStep.library
    · rw [same]
      exact inStep.rooms known
  · intro number loaded known
    rw [effect.fixed.2] at known
    rcases effect.place with ⟨same, _⟩ | ⟨_, _, _, same, _⟩
    · rw [same]
      exact inStep.rooms known
    · rw [same]
      exact inStep.rooms known
  · intro id slot code present alive known
    obtain ⟨before, found, alive', onward⟩ := effect.goesOn inStep.sited present alive
    rw [onward.number, onward.location, onward.code alive'] at known
    rcases onward.offset with same | ⟨running, same⟩
    · rw [same]
      exact inStep.slots found alive' known
    · -- the script has given up control: its code is the one that was read
      obtain ⟨slot', found', _, own⟩ := inStep.sited id running
      cases found.symm.trans found'
      cases known.symm.trans own
      rcases same with same | same
      · rw [same]
        exact inStep.pc running
      · rw [same]
        exact front running
  · intro id running
    obtain ⟨running, code, pc, _⟩ := effect.reading running
    rw [code, pc]
    exact inStep.pc running
  · intro id running
    obtain ⟨running, code, _, opStart⟩ := effect.reading running
    rw [code, opStart]
    exact front running

theorem effects (poised : Poised m) (effects : Effects m m') : Poised m' := by
  induction effects with
  | refl => exact poised
  | tail _ effect ih => exact ih.effect effect

theorem of_rest (inStep : InStep m) (rest : m.current = none) : Poised m := by
  refine ⟨inStep, ?_⟩
  intro id running
  cases rest.symm.trans running

end Poised

namespace InStep

theorem claimed {id : SlotId} (inStep : InStep m) (claimed : Claimed m id m') : InStep m' := by
  refine ⟨?_, ?_, ?_, inStep.sited.claimed claimed, ?_⟩
  · rw [claimed.library]
    exact inStep.library
  · rw [claimed.library]
    cases claimed
    exact inStep.rooms
  · intro other slot code present alive known
    by_cases same : id = other
    · subst same
      cases claimed with
      | intro number location offset freezeResistant recursive args event free real entry =>
          simp only [changeSlot, logged, Bank.get?_modify, if_true] at present
          obtain ⟨_, _, rfl⟩ := Option.map_eq_some_iff.mp present
          exact inStep.library.entry entry known
    · rw [claimed.other same] at present
      rw [claimed.library] at known
      exact inStep.slots present alive known
  · rw [claimed.current, claimed.code]
    cases claimed
    exact inStep.pc

theorem noted (inStep : InStep m) : InStep m.noted := by
  refine ⟨inStep.library, inStep.rooms, ?_, ?_, inStep.pc⟩
  · intro id slot code present alive known
    rw [Machine.noted, changeCurrent_get?] at present
    split at present
    next running =>
      obtain ⟨before, found, rfl⟩ := Option.map_eq_some_iff.mp present
      obtain ⟨slot', found', _, own⟩ := inStep.sited id running
      cases found.symm.trans found'
      cases known.symm.trans own
      exact inStep.pc running
    next => exact inStep.slots present alive known
  · intro id running
    change m.current = some id at running
    obtain ⟨slot, present, alive, own⟩ := inStep.sited id running
    refine ⟨{ slot with offset := m.pc }, ?_, alive, own⟩
    rw [Machine.noted, changeCurrent_get?, if_pos running, present]
    rfl

/-- A live slot whose code is loaded executes in step. -/
theorem load (inStep : InStep m) {id : SlotId} {slot : Slot} {code : Code}
    (present : m.slots.get? id = some slot) (alive : slot.isDead = false)
    (known : m.library.code? slot.number slot.location = some code) (calls : CallStack) :
    InStep { m with calls := calls, current := some id, code := code, pc := slot.offset } := by
  refine ⟨inStep.library, inStep.rooms, inStep.slots, ?_, ?_⟩
  · intro other running
    cases running
    exact ⟨slot, present, alive, known⟩
  · intro _ _
    exact inStep.slots present alive known

theorem idle (inStep : InStep m) (calls : CallStack) :
    InStep { m with calls := calls, current := none } := by
  refine ⟨inStep.library, inStep.rooms, inStep.slots, .of_rest rfl, ?_⟩
  intro _ running
  cases running

theorem enter {id : SlotId} (inStep : InStep m)
    (live : ∃ slot, m.slots.get? id = some slot ∧ slot.isDead = false)
    (done : Machine.enter id m = .ok () m') : InStep m' := by
  have sited := Sited.enter live done
  obtain ⟨slot, code, present, known, rfl⟩ := enter_ok done
  obtain ⟨slot', present', alive, _⟩ := sited id rfl
  cases present.symm.trans present'
  exact inStep.noted.load present alive known _

theorem returned (inStep : InStep m) (returned : Returned m m') : InStep m' := by
  cases returned with
  | bare => exact inStep.idle _
  | stays => exact inStep.idle _
  | resumes frame outer open_ caller slot code real waits present number location alive free
      known => exact inStep.load present alive known _

/-- The machine goes on from another boundary of the same code. -/
theorem move (inStep : InStep m) {place : Nat} (onTrack : m.code.OnTrack place)
    (cutscenes : CutsceneStack) (overrideActive : Bool) :
    InStep { m with cutscenes := cutscenes, pc := place, overrideActive := overrideActive } :=
  ⟨inStep.library, inStep.rooms, inStep.slots,
    inStep.sited.of_same rfl (fun _ _ => rfl) rfl rfl, fun _ => onTrack⟩

theorem fetched (inStep : InStep m) {id : SlotId} (running : m.current = some id) {after : Nat}
    (onTrack : m.code.OnTrack after) : Poised (m.fetched id after) := by
  refine ⟨⟨inStep.library, inStep.rooms, ?_, Sited.stable.fetch after inStep.sited running,
    fun _ => onTrack⟩, fun _ => inStep.pc running⟩
  intro other slot code present alive known
  simp only [Machine.fetched, changeSlot, Bank.get?_modify] at present
  split at present
  · obtain ⟨before, found, rfl⟩ := Option.map_eq_some_iff.mp present
    have place : code.OnTrack before.offset := inStep.slots found alive known
    exact place
  · exact inStep.slots present alive known

/-- **What is fetched**: at the end of the code nothing, and everywhere else an instruction of the
program, as it was written. -/
theorem fetch (inStep : InStep m) {id : SlotId} (running : m.current = some id) :
    m.pc = m.code.length ∨
      ∃ (program : Program) (index : Nat) (instruction : Instruction),
        program.Closed ∧ program.code = m.code ∧ program[index]? = some instruction ∧
        m.code[m.pc]? = some instruction.operation.code ∧
        m.code.operands instruction.operation.shape (m.pc + 1) =
          .ok (instruction.operands, program.offset (index + 1)) ∧
        Poised (m.fetched id (program.offset (index + 1))) := by
  obtain ⟨program, closed, same, boundary⟩ := inStep.pc running
  rcases boundary.read closed.fits with last | ⟨index, instruction, found, _, opcode, operands⟩
  · exact .inl (last.trans (by rw [same]))
  · rw [same] at opcode operands
    refine .inr ⟨program, index, instruction, closed, same, found, opcode, operands, ?_⟩
    obtain ⟨inside, _⟩ := List.getElem?_eq_some_iff.mp found
    exact inStep.fetched running ⟨program, closed, same, index + 1, inside, rfl⟩

/-- A jump of a closed program leads to a boundary. -/
theorem jump (inStep : InStep m) {program : Program} {index : Nat} {instruction : Instruction}
    {distance : Int} (closed : program.Closed) (same : program.code = m.code)
    (found : program[index]? = some instruction)
    (jumps : instruction.distance? = some distance) (pc : m.pc = program.offset (index + 1)) :
    0 ≤ (m.pc : Int) + distance ∧ InStep { m with pc := (m.pc + distance).toNat } := by
  obtain ⟨place, boundary, far⟩ := closed.jumps found jumps
  rw [← pc] at far
  rw [far]
  exact ⟨Int.natCast_nonneg place,
    inStep.move ⟨program, closed, same, boundary⟩ m.cutscenes m.overrideActive⟩

/-- The jump behind an armed override is three bytes long, and it is skipped to a boundary. -/
theorem override {program : Program} {index : Nat} {instruction : Instruction}
    (closed : program.Closed) (found : program[index]? = some instruction)
    (arms : instruction.operation = .beginOverride) :
    program.Boundary (program.offset (index + 1) + 3) ∧
      program.offset (index + 1) + 3 ≤ program.code.length := by
  obtain ⟨next, follows, jumps⟩ := closed.overrides found arms
  have size : next.size = 3 := by
    obtain ⟨operation, operands⟩ := next
    cases jumps
    rfl
  have place := Program.offset_succ follows
  rw [size] at place
  obtain ⟨inside, _⟩ := List.getElem?_eq_some_iff.mp follows
  refine ⟨⟨index + 2, inside, place⟩, ?_⟩
  have present := (Program.holds follows).length_le
  change _ + next.size ≤ _ at present
  omega

theorem leap (inStep : InStep m) {program : Program} {index : Nat} {operation : Operation}
    {operands : Operands operation.shape} (closed : program.Closed) (same : program.code = m.code)
    (found : program[index]? = some ⟨operation, operands⟩)
    (pc : m.pc = program.offset (index + 1)) (leap : Leap operation operands m m') :
    InStep m' := by
  cases leap with
  | jump => exact (inStep.jump closed same found rfl pc).2
  | jumpIfZero => exact (inStep.jump closed same found rfl pc).2
  | jumpIfNotZero => exact (inStep.jump closed same found rfl pc).2
  | arm _ _ overrideActive =>
      refine inStep.move ⟨program, closed, same, ?_⟩ _ overrideActive
      rw [pc]
      exact (override closed found rfl).1

/-- An instruction in step: it leaps, or it is a chain of effects and perhaps a claim. -/
theorem instructed (inStep : InStep m) {id : SlotId} (running : m.current = some id)
    {call : Option Call} (done : instruct id m = .ok call m') : InStep m' := by
  obtain ⟨opcode, operation, operands, after, here, known, read, performed⟩ := instruct_ok done
  rcases inStep.fetch running with last | ⟨program, index, instruction, closed, same, found,
    opcode', read', poised⟩
  · rw [last, List.getElem?_eq_none (Nat.le_refl _)] at here
    cases here
  cases here.symm.trans opcode'
  rw [Operation.ofCode?_code] at known
  cases known
  cases read.symm.trans read'
  rcases perform_ok performed with ⟨_, leap⟩ | prepared
  · exact poised.1.leap closed same found rfl leap
  · cases call with
    | none => exact (poised.effects prepared).1
    | some call =>
        obtain ⟨middle, effects, claimed⟩ := prepared
        exact (poised.effects effects).1.claimed claimed

theorem kept : Kept 0 InStep where
  instruct inStep running done := inStep.instructed running done
  call := by
    intro m asked entered id call inStep running asks enters
    obtain ⟨_, middle, _, claimed⟩ := instruct_asks asks
    exact (inStep.instructed running asks).enter claimed.slot.2 enters
  back inStep _ returned := inStep.returned returned
  forget inStep := ⟨inStep.library, inStep.rooms, inStep.slots,
    inStep.sited.of_same rfl (fun _ _ => rfl) rfl rfl, inStep.pc⟩

/-! ## Orders -/

/-- The slot that an order or a script asks to call can be entered in step. -/
theorem prepared (inStep : InStep m) (rest : m.current = none) {order : Order}
    (real : order ≠ .abortCutscene) {call : Option Call} (done : order.prepare m = .ok call m') :
    InStep m' := by
  have poised := Poised.of_rest inStep rest
  have effects := Order.prepare_ok real done
  cases call with
  | none => exact (poised.effects effects).1
  | some call =>
      obtain ⟨middle, effects, claimed⟩ := effects
      exact (poised.effects effects).1.claimed claimed

theorem begun (inStep : InStep m) (done : beginTick m = .ok () m') : InStep m' := by
  rw [beginTick_ok done]
  refine ⟨inStep.library, inStep.rooms, ?_, .of_rest rfl, ?_⟩
  · intro id slot code present alive known
    simp only [Bank.get?_map, Option.map_map] at present
    obtain ⟨before, found, rfl⟩ := Option.map_eq_some_iff.mp present
    obtain ⟨number, location, offset, dead⟩ := waitSlot_same 1 before
    have place : code.OnTrack before.offset := by
      refine inStep.slots found (dead.symm.trans alive) ?_
      rw [← number, ← location]
      exact known
    rw [← offset] at place
    exact place
  · intro _ running
    cases running

/-- A slot that is ready can be loaded in step. -/
theorem ready (inStep : InStep m) {id : SlotId} (ready : m.isReady id = true)
    (loads : loadSlotCode id { m with current := some id } = .ok () m') : InStep m' := by
  obtain ⟨slot, present, alive⟩ := isReady_alive ready
  obtain ⟨slot', code, present', known, rfl⟩ := loadSlotCode_ok loads
  cases present.symm.trans present'
  exact inStep.load present alive known m.calls

/-- **Orders keep the machine in step.** -/
theorem lasting : Lasting (· ≠ .abortCutscene) InStep where
  kept := InStep.kept
  prepare inStep rest real prepares := inStep.prepared rest real prepares
  enter inStep live enters := inStep.enter live enters
  begins inStep begins := inStep.begun begins
  load inStep ready loads := inStep.ready ready loads
  walk _ _ inStep := ⟨inStep.library, inStep.rooms, inStep.slots,
    inStep.sited.of_same rfl (fun _ _ => rfl) rfl rfl, inStep.pc⟩

end InStep

/-! ## Failures -/

/-- How assembled code can fail from being read: only by running past its end. -/
structure Orderly (halt : Halt) (m : Machine) : Prop where
  opcode : ∀ opcode script offset, halt ≠ .failed (.unknownOpcode opcode script offset)
  jump : ∀ script target, halt ≠ .failed (.invalidJump script target)
  overrun : ∀ script offset, halt = .failed (.codeOverrun script offset) →
    offset = m.code.length ∧ ∃ id slot, m.current = some id ∧ m.slots.get? id = some slot ∧
      slot.number = script ∧ m.library.code? slot.number slot.location = some m.code

namespace Orderly

variable {halt : Halt}

theorem of_tame (tame : halt.isLost = false) : Orderly halt m := by
  refine ⟨?_, ?_, ?_⟩
  · rintro opcode script offset rfl
    cases tame
  · rintro script target rfl
    cases tame
  · rintro script offset rfl
    cases tame

theorem forgetOpener (orderly : Orderly halt m) : Orderly halt m.forgetOpener :=
  ⟨orderly.opcode, orderly.jump, orderly.overrun⟩

/-- An instruction in step fails orderly. -/
theorem instruct (inStep : InStep m) {id : SlotId} (running : m.current = some id)
    (failed : Machine.instruct id m = .error halt m') : Orderly halt m' := by
  rcases instruct_error failed with ⟨none, rfl, rfl⟩ | ⟨opcode, here, performs⟩
  · rcases inStep.fetch running with last | ⟨_, _, _, _, _, _, here, _⟩
    · refine ⟨by simp, by simp, ?_⟩
      intro script offset same
      cases same
      obtain ⟨slot, present, _, own⟩ := inStep.sited id running
      refine ⟨last, id, slot, running, present, ?_, own⟩
      simp [currentNumber, currentSlot?, running, present]
    · cases none.symm.trans here
  · rcases inStep.fetch running with last | ⟨program, index, instruction, closed, same, found,
      here', read, poised⟩
    · rw [last, List.getElem?_eq_none (Nat.le_refl _)] at here
      cases here
    cases here.symm.trans here'
    rcases perform_error (performs _ _ _ (Operation.ofCode?_code _) read) with tame |
      ⟨distance, jumps, before⟩ | ⟨arms, short⟩
    · exact .of_tame tame
    · obtain ⟨inside, _⟩ := poised.1.jump closed same found jumps rfl
      omega
    · have present := (InStep.override closed found arms).2
      rw [same] at present
      change m.code.length < program.offset (index + 1) + 3 at short
      omega

/-- An execution in step fails orderly. -/
theorem execute {fuel : Nat} (inStep : InStep m)
    (failed : Machine.execute fuel m = .error halt m') : Orderly halt m' := by
  induction fuel generalizing m m' with
  | zero =>
      cases failed
      exact .of_tame rfl
  | succ fuel ih =>
      obtain ⟨id, running, first | ⟨next, first, later⟩⟩ := execute_error failed
      · rcases Run.bind_eq_error_iff.mp first with early | ⟨call, asked, instructed, failed⟩
        · exact instruct inStep running early
        cases call with
        | none => cases failed
        | some call =>
            obtain ⟨_, middle, _, claimed⟩ := instruct_asks instructed
            obtain ⟨reached, same, tame | ⟨entered, enters, ran⟩⟩ := answer_error failed
            · exact .of_tame tame
            · have inside := (inStep.instructed running instructed).enter claimed.slot.2 enters
              rcases same with rfl | rfl
              · exact ih inside ran
              · exact (ih inside ran).forgetOpener
      · exact ih (InStep.kept.step InStep.kept.execute inStep (Nat.zero_le _) running first).1 later

/-- **An order in step fails orderly.** -/
theorem carryOut (inStep : InStep m) (rest : m.current = none) {order : Order}
    (real : order ≠ .abortCutscene) {fuel : Nat}
    (failed : order.carryOut fuel m = .error halt m') : Orderly halt m' := by
  by_cases tick : order = .tick
  · subst tick
    rcases runTick_error failed with tame | ⟨begun, first, failed⟩
    · exact .of_tame tame
    obtain ⟨id, before, inStep, failed⟩ :=
      Run.forM_error InStep.lasting.turn (inStep.begun first) failed
    rcases takeTurn_error failed with tame | ⟨loaded, ready, loads, ran⟩
    · exact .of_tame tame
    · exact execute (inStep.ready ready loads) ran
  · rw [Order.carryOut_eq fuel tick] at failed
    rcases Run.bind_eq_error_iff.mp failed with early | ⟨call, asked, prepares, failed⟩
    · exact .of_tame (order.tame_prepare _ _ _ early)
    cases call with
    | none => cases failed
    | some call =>
        obtain ⟨middle, _, claimed⟩ := Order.prepare_asks prepares
        obtain ⟨reached, same, tame | ⟨entered, enters, ran⟩⟩ := answer_error failed
        · exact .of_tame tame
        · have inside := (inStep.prepared rest real prepares).enter claimed.slot.2 enters
          rcases same with rfl | rfl
          · exact execute inside ran
          · exact (execute inside ran).forgetOpener

end Orderly

/-! ## Whole games -/

/-- A machine at rest on which no script is alive, with nothing but assembled code. -/
structure Fresh (m : Machine) : Prop where
  rest : m.current = none
  dead : ∀ {id slot}, m.slots.get? id = some slot → slot.isDead = true
  library : m.library.Assembled
  rooms : ∀ {number loaded}, m.rooms.get? number = some loaded →
    { m.library with room := loaded.code }.Assembled

theorem Fresh.inStep (fresh : Fresh m) : InStep m := by
  refine ⟨fresh.library, fresh.rooms, ?_, .of_rest fresh.rest, ?_⟩
  · intro id slot code present alive
    cases (fresh.dead present).symm.trans alive
  · intro id running
    cases fresh.rest.symm.trans running

/-- A machine that has just been set up is fresh when all its code is assembled. -/
theorem boot_fresh {rules : Rules} {library : Library} {rooms : Keyed UInt8 LoadedRoom}
    (assembled : library.Assembled)
    (entered : ∀ {number loaded}, rooms.get? number = some loaded →
      { library with room := loaded.code }.Assembled) : Fresh (boot rules library rooms) := by
  refine ⟨rfl, ?_, assembled, entered⟩
  intro id slot present
  cases List.eq_of_mem_replicate (List.mem_of_getElem? present)
  rfl

/-- **Assembled code is read in step.**  In a game that begins with nothing but assembled code,
every instruction is fetched at a boundary of its script's program, and no order fails from
reading code except at the end of it. -/
theorem assembled_code_in_step {start : Machine} (fresh : Fresh start)
    (played : Played (· ≠ .abortCutscene) start m) {order : Order}
    (real : order ≠ .abortCutscene) (fuel : Nat) :
    (∀ moment id, Moment fuel m order moment → moment.current = some id →
      ∃ slot, moment.slots.get? id = some slot ∧
        moment.library.code? slot.number slot.location = some moment.code ∧
        moment.code.AtBoundary moment.pc) ∧
    ∀ halt m', order.carryOut fuel m = .error halt m' → Orderly halt m' := by
  have inStep := InStep.lasting.played fresh.inStep fresh.rest played
  have rest := played.rest fresh.rest
  refine ⟨?_, fun _ _ => Orderly.carryOut inStep rest real⟩
  intro moment id during running
  have here := InStep.lasting.moment inStep rest real during
  obtain ⟨slot, present, _, own⟩ := here.sited id running
  exact ⟨slot, present, own, (here.pc running).atBoundary (here.library.code own)⟩

/-- A script that can be skipped: its override is armed in front of the jump out of its loop. -/
def skippable : String := "begin-override\njump out\nagain: break\njump again\nout: end"

/-- A game with that script. -/
def skippableGame : Machine :=
  .boot .standard ⟨[(1, [0x0E, 0x03, 4, 0, 0x01, 0x03, 0xFC, 0xFF, 0x00])], [], [], .empty⟩ []

theorem skippable_program : Assembler.program skippable =
    .ok ([⟨.beginOverride, ()⟩, ⟨.jump, (4, ())⟩, ⟨.break_, ()⟩, ⟨.jump, (-4, ())⟩, ⟨.end_, ()⟩],
      [("again", 4), ("out", 8)]) :=
  rfl

theorem skippable_overridesJump : Assembler.OverridesJump skippable := by
  intro instructions labels read index instruction found arms
  cases skippable_program.symm.trans read
  match index with
  | 0 => exact ⟨_, rfl, rfl⟩
  | 1 | 2 | 3 | 4 =>
    cases found
    cases arms
  | _ + 5 => cases found

theorem skippableGame_fresh : Fresh skippableGame := by
  refine boot_fresh ⟨?_, ?_⟩ ?_
  · intro number location code script known
    cases location with
    | global =>
        change List.lookup number [(1, _)] = some code at known
        cases List.mem_singleton.mp (Assembler.mem_of_lookup known)
        exact ⟨[("again", 4), ("out", 8)], skippable, rfl, skippable_overridesJump⟩
    | local_ => cases known
    | _ => cases script
  · intro number location object found
    cases location <;> cases found
  · intro number loaded known
    cases known

theorem assembled_code_in_step_skippable : Fresh skippableGame ∧
    ∀ fuel halt m',
      (Order.startScript 1 false false []).carryOut fuel skippableGame = .error halt m' →
      Orderly halt m' :=
  ⟨skippableGame_fresh, fun fuel =>
    (assembled_code_in_step skippableGame_fresh .begin (by decide) fuel).2⟩

end Machine

end Adventure
