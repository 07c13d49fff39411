import Adventure.Proofs.Machine.Nested

/-!
# Delays

A script that executes a delay is paused.  A tick first takes one off the delay of every paused
slot that is not frozen, and lets the slots run again whose delay is over; then it gives the
turns.  Freezes come and go at any moment of a tick.

To see how long a delay lasts, the steps of the game are followed from the delay on.  A step
either leaves the clock and the paused slot alone, up to its freezes (`Abides`), or it begins a
tick.  So what is ahead of the delay is known from the number of ticks that have found the slot
unfrozen (`lapses`), and that is an invariant of the whole journal (`Nested.delayed`).
-/

set_option autoImplicit false

namespace Adventure

namespace Slot

/-- What may happen to a slot without its doing: its script ends, or nothing changes but its freezes
and the mark of its turn. -/
def Abides (before after : Slot) : Prop :=
  after.isDead = true ∨
    after = { before with freezeCount := after.freezeCount, executed := after.executed }

theorem Abides.refl (slot : Slot) : slot.Abides slot := .inr rfl

theorem Abides.trans {first second third : Slot} (earlier : first.Abides second)
    (later : second.Abides third) : first.Abides third := by
  rcases later with dead | same
  · exact .inl dead
  · rcases earlier with dead | same'
    · rw [same]
      exact .inl dead
    · rw [same'] at same
      exact .inr same

end Slot

namespace Machine

variable {m m' start : Machine} {id : SlotId} {slot : Slot}

/-! ## Steps that leave the clock alone -/

/-- No tick begins, and the slot abides. -/
structure Abides (id : SlotId) (m m' : Machine) : Prop where
  tick : m'.tick = m.tick
  slot : ∀ {before : Slot}, m.slots.get? id = some before →
    ∃ after, m'.slots.get? id = some after ∧ before.Abides after

namespace Abides

theorem of_map {change : Slot → Slot} (tick : m'.tick = m.tick)
    (slots : m'.slots.get? id = (m.slots.get? id).map change)
    (abides : ∀ slot : Slot, slot.Abides (change slot)) : Abides id m m' := by
  refine ⟨tick, fun {before} present => ⟨change before, ?_, abides before⟩⟩
  rw [slots, present]
  rfl

theorem of_same (tick : m'.tick = m.tick) (slots : m'.slots.get? id = m.slots.get? id) :
    Abides id m m' :=
  ⟨tick, fun {before} present => ⟨before, slots.trans present, .refl before⟩⟩

theorem trans {middle : Machine} (earlier : Abides id m middle) (later : Abides id middle m') :
    Abides id m m' := by
  refine ⟨later.tick.trans earlier.tick, fun present => ?_⟩
  obtain ⟨between, present', first⟩ := earlier.slot present
  obtain ⟨after, present'', second⟩ := later.slot present'
  exact ⟨after, present'', first.trans second⟩

/-- A change of the slot that executes leaves another one alone. -/
theorem of_current {change : Slot → Slot} (idle : m.current ≠ some id) (tick : m'.tick = m.tick)
    (slots : m'.slots = (m.changeCurrent change).slots) : Abides id m m' :=
  .of_same tick (by rw [slots, changeCurrent_get?, if_neg idle])

theorem stopWhere (test : Slot → Bool) (waits : CallFrame → Bool) :
    Abides id m (m.stopWhere test waits) := by
  refine .of_map ?_ (stopWhere_get? m test waits id) fun slot => ?_
  · rfl
  · split
    · exact .inl rfl
    · exact .refl slot

/-- **An effect leaves the clock alone, and a slot that does not execute abides.** -/
theorem effect (idle : m.current ≠ some id) (effect : Effect m m') : Abides id m m' := by
  cases effect with
  | aside => exact .of_same rfl rfl
  | tune => exact .of_current idle rfl rfl
  | yield => exact .of_current idle rfl rfl
  | finish =>
      obtain ⟨events, same⟩ := stopCurrent_eq m
      rw [same]
      exact .of_current idle rfl rfl
  | stop test waits => exact .stopWhere test waits
  | refreeze slots kept =>
      obtain ⟨freeze, same⟩ := kept id
      exact .of_map rfl same fun _ => .inr rfl
  | enterRoom =>
      have stopped : Abides id m m.stopRoomScripts := .stopWhere _ _
      exact ⟨stopped.tick, stopped.slot⟩

theorem effects (idle : m.current ≠ some id) (effects : Effects m m') : Abides id m m' := by
  have both : Abides id m m' ∧ m'.current ≠ some id := by
    induction effects with
    | refl => exact ⟨.of_same rfl rfl, idle⟩
    | tail _ effect ih =>
        obtain ⟨before, idle'⟩ := ih
        refine ⟨before.trans (.effect idle' effect), ?_⟩
        rcases effect.current with none_ | same
        · simp [none_]
        · rwa [same]
  exact both.1

/-- A script that is started in another slot. -/
theorem prepared {claimed : Option SlotId} (idle : m.current ≠ some id)
    (other : claimed ≠ some id) (prepared : Prepared m claimed m') : Abides id m m' := by
  cases claimed with
  | none => exact .effects idle prepared
  | some callee =>
      obtain ⟨middle, effects, claims⟩ := prepared
      have distinct : callee ≠ id := fun same => other (congrArg some same)
      refine (Abides.effects idle effects).trans (.of_same ?_ (claims.other distinct))
      cases claims
      rfl

theorem leap {operation : Operation} {operands : Operands operation.shape}
    (leap : Leap operation operands m m') : Abides id m m' := by
  cases leap with
  | jump => exact .of_same rfl rfl
  | jumpIfZero => exact .of_same rfl rfl
  | jumpIfNotZero => exact .of_same rfl rfl
  | arm => exact .of_same rfl rfl

/-- An instruction of another slot. -/
theorem instruct {executing : SlotId} {call : Option Call} (idle : m.current ≠ some id)
    (running : m.current = some executing) (other : call.map (·.slot) ≠ some id)
    (done : Machine.instruct executing m = .ok call m') : Abides id m m' := by
  obtain ⟨_, _, _, after, _, _, _, performed⟩ := instruct_ok done
  have distinct : executing ≠ id := fun same => idle (same ▸ running)
  have fetched : Abides id m (m.fetched executing after) := by
    refine .of_same rfl ?_
    simp [Machine.fetched, changeSlot, Bank.get?_modify, distinct]
  have idle' : (m.fetched executing after).current ≠ some id := idle
  rcases perform_ok performed with ⟨_, leap⟩ | prepared
  · exact fetched.trans (.leap leap)
  · exact fetched.trans (.prepared idle' other prepared)

theorem enter {callee : SlotId} (idle : m.current ≠ some id)
    (done : Machine.enter callee m = .ok () m') : Abides id m m' := by
  obtain ⟨_, _, _, _, rfl⟩ := enter_ok done
  exact .of_current idle rfl rfl

theorem returned (returned : Returned m m') : Abides id m m' := by
  cases returned with
  | bare => exact .of_same rfl rfl
  | stays => exact .of_same rfl rfl
  | resumes => exact .of_same rfl rfl

/-- What a host does without running scripts, as long as it lets no delay pass. -/
theorem plain {deed : Deed} {fuel : Nat} (idle : m.current ≠ some id) (plain : deed.isPlain = true)
    (clocked : deed.isClocked = true) (done : deed.carryOut fuel m = .ok () m') :
    Abides id m m' := by
  cases deed with
  | order => cases plain
  | pass => cases plain
  | wait => cases clocked
  | stopCurrent =>
      cases done
      exact .effect idle (.finish m)
  | beginOverride => exact .leap (beginOverride_ok done)
  | endOverride =>
      cases done
      exact .of_same rfl rfl
  | arrange =>
      cases done
      exact .of_same rfl rfl

end Abides

/-- The slot that skipping the running cutscene would redirect. -/
def skipTarget? (m : Machine) : Option SlotId :=
  m.cutscenes.top.resumeOffset.bind fun _ => m.cutscenes.top.ownerSlot

/-- Skipping a cutscene redirects no other slot. -/
theorem Abides.abortCutscene (spared : m.skipTarget? ≠ some id) : Abides id m m.abortCutscene := by
  unfold Machine.abortCutscene
  split
  next offset owner resume owned =>
    have other : owner ≠ id := by
      rintro rfl
      exact spared (by simp [skipTarget?, resume, owned])
    refine .of_same rfl ?_
    change (m.slots.modify owner _).get? id = _
    rw [Bank.get?_modify, if_neg other]
  next => exact .of_same rfl rfl

theorem Abides.prepare {order : Order} {call : Option Call} (idle : m.current ≠ some id)
    (other : call.map (·.slot) ≠ some id) (spared : order.act = .skips → m.skipTarget? ≠ some id)
    (done : order.prepare m = .ok call m') : Abides id m m' := by
  by_cases abort : order = .abortCutscene
  · subst abort
    obtain ⟨_, ran⟩ := alone_ok done
    cases ran
    exact .abortCutscene (spared rfl)
  · exact .prepared idle other (Order.prepare_ok abort done)

/-! ## The count-down of a paused slot -/

/-- **What a step does to a slot that does not execute**: it abides, or a tick begins and takes part
of its delay. -/
theorem Move.abides {pending claimed : Option SlotId} {act : Act} (idle : m.current ≠ some id)
    (other : claimed ≠ some id) (spared : act = .skips → m.skipTarget? ≠ some id)
    (move : Move pending m act claimed m') :
    Abides id m m' ∨
      m'.tick = m.tick + 1 ∧
        m'.slots.get? id =
          (m.slots.get? id).map fun slot => { waitSlot 1 slot with executed := false } := by
  cases move with
  | ordered _ done => exact .inl (.prepare idle other spared done)
  | performed running _ done => exact .inl (.instruct idle running other done)
  | enter done => exact .inl (.enter idle done)
  | back returned => exact .inl (.returned returned)
  | forget => exact .inl (.of_same rfl rfl)
  | opens _ opens =>
      cases opens with
      | tick begins =>
          rw [beginTick_ok begins]
          refine .inr ⟨rfl, ?_⟩
          simp only [Bank.get?_map, Option.map_map]
          rfl
      | pass => exact .inl (.of_map rfl (Bank.get?_map _ _ _) fun _ => .inr rfl)
  | turn _ _ loads =>
      obtain ⟨_, _, _, _, rfl⟩ := loadSlotCode_ok loads
      exact .inl (.of_same rfl rfl)
  | walk => exact .inl (.of_same rfl rfl)
  | plain _ plain clocked done => exact .inl (.plain idle plain clocked done)

/-- A paused slot that is not frozen is counted down, to the end of its delay. -/
theorem waitSlot_unfrozen (slot : Slot) (paused : slot.status = .paused)
    (free : slot.freezeCount = 0) :
    waitSlot 1 slot =
      if slot.delay - 1 ≤ 0 then { slot with status := .running, delay := 0 }
      else { slot with delay := slot.delay - 1 } := by
  simp [waitSlot, isWaiting, paused, free]

theorem waitSlot_frozen (frozen : slot.freezeCount ≠ 0) : waitSlot 1 slot = slot := by
  simp [waitSlot, isWaiting, frozen]

/-- Whether the slot of a machine is not frozen. -/
def isUnfrozen (m : Machine) (id : SlotId) : Bool := (m.slots.get? id).any (·.freezeCount == 0)

/-- The ticks since a moment at whose count-down a slot is not frozen. -/
def lapses (id : SlotId) (since : Machine) : List Line → Nat
  | [] => 0
  | line :: older =>
    if line.after.tick ≠ (reached since older).tick ∧ (reached since older).isUnfrozen id = true then
      lapses id since older + 1
    else lapses id since older

/-- The script of a slot is neither ended nor replaced since a moment, and no skip of a cutscene
redirects it. -/
def Undisturbed (id : SlotId) (since : Machine) : List Line → Prop
  | [] => True
  | line :: older =>
    line.stays id = true ∧ (line.act = .skips → (reached since older).skipTarget? ≠ some id) ∧
      Undisturbed id since older

instance Undisturbed.decidable (id : SlotId) (since : Machine) :
    (lines : List Line) → Decidable (Undisturbed id since lines)
  | [] => inferInstanceAs (Decidable True)
  | line :: older =>
    have : Decidable (Undisturbed id since older) := Undisturbed.decidable id since older
    inferInstanceAs (Decidable (line.stays id = true ∧
      (line.act = .skips → (reached since older).skipTarget? ≠ some id) ∧
      Undisturbed id since older))

/-- The script of a slot waits as a delay has left it, with so much of the delay ahead.  Its freezes
and the mark of its turn may be others. -/
def Delayed (id : SlotId) (left : Slot) (ahead : Int) (m : Machine) : Prop :=
  ∃ freezeCount executed, m.slots.get? id =
    some { left with delay := ahead, freezeCount := freezeCount, executed := executed }

section Delayed

variable {left : Slot} {ahead : Int} {pending claimed : Option SlotId} {act : Act}
  {recent older past : List Line} {line : Line}

/-- A script that waits does not execute. -/
theorem Delayed.idle (delayed : Delayed id left ahead m) (awake : Awake m)
    (paused : left.status = .paused) : m.current ≠ some id := by
  intro running
  obtain ⟨_, _, present⟩ := delayed
  obtain ⟨slot, present', able⟩ := awake.active running
  cases present.symm.trans present'
  simp [Slot.isRunnable, paused] at able

/-- **What a step does to a script that waits**: its delay goes on, or a tick takes one off, and the
script is running when nothing is left. -/
theorem Delayed.move (delayed : Delayed id left ahead m) (awake : Awake m)
    (paused : left.status = .paused) (other : claimed ≠ some id) (alive : m'.isAlive id = true)
    (spared : act = .skips → m.skipTarget? ≠ some id) (move : Move pending m act claimed m') :
    ((m'.tick = m.tick ∨ m.isUnfrozen id = false) ∧ Delayed id left ahead m') ∨
      (m'.tick = m.tick + 1 ∧ m.isUnfrozen id = true) ∧
        (1 < ahead → Delayed id left (ahead - 1) m') ∧
        (ahead ≤ 1 → m'.slots.get? id =
          some { left with status := .running, delay := 0, freezeCount := 0, executed := false }) := by
  have idle := delayed.idle awake paused
  obtain ⟨freezeCount, executed, present⟩ := delayed
  rcases move.abides idle other spared with abides | ⟨ticks, counts⟩
  · obtain ⟨after, present', dead | same⟩ := abides.slot present
    · simp [isAlive, present', dead] at alive
    · refine .inl ⟨.inl abides.tick, after.freezeCount, after.executed, ?_⟩
      rw [present', same]
  · rw [present] at counts
    by_cases free : freezeCount = 0
    · subst free
      have counted := waitSlot_unfrozen
        { left with delay := ahead, freezeCount := 0, executed := executed } paused rfl
      refine .inr ⟨⟨ticks, by simp [isUnfrozen, present]⟩, fun more => ?_, fun last => ?_⟩
      · refine ⟨0, false, ?_⟩
        rw [counts, Option.map_some, counted, if_neg (by dsimp only; omega)]
      · rw [counts, Option.map_some, counted, if_pos (by dsimp only; omega)]
    · refine .inl ⟨.inr (by simp [isUnfrozen, present, free]), freezeCount, false, ?_⟩
      rw [counts, Option.map_some, waitSlot_frozen free]

/-- A line of a nested journal counts as a lapse when it takes one off the delay. -/
theorem Nested.delayed_step (idle : Idle start) (nested : Nested start (line :: older ++ past))
    (paused : left.status = .paused)
    (undisturbed : Undisturbed id (reached start past) (line :: older))
    (delayed : Delayed id left ahead (reached (reached start past) older)) :
    (lapses id (reached start past) (line :: older) = lapses id (reached start past) older ∧
        Delayed id left ahead line.after) ∨
      lapses id (reached start past) (line :: older) = lapses id (reached start past) older + 1 ∧
        (1 < ahead → Delayed id left (ahead - 1) line.after) ∧
        (ahead ≤ 1 → line.after.slots.get? id =
          some { left with status := .running, delay := 0, freezeCount := 0, executed := false }) := by
  obtain ⟨stays, spared, _⟩ := undisturbed
  rw [List.cons_append] at nested
  cases nested with
  | move before move =>
      have awake := (before.awake idle).1
      rw [reached_append] at awake move
      simp only [Entry.stays, Bool.and_eq_true, bne_iff_ne] at stays
      rcases delayed.move awake paused stays.1 stays.2 spared move with
        ⟨still, waits⟩ | ⟨⟨ticks, free⟩, rest⟩
      · refine .inl ⟨if_neg ?_, waits⟩
        rintro ⟨ticks, free⟩
        rcases still with same | frozen
        · exact ticks same
        · cases free.symm.trans frozen
      · exact .inr ⟨if_pos ⟨by rw [ticks]; exact Nat.succ_ne_self _, free⟩, rest⟩

/-- **As long as too few ticks have found it unfrozen, a script waits** with the rest of its delay
ahead. -/
theorem Nested.delayed {total : Nat} (idle : Idle start) (nested : Nested start (recent ++ past))
    (present : (reached start past).slots.get? id = some left) (paused : left.status = .paused)
    (delay : left.delay = total) (undisturbed : Undisturbed id (reached start past) recent)
    (early : lapses id (reached start past) recent < max 1 total) :
    Delayed id left (total - lapses id (reached start past) recent)
      (reached (reached start past) recent) := by
  induction recent with
  | nil =>
      refine ⟨left.freezeCount, left.executed, ?_⟩
      change (reached start past).slots.get? id = _
      rw [present]
      congr 1
      rw [← delay]
      simp [lapses]
  | cons line older ih =>
      have nested' : Nested start (older ++ past) := nested.tail
      have fewer : lapses id (reached start past) older ≤
          lapses id (reached start past) (line :: older) := by
        simp only [lapses]
        split <;> omega
      have before := ih nested' undisturbed.2.2 (Nat.lt_of_le_of_lt fewer early)
      rcases nested.delayed_step idle paused undisturbed before with
        ⟨same, waits⟩ | ⟨more, waits, _⟩
      · rw [same]
        exact waits
      · rw [more] at early ⊢
        have ahead := waits (by omega)
        rwa [Nat.cast_add, Nat.cast_one, ← Int.sub_sub]

end Delayed

/-! ## Delays -/

/-- The script of a slot executes a delay of a number of ticks. -/
structure Delays (id : SlotId) (ticks : UInt16) (m m' : Machine) : Prop where
  executing : m.current = some id
  opcode : m.code[m.pc]? = some Operation.delay.code
  operand : m.code.word (m.pc + 1) = .ok (ticks, m.pc + 3)
  done : instruct id m = .ok none m'

namespace Delays

variable {ticks : UInt16}

theorem upcoming (delays : Delays id ticks m m') : m.upcoming? = some .delay := by
  simp only [upcoming?, delays.executing, delays.opcode, Option.bind_some]
  rfl

/-- A delay pauses its script behind the instruction. -/
theorem pauses (delays : Delays id ticks m m') (present : m.slots.get? id = some slot) :
    m'.slots.get? id = some { slot with
      status := .paused
      delay := ticks.toNat
      offset := m.pc + 3
      executed := true } := by
  obtain ⟨opcode, operation, operands, after, found, known, read, performed⟩ :=
    instruct_ok delays.done
  cases delays.opcode.symm.trans found
  have delay : Operation.ofCode? Operation.delay.code = some .delay := rfl
  cases delay.symm.trans known
  change m.code.operands [.word] (m.pc + 1) = _ at read
  simp only [Code.operands, Code.operand, Fetch.bind_of_ok delays.operand] at read
  cases read
  cases (alone_ok performed).2
  dsimp only
  rw [delayCurrent_eq]
  change ((m.fetched id (m.pc + 3)).changeCurrent _).slots.get? id = _
  have running : (m.fetched id (m.pc + 3)).current = some id := delays.executing
  rw [changeCurrent_get?, if_pos running]
  simp only [fetched, changeSlot, Bank.get?_modify, if_true, present, Option.map_some]
  rfl

end Delays

/-- **A delay lasts as many ticks as asked for, but at least one; ticks that find the script frozen
do not count.**  Every game in which delays pass in ticks only, and in it every execution of a
delay, is told by a nested journal, up to wherever the game leads.  And in every nested journal the
script waits behind its delay, at the same offset and with the same variables, and takes no
instruction, as long as fewer ticks have found it unfrozen.  The tick that completes the number
makes it run.  This is so whatever else happens, as long as the script is not ended or replaced and
no skipped cutscene redirects it. -/
theorem delay_lasts {ticks : UInt16} (idle : Idle start) :
    (∀ {Allowed : Deed → Prop} {Fair : Machine → Prop} {m m' moment next last : Machine}
        {deed : Deed} {fuel : Nat}, (∀ deed, Allowed deed → deed.isClocked = true) →
        Hosted Allowed Fair start m → deed.Moment fuel m moment → Delays id ticks moment next →
        deed.carryOut fuel m = .ok () m' → Visited Allowed Fair m' last →
        ∃ recent old, Nested start (recent ++ ⟨⟨none, next⟩, .other⟩ :: old) ∧
          reached start old = moment ∧ reached next recent = last) ∧
      ∀ {recent old : List Line} {next : Machine},
        Nested start (recent ++ ⟨⟨none, next⟩, .other⟩ :: old) →
        Delays id ticks (reached start old) next → Undisturbed id next recent →
        ∃ before, (reached start old).slots.get? id = some before ∧
          (lapses id next recent < max 1 ticks.toNat →
            (reached next recent).current ≠ some id ∧
              ∃ slot, (reached next recent).slots.get? id = some slot ∧ slot.status = .paused ∧
                slot.offset = (reached start old).pc + 3 ∧ slot.locals = before.locals) ∧
          ∀ line older, recent = line :: older → lapses id next older < max 1 ticks.toNat →
            lapses id next recent = max 1 ticks.toNat →
            ∃ slot, line.after.slots.get? id = some slot ∧ slot.status = .running ∧
              slot.offset = (reached start old).pc + 3 ∧ slot.locals = before.locals := by
  refine ⟨fun clocked before during delays done after => ?_,
    fun {_ _ next} nested delays undisturbed => ?_⟩
  · exact exists_nested_around idle clocked before during delays.executing delays.upcoming
      delays.done done after
  · have earlier : Nested start (_ :: _) := nested.suffix
    obtain ⟨before, present, _⟩ := (earlier.tail.awake idle).1.active delays.executing
    have pauses := delays.pauses present
    refine ⟨before, present, fun early => ?_, ?_⟩
    · have waits := nested.delayed idle pauses rfl rfl undisturbed early
      have awake := (nested.awake idle).1
      rw [reached_append] at awake
      refine ⟨waits.idle awake rfl, ?_⟩
      obtain ⟨freezeCount, executed, present'⟩ := waits
      exact ⟨_, present', rfl, rfl, rfl⟩
    · rintro line older rfl early last
      have waits := (nested.tail : Nested start (older ++ _)).delayed idle pauses rfl rfl
        undisturbed.2.2 early
      rcases nested.delayed_step idle rfl undisturbed waits with ⟨same, _⟩ | ⟨more, _, runs⟩
      · exact absurd (same.symm.trans last) (Nat.ne_of_lt early)
      · have number : lapses id next older + 1 = max 1 ticks.toNat := more.symm.trans last
        have nothing : (ticks.toNat : Int) - lapses id next older ≤ 1 := by omega
        exact ⟨_, runs nothing, rfl, rfl, rfl⟩

/-- A game with a script that waits for two ticks. -/
def delayedGame : Machine :=
  .boot .standard ⟨[(1, [0x02, 2, 0, 0x00])], [], [], .empty⟩ []

/-- The journal of the game, in which a tick that finds the script frozen comes before the two that
count. -/
theorem delayedGame_journal : ∃ (next : Machine) (recent old : List Line) (line : Line),
    Nested delayedGame (line :: recent ++ ⟨⟨none, next⟩, .other⟩ :: old) ∧
      (Deed.order (.startScript 1 false false [])).Moment 9 delayedGame (reached delayedGame old) ∧
      Delays 1 2 (reached delayedGame old) next ∧ Undisturbed 1 next (line :: recent) ∧
      (reached delayedGame old).pc = 0 ∧ (reached next recent).tick = next.tick + 2 ∧
      lapses 1 next recent = 1 ∧ line.after.tick = next.tick + 3 ∧
      lapses 1 next (line :: recent) = 2 := by
  let order : Order := .startScript 1 false false []
  let begun := Run.last order.prepare delayedGame
  let entered := Run.last (enter 1) begun
  let next := Run.last (instruct 1) entered
  let returned := Run.last returnToCaller next
  let frozen := Run.last (Order.freezeScripts 1).prepare returned
  let passed := Run.last beginTick frozen
  let released := Run.last Order.unfreezeScripts.prepare passed
  let counted := Run.last beginTick released
  let elapsed := Run.last beginTick counted
  have begins : order.prepare delayedGame = .ok (some ⟨1, false⟩) begun :=
    Run.eq_ok_of_value? (by decide +kernel)
  have enters : enter 1 begun = .ok () entered := Run.eq_ok_of_value? (by decide +kernel)
  have delays : instruct 1 entered = .ok none next := Run.eq_ok_of_value? (by decide +kernel)
  have returns : returnToCaller next = .ok () returned := Run.eq_ok_of_value? (by decide +kernel)
  have freezes : (Order.freezeScripts 1).prepare returned = .ok none frozen :=
    Run.eq_ok_of_value? (by decide +kernel)
  have passes : beginTick frozen = .ok () passed := Run.eq_ok_of_value? (by decide +kernel)
  have releases : Order.unfreezeScripts.prepare passed = .ok none released :=
    Run.eq_ok_of_value? (by decide +kernel)
  have counts : beginTick released = .ok () counted := Run.eq_ok_of_value? (by decide +kernel)
  have ends : beginTick counted = .ok () elapsed := Run.eq_ok_of_value? (by decide +kernel)
  let recent : List Line := [⟨⟨none, counted⟩, .other⟩, ⟨⟨none, released⟩, .other⟩,
    ⟨⟨none, passed⟩, .other⟩, ⟨⟨none, frozen⟩, .other⟩, ⟨⟨none, returned⟩, .other⟩]
  let line : Line := ⟨⟨none, elapsed⟩, .other⟩
  have reads : entered.current = some 1 ∧ entered.code = [0x02, 2, 0, 0x00] ∧ entered.pc = 0 ∧
      entered.upcoming? = some .delay := by decide +kernel
  have rests : returned.current = none ∧ returned.calls = [] := by decide +kernel
  have facts : Undisturbed 1 next (line :: recent) ∧ counted.tick = next.tick + 2 ∧
      lapses 1 next recent = 1 ∧ elapsed.tick = next.tick + 3 ∧ lapses 1 next (line :: recent) = 2 := by
    decide +kernel
  -- the machines are known well enough
  clear_value elapsed counted released passed frozen returned next entered begun
  obtain ⟨executing, code, front, comes⟩ := reads
  obtain ⟨undisturbed, tick, lapse, tick', lapses'⟩ := facts
  have waiting : Idle returned := ⟨rests.1, rests.2⟩
  have held : Idle frozen := waiting.of_length (Order.prepare_rest waiting.rest freezes)
    (Order.prepare_calls_length freezes)
  have passed_ : Idle passed := held.begun passes
  have free : Idle released := passed_.of_length (Order.prepare_rest passed_.rest releases)
    (Order.prepare_calls_length releases)
  have started : Nested delayedGame [⟨⟨none, entered⟩, .other⟩, ⟨⟨some 1, begun⟩, .other⟩] :=
    (Nested.begin.move (.ordered ⟨rfl, rfl⟩ begins)).move (.enter enters)
  have delayed := (started.move (.performed executing comes delays)).move
    (.back (returnToCaller_ok returns))
  have once := (delayed.move (.ordered waiting freezes)).move (.opens held (.tick passes))
  have twice := (once.move (.ordered passed_ releases)).move (.opens free (.tick counts))
  refine ⟨next, recent, _, line, twice.move (.opens (free.begun counts) (.tick ends)),
    .called begins enters (.here 9 entered), ?_, undisturbed, front, tick, lapse, tick', lapses'⟩
  refine ⟨executing, ?_, ?_, delays⟩
  · change entered.code[entered.pc]? = _
    rw [code, front]
    rfl
  · change entered.code.word (entered.pc + 1) = .ok (2, entered.pc + 3)
    rw [code, front]
    rfl

theorem delay_lasts_delayedGame : ∃ moment next last : Machine,
    (Deed.order (.startScript 1 false false [])).Moment 9 delayedGame moment ∧
      Delays 1 2 moment next ∧
      (∃ recent old, Nested delayedGame (recent ++ ⟨⟨none, next⟩, .other⟩ :: old) ∧
        reached delayedGame old = moment ∧ reached next recent = last) ∧
      ∃ (waiting running : Machine) (slot slot' : Slot),
        waiting.tick = next.tick + 2 ∧ waiting.slots.get? 1 = some slot ∧ slot.status = .paused ∧
          slot.offset = 3 ∧
        running.tick = next.tick + 3 ∧ running.slots.get? 1 = some slot' ∧
          slot'.status = .running ∧ slot'.offset = 3 := by
  obtain ⟨next, recent, old, line, nested, during, delays, undisturbed, front, tick, lapse, tick',
    lapses'⟩ := delayedGame_journal
  let started := Run.last ((Deed.order (.startScript 1 false false [])).carryOut 9) delayedGame
  let held := Run.last ((Deed.order (.freezeScripts 1)).carryOut 9) started
  let last := Run.last ((Deed.order .tick).carryOut 9) held
  have starts : (Deed.order (.startScript 1 false false [])).carryOut 9 delayedGame =
      .ok () started := Run.eq_ok_of_value? (by decide +kernel)
  have holds : (Deed.order (.freezeScripts 1)).carryOut 9 started = .ok () held :=
    Run.eq_ok_of_value? (by decide +kernel)
  have ticks : (Deed.order .tick).carryOut 9 held = .ok () last :=
    Run.eq_ok_of_value? (by decide +kernel)
  clear_value last held started
  have after : Visited (·.isClocked = true) (fun _ => True) started last :=
    ⟨last, .deed (.deed .begin _ rfl 9 (fun _ _ => trivial) holds) _ rfl 9 (fun _ _ => trivial)
      ticks, .inl rfl⟩
  obtain ⟨told, lasts⟩ := @delay_lasts delayedGame 1 2 ⟨rfl, rfl⟩
  have earlier : Nested delayedGame (recent ++ _) := nested.tail
  obtain ⟨_, _, waits, _⟩ := lasts earlier delays undisturbed.2.2
  obtain ⟨_, slot, present, paused, place, _⟩ := waits (by rw [lapse]; decide)
  obtain ⟨_, _, _, runs⟩ := lasts nested delays undisturbed
  obtain ⟨slot', present', running, place', _⟩ :=
    runs line recent rfl (by rw [lapse]; decide) (by rw [lapses']; rfl)
  rw [front] at place place'
  exact ⟨_, next, last, during, delays,
    told (fun _ clocked => clocked) .begin during delays starts after, _, _, slot, slot',
    tick, present, paused, place, tick', present', running, place'⟩

end Machine

end Adventure
