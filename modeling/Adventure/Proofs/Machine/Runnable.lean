import Adventure.Proofs.Machine.Resume

/-!
# Only runnable scripts execute

A script executes while it is running and not frozen.  Nobody tests this before every
instruction: a slot is tested when it gets its turn, a started script begins runnable, and
a caller is resumed after a test that looks at its freezes but not at its status.

`Awake` is the invariant that makes this enough.  The executing script is runnable.  Every
script that waits in a call is running, waits in that call only and is not executing; its
freezes may come and go.  So a caller that passes the test is runnable again.
-/

set_option autoImplicit false

namespace Adventure.Machine

variable {m m' : Machine}

/-! ## The executing script -/

/-- An effect that leaves a script executing leaves it runnable. -/
theorem Effect.runnable (effect : Effect m m') {id : SlotId} {slot : Slot}
    (running : m'.current = some id) (present : m.slots.get? id = some slot)
    (able : slot.isRunnable = true) :
    ∃ after, m'.slots.get? id = some after ∧ after.isRunnable = true := by
  have alive : slot.isDead = false := by
    simp only [Slot.isRunnable, Bool.and_eq_true, beq_iff_eq] at able
    simp [Slot.isDead, able.1]
  cases effect with
  | aside => exact ⟨slot, present, able⟩
  | tune change kept =>
      change m.current = some id at running
      refine ⟨change slot, by rw [changeCurrent_get?, if_pos running, present]; rfl, ?_⟩
      rw [kept slot]
      exact able
  | yield => cases running
  | finish =>
      obtain ⟨events, same⟩ := stopCurrent_eq m
      rw [same] at running
      cases running
  | stop test waits =>
      obtain ⟨_, spared⟩ := stopWhere_current running
      exact ⟨slot, by simp [stopWhere_get?, present, spared slot present alive], able⟩
  | refreeze slots kept events spared =>
      obtain ⟨freeze, same⟩ := kept id
      rw [present] at same
      refine ⟨_, same, ?_⟩
      simp only [Slot.isRunnable, Bool.and_eq_true, beq_iff_eq] at able ⊢
      exact ⟨able.1, spared id slot _ running present same able.2⟩
  | enterRoom number loaded =>
      change m.stopRoomScripts.current = some id at running
      obtain ⟨_, spared⟩ := stopWhere_current running
      refine ⟨slot, ?_, able⟩
      change m.stopRoomScripts.slots.get? id = some slot
      simp [stopRoomScripts, stopWhere_get?, present, spared slot present alive]

/-- A slot that has just been claimed is runnable. -/
theorem Claimed.runnable {id : SlotId} (claimed : Claimed m id m') :
    ∃ slot, m'.slots.get? id = some slot ∧ slot.isRunnable = true := by
  obtain ⟨⟨free, present, _⟩, _⟩ := claimed.slot
  cases claimed with
  | intro number location offset freezeResistant recursive args =>
      refine ⟨.start number location offset freezeResistant recursive args, ?_, rfl⟩
      simp [changeSlot, logged, Bank.get?_modify, present]

/-! ## The scripts that wait -/

/-- The executing script is runnable, and the scripts that wait in calls are running. -/
structure Awake (m : Machine) : Prop where
  active : ∀ {id}, m.current = some id →
    ∃ slot, m.slots.get? id = some slot ∧ slot.isRunnable = true
  waiting : ∀ {depth frame caller}, m.frameAt depth = some frame → frame.slot = some caller →
    m.current ≠ some caller ∧ ∃ slot, m.slots.get? caller = some slot ∧ slot.status = .running ∧
      frame = ⟨slot.number, slot.location, some caller⟩
  once : ∀ {depth above frame other caller}, m.frameAt depth = some frame →
    m.frameAt above = some other → frame.slot = some caller → other.slot = some caller →
    depth = above

theorem frameAt_of_calls (same : m'.calls = m.calls) (depth : Nat) :
    m'.frameAt depth = m.frameAt depth := by
  rw [frameAt, same, frameAt]

namespace Awake

/-- Only the executing slot, the waiting slots and the calls matter. -/
theorem of_same (awake : Awake m) (current : m'.current = m.current) (calls : m'.calls = m.calls)
    (slots : m'.slots = m.slots) : Awake m' := by
  refine ⟨?_, ?_, ?_⟩
  · intro id running
    rw [slots]
    exact awake.active (current ▸ running)
  · intro depth frame caller found waits
    rw [current, slots]
    exact awake.waiting (frameAt_of_calls calls depth ▸ found) waits
  · intro depth above frame other caller found found' waits waits'
    rw [frameAt_of_calls calls] at found found'
    exact awake.once found found' waits waits'

/-- A machine at rest without open calls. -/
theorem of_rest (rest : m.current = none) (closed : m.calls = []) : Awake m := by
  have none : ∀ {depth frame}, ¬ m.frameAt depth = some frame := by
    intro depth frame found
    have less := frameAt_eq_some_lt found
    simp [closed] at less
  refine ⟨?_, fun found _ => absurd found none, fun found _ _ _ => absurd found none⟩
  intro id running
  cases rest.symm.trans running

/-- A script that waits is not dead, so it is no free slot. -/
theorem not_dead (awake : Awake m) {depth : Nat} {frame : CallFrame} {caller : SlotId}
    {slot : Slot} (found : m.frameAt depth = some frame) (waits : frame.slot = some caller)
    (present : m.slots.get? caller = some slot) : slot.isDead = false := by
  obtain ⟨_, slot', present', running, _⟩ := awake.waiting found waits
  cases present.symm.trans present'
  simp [Slot.isDead, running]

theorem effect (awake : Awake m) (effect : Effect m m') : Awake m' := by
  obtain ⟨detaches, calls, spared⟩ := effect.bystander
  -- a frame with a waiting script is one from before that has not been detached
  have attached : ∀ {depth frame caller}, m'.frameAt depth = some frame →
      frame.slot = some caller → m.frameAt depth = some frame ∧ detaches frame = false := by
    intro depth frame caller found waits
    rw [frameAt_of_invalidate calls] at found
    obtain ⟨before, earlier, same⟩ := Option.map_eq_some_iff.mp found
    split at same
    · subst same
      cases waits
    next keeps =>
      subst same
      exact ⟨earlier, Bool.eq_false_iff.mpr keeps⟩
  refine ⟨?_, ?_, ?_⟩
  · intro id running
    rcases effect.current with none | same
    · cases none.symm.trans running
    · obtain ⟨slot, present, able⟩ := awake.active (same ▸ running)
      exact effect.runnable running present able
  · intro depth frame caller found waits
    obtain ⟨earlier, keeps⟩ := attached found waits
    obtain ⟨idle, slot, present, running, same⟩ := awake.waiting earlier waits
    refine ⟨?_, ?_⟩
    · rcases effect.current with none | same
      · simp [none]
      · rwa [same]
    · rcases spared present (awake.not_dead earlier waits present) idle with
        detached | ⟨count, present', _⟩
      · rw [← same, keeps] at detached
        cases detached
      · exact ⟨_, present', running, same⟩
  · intro depth above frame other caller found found' waits waits'
    exact awake.once (attached found waits).1 (attached found' waits').1 waits waits'

theorem stable : Stable Awake where
  fetch after awake running := by
    refine ⟨?_, ?_, awake.once⟩
    · intro id running'
      obtain ⟨slot, present, able⟩ := awake.active running'
      cases running.symm.trans running'
      refine ⟨{ slot with executed := true }, ?_, able⟩
      simp [fetched, changeSlot, Bank.get?_modify, present]
    · intro depth frame caller found waits
      obtain ⟨idle, slot, present, status, same⟩ := awake.waiting found waits
      refine ⟨idle, slot, ?_, status, same⟩
      have distinct : ¬ _ = caller := fun same => idle (same ▸ running)
      simp [fetched, changeSlot, Bank.get?_modify, distinct, present]
  effect := Awake.effect
  leap awake leap := by
    cases leap with
    | jump => exact awake.of_same rfl rfl rfl
    | jumpIfZero => exact awake.of_same rfl rfl rfl
    | jumpIfNotZero => exact awake.of_same rfl rfl rfl
    | arm => exact awake.of_same rfl rfl rfl

/-! ## Calls -/

/-- A slot that is claimed belongs neither to the executing script nor to a waiting one. -/
theorem unused (awake : Awake m) {id : SlotId} (claimed : Claimed m id m') :
    m.current ≠ some id ∧
      ∀ {depth frame}, m.frameAt depth = some frame → frame.slot ≠ some id := by
  obtain ⟨⟨free, present, dead⟩, _⟩ := claimed.slot
  refine ⟨?_, ?_⟩
  · intro calling
    obtain ⟨slot, present', able⟩ := awake.active calling
    cases present.symm.trans present'
    simp only [Slot.isDead, beq_iff_eq] at dead
    simp [Slot.isRunnable, dead] at able
  · intro depth frame found waits
    cases dead.symm.trans (awake.not_dead found waits present)

theorem claimed (awake : Awake m) {id : SlotId} (claimed : Claimed m id m') : Awake m' := by
  obtain ⟨idle, unawaited⟩ := awake.unused claimed
  refine ⟨?_, ?_, ?_⟩
  · intro other running
    rw [claimed.current] at running
    rw [claimed.other (fun same => idle (same ▸ running))]
    exact awake.active running
  · intro depth frame caller found waits
    rw [frameAt_of_calls claimed.calls] at found
    rw [claimed.current, claimed.other (fun same => unawaited found (same ▸ waits))]
    exact awake.waiting found waits
  · intro depth above frame other caller found found' waits waits'
    rw [frameAt_of_calls claimed.calls] at found found'
    exact awake.once found found' waits waits'

/-- A runnable slot that is entered executes, and the script that asked for it waits. -/
theorem enter (awake : Awake m) {id : SlotId} (idle : m.current ≠ some id)
    (unawaited : ∀ {depth frame}, m.frameAt depth = some frame → frame.slot ≠ some id)
    (able : ∃ slot, m.slots.get? id = some slot ∧ slot.isRunnable = true)
    (done : Machine.enter id m = .ok () m') : Awake m' := by
  obtain ⟨slot, code, present, _, rfl⟩ := enter_ok done
  refine ⟨?_, ?_, ?_⟩
  · intro id' running
    cases running
    obtain ⟨before, present', able⟩ := able
    rw [noted, changeCurrent_get?, if_neg idle] at present
    cases present'.symm.trans present
    exact ⟨slot, by rw [noted, changeCurrent_get?, if_neg idle, present], able⟩
  · intro depth frame caller found waits
    rw [frameAt_of_cons rfl] at found
    split at found
    · cases found
      have calling := callFrame_slot waits
      obtain ⟨before, present', able'⟩ := awake.active calling
      refine ⟨fun same => idle (Option.some.inj same ▸ calling), { before with offset := m.pc },
        ?_, ?_, ?_⟩
      · change m.noted.slots.get? caller = _
        rw [noted, changeCurrent_get?, if_pos calling, present']
        rfl
      · simp only [Slot.isRunnable, Bool.and_eq_true, beq_iff_eq] at able'
        exact able'.1
      · simp only [callFrame, calling, present']
    · obtain ⟨resting, before, present', status, same⟩ := awake.waiting found waits
      refine ⟨fun same => unawaited found (Option.some.inj same ▸ waits), before, ?_, status, same⟩
      change m.noted.slots.get? caller = _
      rw [noted, changeCurrent_get?, if_neg resting, present']
  · intro depth above frame other caller found found' waits waits'
    rw [frameAt_of_cons rfl] at found found'
    -- the new frame is the executing script's, and that one waits nowhere else
    split at found
    next here =>
      split at found'
      next there => rw [here, there]
      next =>
        cases found
        exact absurd (callFrame_slot waits) (awake.waiting found' waits').1
    next =>
      split at found'
      next =>
        cases found'
        exact absurd (callFrame_slot waits') (awake.waiting found waits).1
      next => exact awake.once found found' waits waits'

/-- The script that is called executes, and its caller waits. -/
theorem called (awake : Awake m) {asked : Machine} {id : SlotId} (claims : Claimed m id asked)
    (done : Machine.enter id asked = .ok () m') : Awake m' := by
  obtain ⟨idle, unawaited⟩ := awake.unused claims
  refine (awake.claimed claims).enter ?_ ?_ claims.runnable done
  · rw [claims.current]
    exact idle
  · intro depth frame found
    rw [frameAt_of_calls claims.calls] at found
    exact unawaited found

/-- When the innermost call is taken off, the other scripts wait as before. -/
theorem pop (awake : Awake m) {top : CallFrame} {outer : CallStack} (open_ : m.calls = top :: outer)
    (calls : m'.calls = outer) (slots : m'.slots = m.slots)
    (active : ∀ {id}, m'.current = some id →
      top.slot = some id ∧ ∃ slot, m'.slots.get? id = some slot ∧ slot.isRunnable = true) :
    Awake m' := by
  have frames : ∀ {depth frame}, m'.frameAt depth = some frame →
      depth ≠ outer.length ∧ m.frameAt depth = some frame := by
    intro depth frame found
    have less := frameAt_eq_some_lt found
    rw [calls] at less
    refine ⟨by omega, ?_⟩
    rw [frameAt_of_cons open_, if_neg (by omega), ← calls]
    exact found
  have innermost : m.frameAt outer.length = some top := by
    rw [frameAt_of_cons open_, if_pos rfl]
  refine ⟨fun running => (active running).2, ?_, ?_⟩
  · intro depth frame caller found waits
    obtain ⟨below, earlier⟩ := frames found
    obtain ⟨_, rest⟩ := awake.waiting earlier waits
    refine ⟨fun running => ?_, by rwa [slots]⟩
    exact below (awake.once earlier innermost waits (active running).1)
  · intro depth above frame other caller found found' waits waits'
    exact awake.once (frames found).2 (frames found').2 waits waits'

/-- A call that returns goes on with a runnable script, or with none. -/
theorem returned (awake : Awake m) (returned : Returned m m') : Awake m' := by
  cases returned with
  | bare empty => exact .of_rest rfl rfl
  | stays top outer open_ =>
      refine awake.pop open_ rfl rfl ?_
      intro id running
      cases running
  | resumes top outer open_ caller slot code real waits present number location alive free =>
      refine awake.pop open_ rfl rfl ?_
      intro id running
      cases running
      refine ⟨waits, slot, present, ?_⟩
      -- the test before the return looks at the freezes; the status is known from the call
      obtain ⟨_, slot', present', status, _⟩ :=
        awake.waiting (by rw [frameAt_of_cons open_, if_pos rfl]) waits
      cases present.symm.trans present'
      simp [Slot.isRunnable, status, free]

theorem kept : Kept 0 Awake where
  instruct := stable.instruct
  call awake running asks enters := by
    obtain ⟨middle, before, claims⟩ := stable.asks awake running asks
    exact before.called claims enters
  back awake _ returned := awake.returned returned
  forget awake := awake.of_same rfl rfl rfl

end Awake

/-! ## Orders -/

theorem answer_calls_length {fuel : Nat} {call : Option Call}
    (done : answer (execute fuel) call m = .ok () m') : m'.calls.length = m.calls.length := by
  cases call with
  | none =>
      cases done
      rfl
  | some call =>
      obtain ⟨entered, ended, returned, enters, ran, back, rfl⟩ := answer_ok done
      have opened := enter_calls_length enters
      have kept := execute_calls_length ran
      have closed := (returnToCaller_ok back).calls_length
      split
      · change returned.calls.length = _
        omega
      · omega

theorem abortCutscene_calls (m : Machine) : m.abortCutscene.calls = m.calls := by
  unfold abortCutscene
  split <;> rfl

theorem Order.prepare_calls_length {order : Order} {call : Option Call}
    (done : order.prepare m = .ok call m') : m'.calls.length = m.calls.length := by
  by_cases abort : order = .abortCutscene
  · subst abort
    obtain ⟨_, ran⟩ := alone_ok done
    cases ran
    rw [abortCutscene_calls]
  · exact (prepare_ok abort done).calls_length

theorem takeTurn_calls_length {fuel : Nat} {id : SlotId} (done : takeTurn fuel id m = .ok () m') :
    m'.calls.length = m.calls.length := by
  rcases takeTurn_ok done with rfl | ⟨loaded, _, loads, ran⟩
  · rfl
  · obtain ⟨_, _, _, _, rfl⟩ := loadSlotCode_ok loads
    have same := execute_calls_length ran
    exact same

/-- At rest, with no call open. -/
structure Idle (m : Machine) : Prop where
  rest : m.current = none
  closed : m.calls = []

namespace Idle

theorem of_length (rest : m'.current = none) (same : m'.calls.length = m.calls.length)
    (idle : Idle m) : Idle m' := by
  refine ⟨rest, List.eq_nil_of_length_eq_zero ?_⟩
  rw [same, idle.closed]
  rfl

theorem awake (idle : Idle m) : Awake m := .of_rest idle.rest idle.closed

theorem begun (idle : Idle m) (done : beginTick m = .ok () m') : Idle m' := by
  rw [beginTick_ok done]
  exact ⟨rfl, idle.closed⟩

theorem turn {fuel : Nat} {id : SlotId} (idle : Idle m) (done : takeTurn fuel id m = .ok () m') :
    Idle m' :=
  idle.of_length (takeTurn_rest idle.rest done) (takeTurn_calls_length done)

/-- **An order that ends well leaves no call open.** -/
theorem carryOut {order : Order} {fuel : Nat} (idle : Idle m)
    (done : order.carryOut fuel m = .ok () m') : Idle m' := by
  refine idle.of_length (order.carryOut_rest idle.rest done) ?_
  by_cases tick : order = .tick
  · subst tick
    obtain ⟨begun, turned, _, _, first, second, rfl⟩ := runTick_ok done
    have last : Idle turned := Run.forM_kept turn (idle.begun first) second
    change turned.calls.length = _
    rw [last.closed, idle.closed]
  · rw [Order.carryOut_eq fuel tick, Run.bind_eq_ok_iff] at done
    obtain ⟨call, asked, prepares, answered⟩ := done
    rw [answer_calls_length answered, Order.prepare_calls_length prepares]

theorem played {Allowed : Order → Prop} {start : Machine} (idle : Idle start)
    (played : Played Allowed start m) : Idle m := by
  induction played with
  | begin => exact idle
  | order _ order _ _ done ih => exact ih.carryOut done

/-- A slot that gets its turn executes. -/
theorem load {id : SlotId} (idle : Idle m) (ready : m.isReady id = true)
    (done : loadSlotCode id { m with current := some id } = .ok () m') : Awake m' := by
  obtain ⟨slot, code, present, _, rfl⟩ := loadSlotCode_ok done
  have none : ∀ {depth frame},
      ¬ ({ m with code := code } : Machine).frameAt depth = some frame := by
    intro depth frame found
    have less := frameAt_eq_some_lt found
    simp [idle.closed] at less
  refine ⟨?_, fun found _ => absurd found none, fun found _ _ _ => absurd found none⟩
  intro id' running
  cases running
  refine ⟨slot, present, ?_⟩
  change m.slots.get? id = some slot at present
  simp only [isReady, present, Bool.and_eq_true] at ready
  exact ready.1

/-- The executing script of every moment of an order is runnable. -/
theorem moment {order : Order} {fuel : Nat} {moment : Machine} (idle : Idle m)
    (during : Moment fuel m order moment) : Awake moment := by
  cases during with
  | called asks enters passes =>
      obtain ⟨middle, effects, claims⟩ := Order.prepare_asks asks
      have before : Awake middle := Awake.stable.effects idle.awake effects
      exact (Awake.kept.passes (before.called claims enters) (Nat.zero_le _) passes).1
  | turn inside begins earlier ready loads passes =>
      have before : Idle _ := Run.forM_kept turn (idle.begun begins) earlier
      exact (Awake.kept.passes (before.load ready loads) (Nat.zero_le _) passes).1

end Idle

/-- **Only runnable scripts execute, and always their own code.**  Whatever orders a host has
given to a new game, in every moment of the next order in which a script executes, also when
that order fails later, the script is running and not frozen, and the code that is read is the
library's code for it. -/
theorem executing_script_runnable {Allowed : Order → Prop} {rules : Rules} {library : Library}
    {rooms : Keyed UInt8 LoadedRoom} {hooks : CutsceneHooks} {m moment : Machine} {order : Order}
    {fuel : Nat} {id : SlotId}
    (played : Played Allowed { boot rules library rooms with hooks := hooks } m)
    (during : Moment fuel m order moment) (executing : moment.current = some id) :
    ∃ slot, moment.slots.get? id = some slot ∧ slot.status = .running ∧ slot.freezeCount = 0 ∧
      moment.library.code? slot.number slot.location = some moment.code := by
  have idle : Idle m := Idle.played ⟨rfl, rfl⟩ played
  obtain ⟨slot, present, able⟩ := (idle.moment during).active executing
  have sited := (Sited.lasting fun _ => True).moment (.of_rest idle.rest) idle.rest trivial during
  obtain ⟨slot', present', _, known⟩ := sited id executing
  cases present.symm.trans present'
  simp only [Slot.isRunnable, Bool.and_eq_true, beq_iff_eq] at able
  exact ⟨slot, present, able.1, able.2, known⟩

/-- A game with two scripts.  The first calls the second, which freezes and releases it. -/
def frozenCaller : Machine :=
  .boot .standard
    ⟨[(1, [0x07, 2, 0, 0, 0, 0x01]), (2, [0x0B, 1, 0x0B, 0, 0x00])], [], [], .empty⟩ []

theorem executing_script_frozenCaller : ∃ (moment : Machine) (slot : Slot),
    Moment 9 frozenCaller (.startScript 1 false false []) moment ∧ moment.pc = 5 ∧
      moment.current = some 1 ∧ moment.slots.get? 1 = some slot ∧ slot.status = .running ∧
      slot.freezeCount = 0 ∧
      moment.library.code? slot.number slot.location = some moment.code := by
  let order : Order := .startScript 1 false false []
  have prepared : order.prepare frozenCaller = .ok (some ⟨1, false⟩) _ :=
    Run.eq_ok_of_value? (by decide +kernel)
  have entered : enter 1 (Run.last order.prepare frozenCaller) = .ok () _ :=
    Run.eq_ok_of_value? (by decide +kernel)
  have called : step (execute 8) 1 (Run.last (enter 1) (Run.last order.prepare frozenCaller)) =
      .ok () _ := Run.eq_ok_of_value? (by decide +kernel)
  have during : Moment 9 frozenCaller order _ :=
    .called prepared entered (.later (by decide +kernel) called (.here 8 _))
  have executing : (Run.last (step (execute 8) 1)
      (Run.last (enter 1) (Run.last order.prepare frozenCaller))).current = some 1 := by
    decide +kernel
  obtain ⟨slot, found⟩ := executing_script_runnable
    (.begin : Played (fun _ => True) frozenCaller frozenCaller) during executing
  exact ⟨_, slot, during, by decide +kernel, executing, found⟩

end Adventure.Machine
