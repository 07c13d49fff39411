import Adventure.Proofs.Machine.Course

/-!
# One turn per tick

A tick gives control to scripts in two ways: it picks a slot for its turn, and a script that
executes may start another one, which then runs at once.  A mark on each slot says whether
its script has had control in this tick; starting a script takes the mark away, and the
first instruction of a script sets it (`Spent`).

A script instance is a slot together with the number of scripts that have been started in
it.  In every recorded tick the instances that are given control are distinct, and the
course of a turn belongs to one instance: it performs instructions until it gives up
control, and after a call it goes on only when the call returns to it (`TurnOf`).
-/

set_option autoImplicit false

namespace Adventure.Machine

variable {m m' : Machine} {fuel : Nat}

/-! ## Slots that have had control -/

/-- The slot is marked: its script has had control in this tick. -/
def Spent (id : SlotId) (m : Machine) : Prop :=
  ∀ slot, m.slots.get? id = some slot → slot.executed = true

/-- No effect changes the mark of a slot. -/
theorem Effect.executed (effect : Effect m m') {id : SlotId} {slot : Slot}
    (present : m'.slots.get? id = some slot) :
    ∃ before, m.slots.get? id = some before ∧ slot.executed = before.executed := by
  obtain ⟨before, found, rfl | onward⟩ := effect.slot present
  · exact ⟨before, found, rfl⟩
  · exact ⟨before, found, onward.executed⟩

namespace Spent

variable {id : SlotId}

theorem of_slot (spent : Spent id m) (same : m'.slots.get? id = m.slots.get? id) :
    Spent id m' := by
  unfold Spent
  rw [same]
  exact spent

/-- A slot is marked when it performs an instruction. -/
theorem fetched (m : Machine) (id : SlotId) (after : Nat) : Spent id (m.fetched id after) := by
  intro slot present
  simp only [Machine.fetched, changeSlot, Bank.get?_modify, if_true] at present
  obtain ⟨before, _, rfl⟩ := Option.map_eq_some_iff.mp present
  rfl

theorem stable : Stable (Spent id) where
  fetch := by
    intro m other after spent _ slot present
    simp only [Machine.fetched, changeSlot, Bank.get?_modify] at present
    split at present
    · obtain ⟨before, _, rfl⟩ := Option.map_eq_some_iff.mp present
      rfl
    · exact spent slot present
  effect := by
    intro m m' spent effect slot present
    obtain ⟨before, found, same⟩ := effect.executed present
    rw [same]
    exact spent before found
  leap spent leap := by
    cases leap with
    | jump => exact spent
    | jumpIfZero => exact spent
    | jumpIfNotZero => exact spent
    | arm => exact spent

/-- Marks stay when an instruction is fetched, and the slot that performs it gets one. -/
theorem begins {other : SlotId} (marked : Spent id m ∨ other = id)
    (running : m.current = some other) (after : Nat) : Spent id (m.fetched other after) := by
  rcases marked with spent | rfl
  · exact stable.fetch after spent running
  · exact .fetched m other after

theorem instruct {other : SlotId} (marked : Spent id m ∨ other = id)
    (running : m.current = some other) (done : Machine.instruct other m = .ok none m') :
    Spent id m' := by
  obtain ⟨_, _, _, after, _, _, _, performed⟩ := instruct_ok done
  have begins := begins marked running after
  rcases perform_ok performed with ⟨_, leap⟩ | effects
  · exact stable.leap begins leap
  · exact stable.effects begins effects

/-- When a script is called, marks stay, but for the slot in which it is started. -/
theorem call {other : SlotId} {call : Call} {asked entered : Machine}
    (marked : Spent id m ∨ other = id) (running : m.current = some other)
    (asks : Machine.instruct other m = .ok (some call) asked)
    (enters : enter call.slot asked = .ok () entered) (distinct : call.slot ≠ id) :
    Spent id entered := by
  obtain ⟨after, middle, effects, claimed⟩ := instruct_asks asks
  have ready : Spent id asked :=
    (stable.effects (begins marked running after) effects).of_slot (claimed.other distinct)
  obtain ⟨_, _, _, _, rfl⟩ := enter_ok enters
  intro slot present
  change asked.noted.slots.get? id = some slot at present
  rw [noted, changeCurrent_get?] at present
  split at present
  · obtain ⟨before, found, rfl⟩ := Option.map_eq_some_iff.mp present
    exact ready before found
  · exact ready slot present

theorem answered {call : Call} {ended returned : Machine} (spent : Spent id ended)
    (back : returnToCaller ended = .ok () returned) :
    Spent id (if call.opening then returned.forgetOpener else returned) := by
  have same : returned.slots = ended.slots := by
    cases returnToCaller_ok back <;> rfl
  have after : Spent id returned := spent.of_slot (by rw [same])
  split
  · exact after
  · exact after

/-- **After a course, every slot that has had control is marked**: those that were marked before,
the one that executed first, and those in which scripts were started. -/
theorem follow {course : Course} (done : Machine.follow fuel m = .ok course m')
    (marked : Spent id m ∨ m.current = some id ∨ id ∈ course.starts) : Spent id m' := by
  induction fuel generalizing m m' course with
  | zero => exact absurd done not_follow_zero
  | succ fuel ih =>
      cases follow_ok done with
      | rest none =>
          rcases marked with spent | running | started
          · exact spent
          · cases none.symm.trans running
          · cases started
      | step running _ alone goes =>
          refine ih goes ?_
          rcases marked with spent | running' | started
          · exact .inl (.instruct (.inl spent) running alone)
          · cases running.symm.trans running'
            exact .inl (.instruct (.inr rfl) running alone)
          · exact .inr (.inr started)
      | @call caller call _ entered _ _ next _ inside _ running _ asks enters runs back after
          goes =>
          refine ih goes ?_
          have active := enter_current enters
          -- a mark that the call has set, or that it leaves alone
          have within : Spent id m ∨ caller = id ∨ call.slot = id ∨ id ∈ inside.starts →
              Spent id next := by
            intro marked
            rw [after]
            refine answered (ih runs ?_) back
            by_cases same : call.slot = id
            · exact .inr (.inl (same ▸ active))
            rcases marked with spent | own | other | started
            · exact .inl (.call (.inl spent) running asks enters same)
            · exact .inl (.call (.inr own) running asks enters same)
            · exact absurd other same
            · exact .inr (.inr started)
          rcases marked with spent | running' | started
          · exact .inl (within (.inl spent))
          · cases running.symm.trans running'
            exact .inl (within (.inr (.inl rfl)))
          · simp only [Course.starts, List.mem_cons, List.mem_append] at started
            rcases started with same | started | started
            · exact .inl (within (.inr (.inr (.inl same.symm))))
            · exact .inl (within (.inr (.inr (.inr started))))
            · exact .inr (.inr started)

/-- A slot that is marked is not ready for a turn. -/
theorem not_ready (spent : Spent id m) : m.isReady id = false := by
  unfold isReady
  cases present : m.slots.get? id with
  | none => rfl
  | some slot => simp [spent slot present]

end Spent

/-! ## The course of a turn -/

/-- The course of the turn of one script instance.  It performs instructions.  When one of them
starts another script, that one has its turn; then the instance goes on if the call returns to
it, and its slot has not been used for another script in the meantime.  Otherwise its turn is
over. -/
inductive TurnOf : SlotId → Course → Prop where
  | ended (id : SlotId) : TurnOf id .rest
  | step {id : SlotId} {next : Course} (goes : TurnOf id next) : TurnOf id (.step id next)
  | resumed {id callee : SlotId} {inside next : Course} (called : TurnOf callee inside)
      (untouched : id ∉ callee :: inside.starts) (goes : TurnOf id next) :
      TurnOf id (.call id callee inside (some id) next)
  | left {id callee : SlotId} {inside : Course} (called : TurnOf callee inside) :
      TurnOf id (.call id callee inside none .rest)

/-- A script that is started in a course executes in one of its passages. -/
theorem follow_starts {course : Course} {id : SlotId} (done : follow fuel m = .ok course m')
    (started : id ∈ course.starts) :
    ∃ moment, Passes fuel m moment ∧ moment.current = some id := by
  induction fuel generalizing m m' course with
  | zero => exact absurd done not_follow_zero
  | succ fuel ih =>
      cases follow_ok done with
      | rest => cases started
      | step running steps _ goes =>
          obtain ⟨moment, passes, active⟩ := ih goes started
          exact ⟨moment, .later running steps passes, active⟩
      | call running steps asks enters runs _ _ goes =>
          simp only [Course.starts, List.mem_cons, List.mem_append] at started
          rcases started with rfl | started | started
          · exact ⟨_, .inside running asks enters (.here _ _), enter_current enters⟩
          · obtain ⟨moment, passes, active⟩ := ih runs started
            exact ⟨moment, .inside running asks enters passes, active⟩
          · obtain ⟨moment, passes, active⟩ := ih goes started
            exact ⟨moment, .later running steps passes, active⟩

/-- An instruction leaves control with the script that performs it, or with none. -/
theorem Effects.current (effects : Effects m m') : m'.current = none ∨ m'.current = m.current := by
  induction effects with
  | refl => exact .inr rfl
  | tail _ effect ih =>
      rcases effect.current with none | same
      · exact .inl none
      · rw [same]
        exact ih

theorem instruct_current {id : SlotId} (running : m.current = some id)
    (done : instruct id m = .ok none m') : m'.current = none ∨ m'.current = some id := by
  obtain ⟨_, _, _, after, _, _, _, performed⟩ := instruct_ok done
  have fetched : (m.fetched id after).current = some id := running
  rcases perform_ok performed with ⟨_, leap⟩ | effects
  · refine .inr ?_
    rw [← fetched]
    cases leap <;> rfl
  · rw [← fetched]
    exact Effects.current effects

/-- A call in which a script waits returns to that script, or to none. -/
theorem Returned.current_of_waits {depth : Nat} {caller : SlotId} {left : Slot} {code : Code}
    (returned : Returned m m') (waits : Waits depth caller left code m)
    (last : m.calls.length = depth + 1) : m'.current = none ∨ m'.current = some caller := by
  rcases waits with untouched | detached
  · cases returned with
    | bare => exact .inl rfl
    | stays => exact .inl rfl
    | resumes top outer open_ other slot own real waits =>
        have found := untouched.frame
        rw [open_, List.length_cons] at last
        rw [frameAt_of_cons open_, if_pos (by omega)] at found
        cases found
        exact .inr waits.symm
  · exact .inl (returned.current_none detached last)

/-- **What a call does to its caller**: control does not come back, or it comes back to the
caller, and no script has been started in the caller's slot. -/
theorem follow_call {id : SlotId} {call : Call} {asked entered ended returned : Machine}
    {inside : Course} (sited : Sited m) (running : m.current = some id)
    (asks : instruct id m = .ok (some call) asked)
    (enters : enter call.slot asked = .ok () entered)
    (runs : follow fuel entered = .ok inside ended)
    (back : returnToCaller ended = .ok () returned) :
    returned.current = none ∨
      returned.current = some id ∧ id ∉ call.slot :: inside.starts := by
  have ran := follow_execute runs
  have returned := returnToCaller_ok back
  obtain ⟨after, middle, effects, claimed⟩ := instruct_asks asks
  have sited' : Sited middle :=
    Sited.stable.effects (Sited.stable.fetch after sited running) effects
  rcases Effects.current effects with rest | calling
  · exact .inl (returned_rest (claimed.current.trans rest) enters ran returned)
  replace calling : asked.current = some id := claimed.current.trans (calling.trans running)
  obtain ⟨slot, present, alive, known⟩ := sited'.claimed claimed id calling
  have distinct := sited'.unclaimed claimed (claimed.current.symm.trans calling)
  -- the caller waits in the frame of the call until it is detached
  have begins := Untouched.of_enter calling present known distinct enters
  have entered_depth := enter_calls_length enters
  have ended_depth := execute_calls_length ran
  have kept : Kept (asked.calls.length + 1)
      (Waits asked.calls.length id { slot with offset := asked.pc } asked.code) := Waits.kept alive
  have waits := (kept.execute (.inl begins) (by omega) ran).1
  rcases returned.current_of_waits waits (by omega) with rest | back
  · exact .inl rest
  refine .inr ⟨back, ?_⟩
  intro used
  rcases List.mem_cons.mp used with same | started
  · exact distinct same.symm
  · obtain ⟨moment, passes, active⟩ := follow_starts runs started
    have still : Untouched asked.calls.length id { slot with offset := asked.pc } asked.code
        moment := untouched_of_resumed alive begins entered_depth ran returned back passes
    exact still.idle active

/-- **The course of a turn belongs to the instance that has it.** -/
theorem follow_turnOf {course : Course} {id : SlotId} (sited : Sited m)
    (running : m.current = some id) (done : follow fuel m = .ok course m') : TurnOf id course := by
  induction fuel generalizing m m' course id with
  | zero => exact absurd done not_follow_zero
  | succ fuel ih =>
      cases follow_ok done with
      | rest => exact .ended id
      | step running' steps alone goes =>
          cases running.symm.trans running'
          have sited' := (Sited.kept.step Sited.kept.execute sited (Nat.zero_le _) running steps).1
          rcases instruct_current running alone with rest | same
          · rw [follow_rest rest goes]
            exact .step (.ended id)
          · exact .step (ih sited' same goes)
      | @call _ call _ entered _ returned _ _ _ _ running' steps asks enters runs back after goes =>
          cases running.symm.trans running'
          have sited' := (Sited.kept.step Sited.kept.execute sited (Nat.zero_le _) running steps).1
          have active := enter_current enters
          have called := ih (Sited.kept.call sited running asks enters) active runs
          have control : (if call.opening then returned.forgetOpener else returned).current =
              returned.current := by
            split <;> rfl
          rcases follow_call sited running asks enters runs back with rest | ⟨same, untouched⟩
          · rw [← control, ← after] at rest
            rw [follow_rest rest goes, rest]
            exact .left called
          · rw [← control, ← after] at same
            rw [same]
            exact .resumed called untouched (ih sited' same goes)

/-! ## Instances -/

/-- How a slot is given control. -/
inductive Control where
  /-- A script is started in the slot and run. -/
  | started (slot : SlotId)
  /-- The slot gets its turn. -/
  | picked (slot : SlotId)
  deriving DecidableEq, Repr

/-- The slot that is given control. -/
def Control.slot : Control → SlotId
  | started slot => slot
  | picked slot => slot

/-- All the control that is given in a turn, in order. -/
def Turn.controls (turn : Turn) : List Control :=
  .picked turn.slot :: turn.course.starts.map .started

/-- The script instances that are given control, when scripts have been started in some slots
before.  A slot that is taken for a script is started at once, so an instance is a slot and the
number of scripts that have been started in it so far. -/
def instances (past : List SlotId) : List Control → List (SlotId × Nat)
  | [] => []
  | .started id :: rest => (id, past.count id + 1) :: instances (id :: past) rest
  | .picked id :: rest => (id, past.count id) :: instances past rest

/-- A slot that is not picked is given control for new instances only. -/
theorem instances_new {past : List SlotId} {controls : List Control} {id : SlotId} {count : Nat}
    (unpicked : .picked id ∉ controls) (given : (id, count) ∈ instances past controls) :
    past.count id < count := by
  induction controls generalizing past with
  | nil => cases given
  | cons control rest ih =>
      have later : .picked id ∉ rest := fun member => unpicked (.tail _ member)
      cases control with
      | started slot =>
          rcases List.mem_cons.mp given with same | given
          · cases same
            exact Nat.lt_succ_self _
          · have more := ih later given
            exact Nat.lt_of_le_of_lt List.count_le_count_cons more
      | picked slot =>
          rcases List.mem_cons.mp given with same | given
          · cases same
            exact absurd (.head _) unpicked
          · exact ih later given

/-- Where no slot is picked that has had control before, the instances are distinct. -/
theorem instances_nodup {past : List SlotId} {controls : List Control}
    (orderly : controls.Pairwise fun earlier later => later ≠ .picked earlier.slot) :
    (instances past controls).Nodup := by
  induction controls generalizing past with
  | nil => exact List.nodup_nil
  | cons control rest ih =>
      obtain ⟨first, later⟩ := List.pairwise_cons.mp orderly
      have unpicked : .picked control.slot ∉ rest := fun member => first _ member rfl
      cases control with
      | started slot =>
          refine List.nodup_cons.mpr ⟨fun given => ?_, ih later⟩
          have more : (slot :: past).count slot < past.count slot + 1 :=
            instances_new unpicked given
          rw [List.count_cons_self] at more
          exact Nat.lt_irrefl _ more
      | picked slot =>
          refine List.nodup_cons.mpr ⟨fun given => ?_, ih later⟩
          exact Nat.lt_irrefl _ (instances_new unpicked given)

/-! ## Ticks -/

/-- What a turn is: the slot is not ready, or it has one. -/
theorem followTurn_ok {id : SlotId} {turns : List Turn}
    (done : followTurn fuel id m = .ok turns m') :
    (turns = [] ∧ m' = m) ∨
      ∃ loaded course, m.isReady id = true ∧
        loadSlotCode id { m with current := some id } = .ok () loaded ∧
        follow fuel loaded = .ok course m' ∧ turns = [⟨id, course⟩] := by
  simp only [followTurn, Run.get_bind_apply] at done
  by_cases ready : m.isReady id = true
  · simp only [ready, if_true, Run.modify_bind_apply, Run.bind_eq_ok_iff] at done
    obtain ⟨_, loaded, loads, course, _, ran, same⟩ := done
    cases same
    exact .inr ⟨loaded, course, ready, loads, ran, rfl⟩
  · simp only [ready, Bool.false_eq_true, if_false] at done
    cases done
    exact .inl ⟨rfl, rfl⟩

/-- What turns keep and what is true of them: marks stay, a marked slot gets no turn, no slot is
picked after it has had control, and every course belongs to the slot that is picked. -/
structure Turned (m m' : Machine) (turns : List Turn) : Prop where
  marks : ∀ {id}, Spent id m → Spent id m'
  unpicked : ∀ {id}, Spent id m → .picked id ∉ turns.flatMap Turn.controls
  orderly : (turns.flatMap Turn.controls).Pairwise fun earlier later => later ≠ .picked earlier.slot
  courses : ∀ turn ∈ turns, TurnOf turn.slot turn.course

theorem Turned.none (m : Machine) : Turned m m [] :=
  ⟨id, fun _ => List.not_mem_nil, .nil, fun _ member => absurd member List.not_mem_nil⟩

/-- A turn, and those that follow it. -/
theorem Turned.cons {id : SlotId} {course : Course} {middle loaded : Machine} {turns : List Turn}
    (ready : m.isReady id = true)
    (loads : loadSlotCode id { m with current := some id } = .ok () loaded)
    (ran : follow fuel loaded = .ok course middle) (rest : Turned middle m' turns) :
    Turned m m' (⟨id, course⟩ :: turns) := by
  have sited : Sited loaded := .load ready loads
  obtain ⟨_, _, _, _, rfl⟩ := loadSlotCode_ok loads
  have marked : ∀ {other}, Spent other m ∨ other = id ∨ other ∈ course.starts →
      Spent other middle := by
    intro other marked
    refine Spent.follow ran ?_
    rcases marked with spent | rfl | started
    · exact .inl spent
    · exact .inr (.inl rfl)
    · exact .inr (.inr started)
  refine ⟨fun spent => rest.marks (marked (.inl spent)), ?_, ?_, ?_⟩
  · intro other spent member
    rcases List.mem_append.mp member with own | later
    · simp only [Turn.controls, List.mem_cons, List.mem_map, reduceCtorEq, and_false, exists_false,
        or_false, Control.picked.injEq] at own
      subst own
      cases ready.symm.trans spent.not_ready
    · exact rest.unpicked (marked (.inl spent)) later
  · refine List.pairwise_append.mpr ⟨?_, rest.orderly, ?_⟩
    · -- in one turn only the first control is a pick
      refine List.pairwise_cons.mpr ⟨?_, List.pairwise_map.mpr ?_⟩
      · intro later member
        obtain ⟨_, _, rfl⟩ := List.mem_map.mp member
        simp
      · exact List.pairwise_of_forall fun _ _ => by simp
    · rintro earlier own _ later rfl
      refine rest.unpicked (marked (.inr ?_)) later
      rcases List.mem_cons.mp own with rfl | started
      · exact .inl rfl
      · obtain ⟨_, member, rfl⟩ := List.mem_map.mp started
        exact .inr member
  · intro turn member
    rcases List.mem_cons.mp member with rfl | later
    · exact follow_turnOf sited rfl ran
    · exact rest.courses turn later

theorem followTurns_ok {ids : List SlotId} {turns : List Turn}
    (done : followTurns fuel ids m = .ok turns m') : Turned m m' turns := by
  induction ids generalizing m turns with
  | nil =>
      cases done
      exact .none _
  | cons id ids ih =>
      simp only [followTurns, Run.bind_eq_ok_iff] at done
      obtain ⟨first, middle, turn, rest, _, later, same⟩ := done
      cases same
      rcases followTurn_ok turn with ⟨rfl, rfl⟩ | ⟨loaded, course, ready, loads, ran, rfl⟩
      · exact ih later
      · exact .cons ready loads ran (ih later)

/-- **A script instance gets at most one turn per tick.**  A tick that ends well can be told turn
by turn.  The instances that are given control, because their script is started or because their
slot is picked, are distinct.  And the course of a turn belongs to its instance: when the
instance has called another script, it performs further instructions only if that call returns to
it. -/
theorem one_turn_per_tick (done : runTick fuel m = .ok () m') :
    ∃ turns, followTick fuel m = .ok turns m' ∧
      (instances [] (turns.flatMap Turn.controls)).Nodup ∧
      ∀ turn ∈ turns, TurnOf turn.slot turn.course := by
  rw [← unrecorded_followTick] at done
  obtain ⟨turns, followed⟩ := unrecorded_ok.mp done
  refine ⟨turns, followed, ?_⟩
  simp only [followTick, Run.bind_eq_ok_iff] at followed
  obtain ⟨_, begun, _, _, turned, turns', _, _, _, same⟩ := followed
  cases same
  have facts := followTurns_ok turns'
  exact ⟨instances_nodup facts.orderly, facts.courses⟩

/-- A game whose first script starts the second one twice in a tick.  The second start stops what
the first one has left, and uses its slot again. -/
def twoStarts : Machine :=
  .boot .standard
    ⟨[(1, [0x01, 0x07, 2, 0, 0, 0, 0x07, 2, 0, 0, 0, 0x01]), (2, [0x01])], [], [], .empty⟩ []

theorem one_turn_per_tick_twoStarts : ∃ (m m' : Machine) (turns : List Turn),
    runTick 9 m = .ok () m' ∧ followTick 9 m = .ok turns m' ∧
      turns = [⟨1, .call 1 2 (.step 2 .rest) (some 1)
        (.call 1 2 (.step 2 .rest) (some 1) (.step 1 .rest))⟩] ∧
      instances [] (turns.flatMap Turn.controls) = [(1, 0), (2, 1), (2, 2)] ∧
      (instances [] (turns.flatMap Turn.controls)).Nodup ∧
      ∀ turn ∈ turns, TurnOf turn.slot turn.course := by
  let started := Run.last ((Order.startScript 1 false false []).carryOut 9) twoStarts
  have ticks : runTick 9 started = .ok () _ := Run.eq_ok_of_value? (by decide +kernel)
  obtain ⟨turns, followed, distinct, courses⟩ := one_turn_per_tick ticks
  have told : Run.value? (followTick 9) started = some [⟨1, .call 1 2 (.step 2 .rest) (some 1)
      (.call 1 2 (.step 2 .rest) (some 1) (.step 1 .rest))⟩] := by decide +kernel
  rw [Run.value?, followed] at told
  obtain rfl := Option.some.inj told
  exact ⟨_, _, _, ticks, followed, rfl, by decide, distinct, courses⟩

end Adventure.Machine
