import Adventure.Proofs.Machine.Effect

/-!
# What a run keeps

Executing code is a recursion: an instruction may start a script, which is executed to its
end before the next instruction.  `Passes` lists the machines that come up on the way,
between two instructions and at every depth of calls.  A property that single
instructions, entering a call and returning from one keep, is kept by every passage and
by the whole execution (`Kept`).

The depth of the call stack is part of the argument: an execution never returns from
calls that were open when it began, so a property may speak about the frames below.
-/

set_option autoImplicit false

namespace Adventure.Machine

variable {m m' : Machine}

/-! ## Calls -/

theorem loadSlotCode_ok {id : SlotId} (done : loadSlotCode id m = .ok () m') :
    ∃ slot code, m.slots.get? id = some slot ∧
      m.library.code? slot.number slot.location = some code ∧
      m' = { m with code := code, pc := slot.offset } := by
  simp only [loadSlotCode, Run.bind_eq_ok_iff, Run.get_apply] at done
  obtain ⟨_, _, same, rest⟩ := done
  cases same
  cases present : m.slots.get? id with
  | none => simp [present] at rest
  | some slot =>
      simp only [present] at rest
      cases known : m.library.code? slot.number slot.location with
      | none => simp [known] at rest
      | some code =>
          rw [known] at rest
          cases rest
          exact ⟨slot, code, rfl, known, rfl⟩

/-- The machine when the executing script has noted where it goes on. -/
def noted (m : Machine) : Machine := m.changeCurrent fun slot => { slot with offset := m.pc }

/-- Entering a slot lets the executing script wait in a new frame. -/
theorem enter_ok {id : SlotId} (done : enter id m = .ok () m') :
    ∃ slot code, m.noted.slots.get? id = some slot ∧
      m.library.code? slot.number slot.location = some code ∧
      m' =
        { m.noted with
          calls := m.callFrame :: m.calls
          current := some id
          code := code
          pc := slot.offset } := by
  simp only [enter, Run.bind_eq_ok_iff, Run.get_apply, Run.set_apply] at done
  obtain ⟨_, _, same, _, _, saved, rest⟩ := done
  cases same
  cases saved
  have calls : (m.changeCurrent fun slot => { slot with offset := m.pc }).calls = m.calls := rfl
  rw [calls, CallStack.push?] at rest
  by_cases shallow : m.calls.length < CallStack.limit
  · simp only [shallow, if_true, Run.bind_eq_ok_iff, Run.set_apply] at rest
    obtain ⟨_, _, pushed, loaded⟩ := rest
    cases pushed
    obtain ⟨slot, code, present, known, rfl⟩ := loadSlotCode_ok loaded
    exact ⟨slot, code, present, known, rfl⟩
  · simp [shallow] at rest

/-- How a call ends: the frame is taken off, and the script that waits in it goes on exactly
when it is still there. -/
inductive Returned (m : Machine) : Machine → Prop where
  | bare (empty : m.calls = []) : Returned m { m with calls := [], current := none }
  | stays (frame : CallFrame) (outer : CallStack) (open_ : m.calls = frame :: outer) :
      Returned m { m with calls := outer, current := none }
  | resumes (frame : CallFrame) (outer : CallStack) (open_ : m.calls = frame :: outer)
      (caller : SlotId) (slot : Slot) (code : Code) (real : frame.number ≠ 0)
      (waits : frame.slot = some caller) (present : m.slots.get? caller = some slot)
      (number : slot.number = frame.number) (location : slot.location = frame.location)
      (alive : slot.isDead = false) (free : slot.freezeCount = 0)
      (known : m.library.code? slot.number slot.location = some code) :
      Returned m
        { m with calls := outer, current := some caller, code := code, pc := slot.offset }

theorem isResumable_iff {frame : CallFrame} {caller : SlotId} :
    m.isResumable frame caller = true ↔
      ∃ slot, m.slots.get? caller = some slot ∧ slot.number = frame.number ∧
        slot.location = frame.location ∧ slot.isDead = false ∧ slot.freezeCount = 0 := by
  unfold isResumable
  cases m.slots.get? caller with
  | none => simp
  | some slot => simp [and_assoc]

theorem returnToCaller_ok (done : returnToCaller m = .ok () m') : Returned m m' := by
  simp only [returnToCaller, Run.bind_eq_ok_iff, Run.get_apply] at done
  obtain ⟨_, _, same, rest⟩ := done
  cases same
  cases open_ : m.calls with
  | nil =>
      rw [open_] at rest
      cases rest
      exact .bare open_
  | cons frame outer =>
      simp only [open_, Run.bind_eq_ok_iff, Run.set_apply] at rest
      obtain ⟨_, _, taken, rest⟩ := rest
      cases taken
      by_cases real : frame.number = 0
      · simp only [real, if_true] at rest
        cases rest
        exact .stays frame outer open_
      simp only [real, if_false] at rest
      cases waits : frame.slot with
      | none =>
          rw [waits] at rest
          cases rest
          exact .stays frame outer open_
      | some caller =>
          simp only [waits] at rest
          by_cases able : m.isResumable frame caller = true
          · simp only [able, if_true, Run.bind_eq_ok_iff, Run.modify_apply] at rest
            obtain ⟨_, _, chosen, loaded⟩ := rest
            cases chosen
            obtain ⟨slot, present, number, location, alive, free⟩ := isResumable_iff.mp able
            obtain ⟨_, code, present', known, rfl⟩ := loadSlotCode_ok loaded
            cases present.symm.trans present'
            exact .resumes frame outer open_ caller slot code real waits present number location
              alive free known
          · simp only [able, Bool.false_eq_true, if_false] at rest
            cases rest
            exact .stays frame outer open_

/-! ## Steps -/

/-- A call enters its slot, runs it and returns. -/
theorem answer_ok {run : Run Unit} {call : Call} (done : answer run (some call) m = .ok () m') :
    ∃ entered ended returned, enter call.slot m = .ok () entered ∧ run entered = .ok () ended ∧
      returnToCaller ended = .ok () returned ∧
      m' = if call.opening then returned.forgetOpener else returned := by
  have nested : ∃ returned, runNested run call.slot m = .ok () returned ∧
      m' = if call.opening then returned.forgetOpener else returned := by
    unfold answer at done
    by_cases opening : call.opening = true
    · simp only [opening, if_true, Run.finally_] at done ⊢
      split at done
      next _ returned ran =>
        cases done
        exact ⟨returned, ran, rfl⟩
      next => cases done
    · simp only [opening, Bool.false_eq_true, if_false] at done ⊢
      exact ⟨m', done, rfl⟩
  obtain ⟨returned, ran, rfl⟩ := nested
  simp only [runNested, Run.bind_eq_ok_iff] at ran
  obtain ⟨_, entered, first, _, ended, second, third⟩ := ran
  exact ⟨entered, ended, returned, first, second, third, rfl⟩

/-- A step is an instruction without a call, or an instruction with its call. -/
theorem step_ok {run : Run Unit} {id : SlotId} (done : step run id m = .ok () m') :
    instruct id m = .ok none m' ∨
      ∃ call asked entered ended returned, instruct id m = .ok (some call) asked ∧
        enter call.slot asked = .ok () entered ∧ run entered = .ok () ended ∧
        returnToCaller ended = .ok () returned ∧
        m' = if call.opening then returned.forgetOpener else returned := by
  obtain ⟨call, asked, instructed, answered⟩ := Run.bind_eq_ok_iff.mp done
  cases call with
  | none =>
      cases answered
      exact .inl instructed
  | some call =>
      obtain ⟨entered, ended, returned, rest⟩ := answer_ok answered
      exact .inr ⟨call, asked, entered, ended, returned, instructed, rest⟩

theorem execute_ok {fuel : Nat} (done : execute (fuel + 1) m = .ok () m') :
    (m.current = none ∧ m' = m) ∨
      ∃ id next, m.current = some id ∧ step (execute fuel) id m = .ok () next ∧
        execute fuel next = .ok () m' := by
  simp only [execute, Run.bind_eq_ok_iff, Run.get_apply] at done
  obtain ⟨_, _, same, rest⟩ := done
  cases same
  cases running : m.current with
  | none =>
      rw [running] at rest
      cases rest
      exact .inl ⟨rfl, rfl⟩
  | some id =>
      simp only [running, Run.bind_eq_ok_iff] at rest
      obtain ⟨_, next, first, later⟩ := rest
      exact .inr ⟨id, next, rfl, first, later⟩

theorem execute_running {fuel : Nat} {id : SlotId} (running : m.current = some id)
    (done : execute (fuel + 1) m = .ok () m') :
    ∃ next, step (execute fuel) id m = .ok () next ∧ execute fuel next = .ok () m' := by
  rcases execute_ok done with ⟨none, _⟩ | ⟨_, next, running', first, rest⟩
  · cases running.symm.trans none
  · cases running.symm.trans running'
    exact ⟨next, first, rest⟩

theorem step_asking {run : Run Unit} {id : SlotId} {call : Call} {asked : Machine}
    (asks : instruct id m = .ok (some call) asked) (done : step run id m = .ok () m') :
    ∃ entered ended returned, enter call.slot asked = .ok () entered ∧
      run entered = .ok () ended ∧ returnToCaller ended = .ok () returned ∧
      m' = if call.opening then returned.forgetOpener else returned := by
  rcases step_ok done with alone | ⟨_, _, entered, ended, returned, asks', rest⟩
  · cases asks.symm.trans alone
  · cases asks.symm.trans asks'
    exact ⟨entered, ended, returned, rest⟩

theorem not_execute_zero : ¬ execute 0 m = .ok () m' := by
  intro done
  cases done

/-! ## The depth of calls -/

theorem invalidate_nothing (calls : CallStack) : calls.invalidate (fun _ => false) = calls := by
  simp [CallStack.invalidate]

/-- **What an effect does to a script that is not executing**: the calls in which it waits are
detached, or nothing but its freezes changes. -/
theorem Effect.bystander (effect : Effect m m') :
    ∃ waits, m'.calls = m.calls.invalidate waits ∧
      ∀ {id slot}, m.slots.get? id = some slot → slot.isDead = false → m.current ≠ some id →
        waits ⟨slot.number, slot.location, some id⟩ = true ∨
          ∃ count, m'.slots.get? id = some { slot with freezeCount := count } ∧
            m'.library.code? slot.number slot.location =
              m.library.code? slot.number slot.location := by
  cases effect with
  | aside =>
      refine ⟨fun _ => false, (invalidate_nothing _).symm, ?_⟩
      intro id slot present _ _
      exact .inr ⟨slot.freezeCount, present, rfl⟩
  | tune change =>
      refine ⟨fun _ => false, (invalidate_nothing _).symm, ?_⟩
      intro id slot present _ idle
      exact .inr ⟨slot.freezeCount, by rw [changeCurrent_get?, if_neg idle, present], rfl⟩
  | yield offset _ wait =>
      refine ⟨fun _ => false, (invalidate_nothing _).symm, ?_⟩
      intro id slot present _ idle
      exact .inr ⟨slot.freezeCount, by rw [changeCurrent_get?, if_neg idle, present], rfl⟩
  | finish =>
      obtain ⟨events, same⟩ := stopCurrent_eq m
      rw [same]
      refine ⟨fun _ => false, (invalidate_nothing _).symm, ?_⟩
      intro id slot present _ idle
      exact .inr ⟨slot.freezeCount, by rw [changeCurrent_get?, if_neg idle, present], rfl⟩
  | stop test waits agree =>
      refine ⟨waits, rfl, ?_⟩
      intro id slot present alive _
      by_cases stopped : test slot = true
      · exact .inl ((agree slot (some id) alive).symm.trans stopped)
      · exact .inr ⟨slot.freezeCount, by simp [stopWhere_get?, present, stopped], rfl⟩
  | refreeze slots kept events =>
      refine ⟨fun _ => false, (invalidate_nothing _).symm, ?_⟩
      intro id slot present _ _
      obtain ⟨freeze, same⟩ := kept id
      rw [present] at same
      exact .inr ⟨freeze slot, same, rfl⟩
  | enterRoom number loaded known =>
      refine ⟨fun frame => frame.location.isRoomOwned, rfl, ?_⟩
      intro id slot present alive _
      by_cases leaves : slot.location.isRoomOwned = true
      · exact .inl leaves
      · refine .inr ⟨slot.freezeCount, ?_, ?_⟩
        · change m.stopRoomScripts.slots.get? id = _
          simp [stopRoomScripts, stopWhere_get?, present, leaves]
        · exact Library.code?_room _ _ _ (Bool.eq_false_iff.mpr leaves)

theorem Effect.calls_length (effect : Effect m m') : m'.calls.length = m.calls.length := by
  obtain ⟨waits, detached, _⟩ := effect.bystander
  rw [detached, CallStack.invalidate, List.length_map]

theorem Effects.calls_length (effects : Effects m m') : m'.calls.length = m.calls.length := by
  induction effects with
  | refl => rfl
  | tail _ effect ih => exact effect.calls_length.trans ih

theorem Claimed.calls {id : SlotId} (claimed : Claimed m id m') : m'.calls = m.calls := by
  cases claimed
  rfl

theorem Prepared.calls_length {slot : Option SlotId} (prepared : Prepared m slot m') :
    m'.calls.length = m.calls.length := by
  cases slot with
  | none => exact Effects.calls_length prepared
  | some id =>
      obtain ⟨middle, effects, claimed⟩ := prepared
      rw [claimed.calls]
      exact Effects.calls_length effects

theorem Leap.calls {operation : Operation} {operands : Operands operation.shape}
    (leap : Leap operation operands m m') : m'.calls = m.calls := by
  cases leap <;> rfl

theorem instruct_calls_length {id : SlotId} {call : Option Call}
    (done : instruct id m = .ok call m') : m'.calls.length = m.calls.length := by
  obtain ⟨_, _, _, after, _, _, _, performed⟩ := instruct_ok done
  rcases perform_ok performed with ⟨_, leap⟩ | prepared
  · rw [leap.calls]
    rfl
  · exact prepared.calls_length

theorem enter_calls_length {id : SlotId} (done : enter id m = .ok () m') :
    m'.calls.length = m.calls.length + 1 := by
  obtain ⟨_, _, _, _, rfl⟩ := enter_ok done
  rfl

theorem enter_current {id : SlotId} (done : enter id m = .ok () m') : m'.current = some id := by
  obtain ⟨_, _, _, _, rfl⟩ := enter_ok done
  rfl

theorem Returned.calls_length (returned : Returned m m') :
    m'.calls.length = m.calls.length - 1 := by
  cases returned with
  | bare empty => simp [empty]
  | stays frame outer open_ => simp [open_]
  | resumes frame outer open_ => simp [open_]

/-! ## Frames, counted from the outermost call -/

/-- The frame of the call at a depth. -/
def frameAt (m : Machine) (depth : Nat) : Option CallFrame := m.calls.reverse[depth]?

theorem frameAt_eq_some_lt {depth : Nat} {frame : CallFrame} (found : m.frameAt depth = some frame) :
    depth < m.calls.length := by
  obtain ⟨inside, _⟩ := List.getElem?_eq_some_iff.mp found
  simpa using inside

theorem frameAt_of_cons {frame : CallFrame} {outer : CallStack} (open_ : m.calls = frame :: outer)
    (depth : Nat) :
    m.frameAt depth = if depth = outer.length then some frame else outer.reverse[depth]? := by
  rw [frameAt, open_, List.reverse_cons]
  by_cases last : depth = outer.length
  · simp [last]
  · rw [if_neg last]
    rcases Nat.lt_or_gt_of_ne last with less | more
    · exact List.getElem?_append_left (by simpa using less)
    · rw [List.getElem?_eq_none (by simp; omega), List.getElem?_eq_none (by simp; omega)]

/-- The frames after some of the calls have been detached. -/
theorem frameAt_of_invalidate {waits : CallFrame → Bool} (detached : m'.calls = m.calls.invalidate waits)
    (depth : Nat) :
    m'.frameAt depth =
      (m.frameAt depth).map fun frame => if waits frame then frame.invalidate else frame := by
  simp only [frameAt, detached, CallStack.invalidate, ← List.map_reverse, List.getElem?_map]

/-! ## Passages -/

/-- The machines that come up while code is executed: between two instructions, in the
script that executes first and in the scripts it calls. -/
inductive Passes : (fuel : Nat) → Machine → Machine → Prop where
  | here (fuel : Nat) (m : Machine) : Passes fuel m m
  /-- In the script that the next instruction calls. -/
  | inside {fuel : Nat} {m asked entered moment : Machine} {id : SlotId} {call : Call}
      (running : m.current = some id) (asks : instruct id m = .ok (some call) asked)
      (enters : enter call.slot asked = .ok () entered) (rest : Passes fuel entered moment) :
      Passes (fuel + 1) m moment
  /-- After the next instruction. -/
  | later {fuel : Nat} {m next moment : Machine} {id : SlotId} (running : m.current = some id)
      (steps : step (execute fuel) id m = .ok () next) (rest : Passes fuel next moment) :
      Passes (fuel + 1) m moment

/-- An instruction that makes a call claims the called slot last. -/
theorem instruct_asks {id : SlotId} {call : Call} {asked : Machine}
    (asks : instruct id m = .ok (some call) asked) :
    ∃ after middle, Effects (m.fetched id after) middle ∧ Claimed middle call.slot asked := by
  obtain ⟨_, _, _, after, _, _, _, performed⟩ := instruct_ok asks
  rcases perform_ok performed with ⟨none, _⟩ | ⟨middle, effects, claimed⟩
  · cases none
  · exact ⟨after, middle, effects, claimed⟩

/-- What fetching, effects and leaps keep is kept by instructions without a call, and up to the
claim by instructions with one. -/
structure Stable (Holds : Machine → Prop) : Prop where
  fetch : ∀ {m : Machine} {id : SlotId} (after : Nat), Holds m → m.current = some id →
    Holds (m.fetched id after)
  effect : ∀ {m m' : Machine}, Holds m → Effect m m' → Holds m'
  leap : ∀ {m m' : Machine} {operation : Operation} {operands : Operands operation.shape},
    Holds m → Leap operation operands m m' → Holds m'

namespace Stable

variable {Holds : Machine → Prop}

theorem effects (stable : Stable Holds) (holds : Holds m) (effects : Effects m m') : Holds m' := by
  induction effects with
  | refl => exact holds
  | tail _ effect ih => exact stable.effect ih effect

theorem instruct (stable : Stable Holds) {id : SlotId} (holds : Holds m)
    (running : m.current = some id) (done : Machine.instruct id m = .ok none m') : Holds m' := by
  obtain ⟨_, _, _, after, _, _, _, performed⟩ := instruct_ok done
  have fetched := stable.fetch after holds running
  rcases perform_ok performed with ⟨_, leap⟩ | effects
  · exact stable.leap fetched leap
  · exact stable.effects fetched effects

theorem asks (stable : Stable Holds) {id : SlotId} {call : Call} {asked : Machine}
    (holds : Holds m) (running : m.current = some id)
    (asks : Machine.instruct id m = .ok (some call) asked) :
    ∃ middle, Holds middle ∧ Claimed middle call.slot asked := by
  obtain ⟨after, middle, effects, claimed⟩ := instruct_asks asks
  exact ⟨middle, stable.effects (stable.fetch after holds running) effects, claimed⟩

end Stable

/-- What instructions, calls and returns keep, as long as calls up to a floor stay open. -/
structure Kept (floor : Nat) (Holds : Machine → Prop) : Prop where
  instruct : ∀ {m m' : Machine} {id : SlotId}, Holds m → m.current = some id →
    Machine.instruct id m = .ok none m' → Holds m'
  call : ∀ {m asked entered : Machine} {id : SlotId} {call : Call}, Holds m →
    m.current = some id → Machine.instruct id m = .ok (some call) asked →
    enter call.slot asked = .ok () entered → Holds entered
  back : ∀ {m m' : Machine}, Holds m → floor < m.calls.length → Returned m m' → Holds m'
  forget : ∀ {m : Machine}, Holds m → Holds m.forgetOpener

namespace Kept

variable {floor : Nat} {Holds : Machine → Prop}

/-- Returning from a call, after which the cutscene may be no longer just being opened. -/
theorem answered (kept : Kept floor Holds) {call : Call} {ended returned : Machine}
    (holds : Holds ended) (deep : floor < ended.calls.length)
    (back : returnToCaller ended = .ok () returned) :
    Holds (if call.opening then returned.forgetOpener else returned) := by
  have after : Holds returned := kept.back holds deep (returnToCaller_ok back)
  split
  · exact kept.forget after
  · exact after

/-- One step, with the call it makes, keeps what the execution of the call keeps. -/
theorem step (kept : Kept floor Holds) {run : Run Unit}
    (runs : ∀ {m m' : Machine}, Holds m → floor ≤ m.calls.length → run m = .ok () m' →
      Holds m' ∧ m'.calls.length = m.calls.length)
    {id : SlotId} (holds : Holds m) (deep : floor ≤ m.calls.length)
    (running : m.current = some id) (done : Machine.step run id m = .ok () m') :
    Holds m' ∧ m'.calls.length = m.calls.length := by
  rcases step_ok done with alone | ⟨call, asked, entered, ended, returned, asks, enters, ran, back,
    rfl⟩
  · exact ⟨kept.instruct holds running alone, instruct_calls_length alone⟩
  · have asked_depth := instruct_calls_length asks
    have entered_depth := enter_calls_length enters
    obtain ⟨inner, ended_depth⟩ := runs (kept.call holds running asks enters) (by omega) ran
    have returned_depth := (returnToCaller_ok back).calls_length
    refine ⟨kept.answered inner (by omega) back, ?_⟩
    split
    · change returned.calls.length = _
      omega
    · omega

/-- **A whole execution keeps** what its steps keep, and ends with as many open calls as it
began with. -/
theorem execute (kept : Kept floor Holds) {fuel : Nat} (holds : Holds m)
    (deep : floor ≤ m.calls.length) (done : Machine.execute fuel m = .ok () m') :
    Holds m' ∧ m'.calls.length = m.calls.length := by
  induction fuel generalizing m m' with
  | zero => exact absurd done not_execute_zero
  | succ fuel ih =>
      rcases execute_ok done with ⟨_, rfl⟩ | ⟨id, next, running, first, rest⟩
      · exact ⟨holds, rfl⟩
      · obtain ⟨after, depth⟩ := kept.step ih holds deep running first
        obtain ⟨last, depth'⟩ := ih after (by omega) rest
        exact ⟨last, depth'.trans depth⟩

/-- What steps keep holds in every passage, and no call below is left. -/
theorem passes (kept : Kept floor Holds) {fuel : Nat} {moment : Machine} (holds : Holds m)
    (deep : floor ≤ m.calls.length) (passes : Passes fuel m moment) :
    Holds moment ∧ m.calls.length ≤ moment.calls.length := by
  induction passes with
  | here => exact ⟨holds, Nat.le_refl _⟩
  | inside running asks enters _ ih =>
      have asked_depth := instruct_calls_length asks
      have entered_depth := enter_calls_length enters
      obtain ⟨inner, depth⟩ := ih (kept.call holds running asks enters) (by omega)
      exact ⟨inner, by omega⟩
  | later running steps _ ih =>
      obtain ⟨after, depth⟩ := kept.step kept.execute holds deep running steps
      obtain ⟨last, depth'⟩ := ih after (by omega)
      exact ⟨last, by omega⟩

end Kept

/-- The property that always holds. -/
theorem kept_true : Kept 0 fun _ => True :=
  ⟨fun _ _ _ => trivial, fun _ _ _ _ => trivial, fun _ _ _ => trivial, fun _ => trivial⟩

theorem execute_calls_length {fuel : Nat} (done : execute fuel m = .ok () m') :
    m'.calls.length = m.calls.length :=
  (kept_true.execute trivial (Nat.zero_le _) done).2

theorem step_calls_length {fuel : Nat} {id : SlotId} (running : m.current = some id)
    (done : step (execute fuel) id m = .ok () m') : m'.calls.length = m.calls.length :=
  (kept_true.step kept_true.execute trivial (Nat.zero_le _) running done).2

theorem execute_current {fuel : Nat} (done : execute fuel m = .ok () m') : m'.current = none := by
  induction fuel generalizing m with
  | zero => exact absurd done not_execute_zero
  | succ fuel ih =>
      rcases execute_ok done with ⟨rest, rfl⟩ | ⟨_, _, _, _, rest⟩
      · exact rest
      · exact ih rest

namespace Passes

variable {fuel : Nat} {moment : Machine}

/-- What holds in a passage holds at the end of the execution. -/
theorem onward {floor : Nat} {Holds : Machine → Prop} (kept : Kept floor Holds)
    (passes : Passes fuel m moment) (deep : floor ≤ m.calls.length)
    (done : execute fuel m = .ok () m') (holds : Holds moment) : Holds m' := by
  induction passes generalizing m' with
  | here => exact (kept.execute holds deep done).1
  | inside running asks enters _ ih =>
      obtain ⟨next, first, rest⟩ := execute_running running done
      obtain ⟨entered, ended, returned, enters', ran, back, rfl⟩ := step_asking asks first
      cases enters.symm.trans enters'
      have asked_depth := instruct_calls_length asks
      have entered_depth := enter_calls_length enters
      have ended_depth := execute_calls_length ran
      have step_depth := step_calls_length running first
      have inner := ih (by omega) ran holds
      exact (kept.execute (kept.answered inner (by omega) back) (by omega) rest).1
  | later running steps _ ih =>
      obtain ⟨next, first, rest⟩ := execute_running running done
      cases steps.symm.trans first
      have depth := step_calls_length running first
      exact ih (by omega) rest holds

/-- A call that is asked for in a passage is entered, and the entered script is a passage. -/
theorem enters {id : SlotId} {call : Call} {asked : Machine} (passes : Passes fuel m moment)
    (done : execute fuel m = .ok () m') (running : moment.current = some id)
    (asks : instruct id moment = .ok (some call) asked) :
    ∃ entered, enter call.slot asked = .ok () entered ∧ Passes fuel m entered := by
  induction passes generalizing m' with
  | here fuel m =>
      cases fuel with
      | zero => exact absurd done not_execute_zero
      | succ fuel =>
          obtain ⟨next, first, _⟩ := execute_running running done
          obtain ⟨entered, _, _, enters, _⟩ := step_asking asks first
          exact ⟨entered, enters, .inside running asks enters (.here fuel entered)⟩
  | inside running' asks' enters' _ ih =>
      obtain ⟨next, first, _⟩ := execute_running running' done
      obtain ⟨_, _, _, enters'', ran, _⟩ := step_asking asks' first
      cases enters'.symm.trans enters''
      obtain ⟨entered, enters, passes⟩ := ih ran running asks
      exact ⟨entered, enters, .inside running' asks' enters' passes⟩
  | later running' steps _ ih =>
      obtain ⟨_, first, rest⟩ := execute_running running' done
      cases steps.symm.trans first
      obtain ⟨entered, enters, passes⟩ := ih rest running asks
      exact ⟨entered, enters, .later running' steps passes⟩

end Passes

end Adventure.Machine
