import Adventure.Proofs.Machine.Sited

/-!
# Returning to the caller

When a call ends, the script that waits for it goes on if its slot still carries the same
number at the same place, alive and not frozen.  That test does not look at the script
itself, so it would be passed as well by a new script with the same number in the same
slot.  This module shows that it never is: whoever stops a waiting script detaches its
call, and a detached call returns to nobody.

The argument follows one call.  As long as its frame is not detached, the caller's slot
is the one that was left, up to freezes (`Untouched`); once it is detached, it stays so
(`Detached`).  Effects, calls and returns lead from one of these to one of these.
-/

set_option autoImplicit false

namespace Adventure.Machine

variable {m m' : Machine}

/-! ## The waiting script -/

theorem callFrame_slot {caller : SlotId} (waits : m.callFrame.slot = some caller) :
    m.current = some caller := by
  unfold callFrame at waits
  cases running : m.current with
  | none =>
      rw [running] at waits
      cases waits
  | some id =>
      simp only [running] at waits
      split at waits
      · exact waits
      · cases waits

/-- The script of a slot waits in the call at a depth, as it was left: nothing but its freezes
has changed, it is not executing, and it waits in no other call above. -/
structure Untouched (depth : Nat) (caller : SlotId) (left : Slot) (code : Code) (m : Machine) :
    Prop where
  frame : m.frameAt depth = some ⟨left.number, left.location, some caller⟩
  slot : ∃ count, m.slots.get? caller = some { left with freezeCount := count }
  code : m.library.code? left.number left.location = some code
  idle : m.current ≠ some caller
  once : ∀ above frame, depth < above → m.frameAt above = some frame → frame.slot ≠ some caller

/-- The script waits as it was left, or its call has been detached. -/
def Waits (depth : Nat) (caller : SlotId) (left : Slot) (code : Code) (m : Machine) : Prop :=
  Untouched depth caller left code m ∨ Detached depth m

section Waiting

variable {depth : Nat} {caller : SlotId} {left : Slot} {code : Code}

namespace Untouched

theorem of_same (untouched : Untouched depth caller left code m) (calls : m'.calls = m.calls)
    (slot : m'.slots.get? caller = m.slots.get? caller) (library : m'.library = m.library)
    (idle : m'.current ≠ some caller) : Untouched depth caller left code m' := by
  have frames : ∀ above, m'.frameAt above = m.frameAt above := by
    intro above
    rw [frameAt, calls, frameAt]
  refine ⟨(frames depth).trans untouched.frame, ?_, ?_, idle, ?_⟩
  · rw [slot]
    exact untouched.slot
  · rw [library]
    exact untouched.code
  · intro above frame deeper found
    exact untouched.once above frame deeper ((frames above).symm.trans found)

theorem pop (untouched : Untouched depth caller left code m) {frame : CallFrame}
    {outer : CallStack} (open_ : m.calls = frame :: outer) (deep : depth < outer.length)
    (calls : m'.calls = outer) (slots : m'.slots = m.slots) (library : m'.library = m.library)
    (idle : m'.current ≠ some caller) : Untouched depth caller left code m' := by
  have frames : ∀ above, above ≠ outer.length → m'.frameAt above = m.frameAt above := by
    intro above distinct
    rw [frameAt_of_cons open_, if_neg distinct, frameAt, calls]
  refine ⟨(frames depth (by omega)).trans untouched.frame, ?_, ?_, idle, ?_⟩
  · rw [slots]
    exact untouched.slot
  · rw [library]
    exact untouched.code
  · intro above other deeper found
    have less := frameAt_eq_some_lt found
    rw [calls] at less
    exact untouched.once above other deeper ((frames above (by omega)).symm.trans found)

/-- An effect leaves a waiting script as it is, or detaches its call. -/
theorem effect (alive : left.isDead = false) (untouched : Untouched depth caller left code m)
    (effect : Effect m m') : Waits depth caller left code m' := by
  obtain ⟨waits, calls, spared⟩ := effect.bystander
  obtain ⟨count, present⟩ := untouched.slot
  have frames := frameAt_of_invalidate calls
  by_cases hit : waits ⟨left.number, left.location, some caller⟩ = true
  · refine .inr ⟨_, (frames depth).trans (congrArg _ untouched.frame), ?_⟩
    simp [hit, CallFrame.invalidate]
  rcases spared present alive untouched.idle with hit' | ⟨count', present', code'⟩
  · exact absurd hit' hit
  refine .inl ⟨?_, ⟨count', present'⟩, code'.trans untouched.code, ?_, ?_⟩
  · rw [frames, untouched.frame]
    simp [hit]
  · rcases effect.current with none | same
    · simp [none]
    · rw [same]
      exact untouched.idle
  · intro above frame deeper found
    rw [frames] at found
    obtain ⟨before, earlier, rfl⟩ := Option.map_eq_some_iff.mp found
    split
    · simp [CallFrame.invalidate]
    · exact untouched.once above before deeper earlier

/-- Another script that is called lets the waiting script wait. -/
theorem enter (untouched : Untouched depth caller left code m) {id : SlotId}
    (distinct : id ≠ caller) (done : Machine.enter id m = .ok () m') :
    Untouched depth caller left code m' := by
  obtain ⟨_, _, _, _, rfl⟩ := enter_ok done
  have less := frameAt_eq_some_lt untouched.frame
  refine ⟨?_, ?_, untouched.code, fun same => distinct (Option.some.inj same), ?_⟩
  · rw [frameAt_of_cons rfl, if_neg (by omega)]
    exact untouched.frame
  · obtain ⟨count, present⟩ := untouched.slot
    refine ⟨count, ?_⟩
    change m.noted.slots.get? caller = _
    rw [noted, changeCurrent_get?, if_neg untouched.idle, present]
  · intro above frame deeper found
    rw [frameAt_of_cons rfl] at found
    split at found
    · cases found
      exact fun same => untouched.idle (callFrame_slot same)
    · exact untouched.once above frame deeper found

/-- When a call above returns, the waiting script still waits. -/
theorem returned (untouched : Untouched depth caller left code m)
    (deep : depth + 1 < m.calls.length) (returned : Returned m m') :
    Untouched depth caller left code m' := by
  cases returned with
  | bare empty => simp [empty] at deep
  | stays frame outer open_ =>
      rw [open_, List.length_cons] at deep
      exact untouched.pop open_ (by omega) rfl rfl rfl (by simp)
  | resumes frame outer open_ other slot code real waits =>
      rw [open_, List.length_cons] at deep
      have top : m.frameAt outer.length = some frame := by
        rw [frameAt_of_cons open_, if_pos rfl]
      refine untouched.pop open_ (by omega) rfl rfl rfl ?_
      intro same
      cases same
      exact untouched.once _ frame (by omega) top waits

end Untouched

namespace Waits

theorem stable (alive : left.isDead = false) : Stable (Waits depth caller left code) where
  fetch after waits running := by
    rcases waits with untouched | detached
    · refine .inl (untouched.of_same rfl ?_ rfl untouched.idle)
      have distinct : ¬ _ = caller := fun same => untouched.idle (same ▸ running)
      simp [fetched, changeSlot, Bank.get?_modify, distinct]
    · exact .inr (detached.of_calls rfl)
  effect waits effect := by
    rcases waits with untouched | detached
    · exact untouched.effect alive effect
    · exact .inr (detached.effect effect)
  leap waits leap := by
    rcases waits with untouched | detached
    · refine .inl ?_
      cases leap with
      | jump => exact untouched.of_same rfl rfl rfl untouched.idle
      | jumpIfZero => exact untouched.of_same rfl rfl rfl untouched.idle
      | jumpIfNotZero => exact untouched.of_same rfl rfl rfl untouched.idle
      | arm => exact untouched.of_same rfl rfl rfl untouched.idle
    · exact .inr (detached.of_calls leap.calls)

theorem kept (alive : left.isDead = false) :
    Kept (depth + 1) (Waits depth caller left code) where
  instruct := (stable alive).instruct
  call := by
    intro m asked entered id call waits running asks enters
    obtain ⟨middle, untouched | detached, claimed⟩ := (stable alive).asks waits running asks
    · obtain ⟨⟨free, present, dead⟩, _⟩ := claimed.slot
      -- a slot that is claimed runs nothing, and the waiting script is alive
      have distinct : call.slot ≠ caller := by
        rintro rfl
        obtain ⟨count, present'⟩ := untouched.slot
        cases present.symm.trans present'
        cases dead.symm.trans alive
      have still := untouched.of_same claimed.calls (claimed.other distinct) claimed.library
        (claimed.current ▸ untouched.idle)
      exact .inl (still.enter distinct enters)
    · exact .inr ((detached.of_calls claimed.calls).enter enters)
  back waits deep returned := by
    rcases waits with untouched | detached
    · exact .inl (untouched.returned deep returned)
    · exact .inr (Detached.kept.back detached deep returned)
  forget waits := by
    rcases waits with untouched | detached
    · exact .inl (untouched.of_same rfl rfl rfl untouched.idle)
    · exact .inr (detached.of_calls rfl)

end Waits

end Waiting

/-! ## The call -/

/-- The machines that come up during a call of a slot. -/
def During (fuel : Nat) (id : SlotId) (asked moment : Machine) : Prop :=
  ∃ entered, enter id asked = .ok () entered ∧ Passes fuel entered moment

theorem runNested_ok {run : Run Unit} {id : SlotId} {last : Machine}
    (done : runNested run id m = .ok () last) :
    ∃ entered ended, enter id m = .ok () entered ∧ run entered = .ok () ended ∧
      Returned ended last := by
  simp only [runNested, Run.bind_eq_ok_iff] at done
  obtain ⟨_, entered, first, _, ended, second, third⟩ := done
  exact ⟨entered, ended, first, second, returnToCaller_ok third⟩

/-- When a call is entered, the caller waits in it. -/
theorem Untouched.of_enter {caller id : SlotId} {slot : Slot} {code : Code}
    (calling : m.current = some caller) (present : m.slots.get? caller = some slot)
    (known : m.library.code? slot.number slot.location = some code) (distinct : id ≠ caller)
    (done : Machine.enter id m = .ok () m') :
    Untouched m.calls.length caller { slot with offset := m.pc } code m' := by
  obtain ⟨_, _, _, _, rfl⟩ := enter_ok done
  refine ⟨?_, ⟨slot.freezeCount, ?_⟩, known, fun same => distinct (Option.some.inj same), ?_⟩
  · rw [frameAt_of_cons rfl, if_pos rfl, callFrame, calling]
    simp only [present]
  · change m.noted.slots.get? caller = _
    rw [noted, changeCurrent_get?, if_pos calling, present]
    rfl
  · intro above frame deeper found
    have less := frameAt_eq_some_lt found
    change above < (_ :: m.calls).length at less
    rw [List.length_cons] at less
    omega

/-- A call that returns to its caller has left it untouched at every moment. -/
theorem untouched_of_resumed {fuel depth : Nat} {caller : SlotId} {left : Slot} {code : Code}
    {entered ended last moment : Machine} (alive : left.isDead = false)
    (untouched : Untouched depth caller left code entered)
    (deep : entered.calls.length = depth + 1) (ran : execute fuel entered = .ok () ended)
    (returned : Returned ended last) (back : last.current = some caller)
    (passes : Passes fuel entered moment) : Untouched depth caller left code moment := by
  have ended_depth := execute_calls_length ran
  rcases ((Waits.kept alive).passes (.inl untouched) (by omega) passes).1 with still | detached
  · exact still
  · have lost : Detached depth ended := passes.onward Detached.kept (by omega) ran detached
    cases (returned.current_none lost (by omega)).symm.trans back

/-- The passage at the end of an execution. -/
theorem Passes.last {fuel : Nat} (done : execute fuel m = .ok () m') : Passes fuel m m' := by
  induction fuel generalizing m with
  | zero => exact absurd done not_execute_zero
  | succ fuel ih =>
      rcases execute_ok done with ⟨_, rfl⟩ | ⟨id, next, running, first, rest⟩
      · exact .here _ _
      · exact .later running first (ih rest)

/-- What the return to an untouched caller restores. -/
theorem Returned.untouched {depth : Nat} {caller : SlotId} {left : Slot} {code : Code}
    {last : Machine} (returned : Returned m last)
    (untouched : Untouched depth caller left code m) (back : last.current = some caller) :
    last.slots.get? caller = some { left with freezeCount := 0 } ∧ last.pc = left.offset ∧
      last.code = code := by
  cases returned with
  | bare => cases back
  | stays => cases back
  | resumes frame outer open_ other slot own real waits present number location alive free known =>
      cases back
      obtain ⟨count, present'⟩ := untouched.slot
      cases present.symm.trans present'
      cases known.symm.trans untouched.code
      change count = 0 at free
      subst free
      exact ⟨present, rfl, rfl⟩

/-! ## Calls of a game -/

/-- A script that calls another is alive and reads its own code, and the called slot is
another one. -/
theorem Asked.caller {fuel : Nat} {order : Order} {call : Call} {asked : Machine}
    {caller : SlotId} (rest : m.current = none) (asks : Asked fuel m order call asked)
    (calling : asked.current = some caller) :
    call.slot ≠ caller ∧ ∃ slot, asked.slots.get? caller = some slot ∧ slot.isDead = false ∧
      asked.library.code? slot.number slot.location = some asked.code := by
  cases asks with
  | host asks =>
      cases (Order.prepare_rest rest asks).symm.trans calling
  | script during running asks =>
      have begins := (Sited.lasting fun _ => True).moment (.of_rest rest) rest trivial during
      obtain ⟨middle, sited, claimed⟩ := Sited.stable.asks begins running asks
      exact ⟨sited.unclaimed claimed (claimed.current.symm.trans calling),
        sited.claimed claimed caller calling⟩

/-- **A call that returns to its caller resumes the very script that called, untouched.**
Throughout the call the caller's slot is alive and as it was left, up to freezes, and no
script is started in it.  Afterwards it is as it was left and not frozen, and the machine
reads the caller's code where the caller left it. -/
theorem runNested_resumes_caller {Allowed : Order → Prop} {start m asked last : Machine}
    {order : Order} {call : Call} {outer fuel : Nat} {caller : SlotId}
    (rest : start.current = none) (played : Played Allowed start m)
    (asks : Asked outer m order call asked) (calling : asked.current = some caller)
    (done : runNested (execute fuel) call.slot asked = .ok () last)
    (back : last.current = some caller) :
    ∃ slot, asked.slots.get? caller = some slot ∧ slot.isDead = false ∧
      (∀ moment, During fuel call.slot asked moment →
        (∃ count, moment.slots.get? caller =
          some { slot with offset := asked.pc, freezeCount := count }) ∧
        ∀ id other next, moment.current = some id →
          instruct id moment = .ok (some other) next → other.slot ≠ caller) ∧
      last.slots.get? caller = some { slot with offset := asked.pc, freezeCount := 0 } ∧
      last.pc = asked.pc ∧ last.code = asked.code := by
  obtain ⟨distinct, slot, present, alive, known⟩ := asks.caller (played.rest rest) calling
  obtain ⟨entered, ended, enters, ran, returned⟩ := runNested_ok done
  have begins := Untouched.of_enter calling present known distinct enters
  have always : ∀ {moment}, Passes fuel entered moment →
      Untouched asked.calls.length caller { slot with offset := asked.pc } asked.code moment :=
    untouched_of_resumed alive begins (enter_calls_length enters) ran returned back
  refine ⟨slot, present, alive, ?_, returned.untouched (always (.last ran)) back⟩
  rintro moment ⟨entered', enters', passes⟩
  cases enters.symm.trans enters'
  refine ⟨(always passes).slot, ?_⟩
  intro id other next running asks'
  obtain ⟨deeper, enters'', passes'⟩ := passes.enters ran running asks'
  obtain ⟨_, _, _, _, rfl⟩ := enter_ok enters''
  rintro rfl
  exact (always passes').idle rfl

/-- A game with two scripts, of which the first calls the second. -/
def oneCall : Machine :=
  .boot .standard ⟨[(1, [0x07, 2, 0, 0, 0, 0x01]), (2, [0x01])], [], [], .empty⟩ []

theorem runNested_resumes_oneCall : ∃ (asked last : Machine) (slot : Slot),
    Asked 9 oneCall (.startScript 1 false false []) ⟨2, false⟩ asked ∧
      asked.current = some 1 ∧ runNested (execute 9) 2 asked = .ok () last ∧
      last.slots.get? 1 = some { slot with offset := asked.pc, freezeCount := 0 } ∧
      last.pc = asked.pc ∧ last.code = asked.code := by
  let order : Order := .startScript 1 false false []
  have prepared : order.prepare oneCall = .ok (some ⟨1, false⟩) _ :=
    Run.eq_ok_of_value? (by decide +kernel)
  have entered : enter 1 (Run.last order.prepare oneCall) = .ok () _ :=
    Run.eq_ok_of_value? (by decide +kernel)
  have asks : instruct 1 (Run.last (enter 1) (Run.last order.prepare oneCall)) =
      .ok (some ⟨2, false⟩) _ := Run.eq_ok_of_value? (by decide +kernel)
  have done : runNested (execute 9) 2 _ = .ok () _ :=
    Run.eq_ok_of_value? (m := Run.last (instruct 1)
      (Run.last (enter 1) (Run.last order.prepare oneCall))) (by decide +kernel)
  have asked : Asked 9 oneCall order ⟨2, false⟩ _ :=
    .script (.called prepared entered (.here 9 _)) (by decide +kernel) asks
  have calling : (Run.last (instruct 1)
      (Run.last (enter 1) (Run.last order.prepare oneCall))).current = some 1 := by decide +kernel
  obtain ⟨slot, _, _, _, restored⟩ := runNested_resumes_caller rfl
    (.begin : Played (fun _ => True) oneCall oneCall) asked calling done
    (by decide +kernel)
  exact ⟨_, _, slot, asked, calling, done, restored⟩

end Adventure.Machine
