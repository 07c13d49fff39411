import Adventure.Proofs.Machine.Resume

/-!
# Deeds

Orders are what a host asks of a game as it is played.  A host can do a few things more with
a game at rest: give the slots their turns without a tick, let delays pass, arm and disarm
an override by hand, or set what scripts do not consist of.  `Deed` lists all of it, and
`Hosted` the games that deeds lead to.

Many facts about a game speak of nothing but which script each slot carries.  Most of what a
machine does is `Quiet` for them.  `Enduring` lists the little that is left to show: what an
effect does, and what the start of a script does.  A start may be shown for fair moments
only; then the fact lasts as long as every moment is fair.
-/

set_option autoImplicit false

namespace Adventure

/-- The turns up to a slot are the turns before it and its own. -/
theorem Run.forM_range_succ (act : Nat → Run PUnit) (count : Nat) :
    (List.range (count + 1)).forM act = (List.range count).forM act >>= fun _ => act count := by
  rw [List.range_succ, List.forM_eq_forM, List.forM_append]
  simp

namespace Machine

variable {m m' : Machine}

/-- The machine at the front of a pass, in which no slot has had its turn. -/
def unturned (m : Machine) : Machine :=
  { m with slots := m.slots.map fun slot => { slot with executed := false }, current := none }

/-- What a host can do with a game at rest. -/
inductive Deed where
  | order (order : Order)
  /-- Every slot that is ready gets one turn. -/
  | pass
  /-- An amount of every running delay passes. -/
  | wait (amount : Int)
  | stopCurrent
  | beginOverride
  | endOverride
  /-- What scripts do not consist of is set. -/
  | arrange (hooks : CutsceneHooks) (vars : Bank Int 256) (room : Room) (cast : Cast)
      (ego : Option UInt8) (events : List String)

namespace Deed

/-- Does a deed. -/
def carryOut (fuel : Nat) : Deed → Run Unit
  | order given => given.carryOut fuel
  | pass => runScripts fuel
  | wait amount => changeChecked (·.decreaseDelay amount)
  | stopCurrent => modify Machine.stopCurrent
  | beginOverride => Machine.beginOverride
  | endOverride => modify Machine.endOverride
  | arrange hooks vars room cast ego events =>
    modify fun m =>
      { m with
        hooks := hooks
        vars := vars
        room := room
        cast := cast
        ego := ego
        events := events }

/-- The deeds that give turns, up to the first turn. -/
inductive Opens (m : Machine) : Deed → Machine → Prop where
  | tick {begun : Machine} (begins : beginTick m = .ok () begun) : Opens m (.order .tick) begun
  | pass : Opens m .pass m.unturned

theorem Opens.rest {deed : Deed} {begun : Machine} (opens : Opens m deed begun) :
    begun.current = none := by
  cases opens with
  | tick begins => rw [beginTick_ok begins]
  | pass => rfl

/-- The machines that come up in a deed while a script executes. -/
inductive Moment (fuel : Nat) (m : Machine) : Deed → Machine → Prop where
  /-- In the script that an order starts. -/
  | called {order : Order} {call : Call} {asked entered moment : Machine}
      (asks : order.prepare m = .ok (some call) asked)
      (enters : enter call.slot asked = .ok () entered) (passes : Passes fuel entered moment) :
      Moment fuel m (.order order) moment
  /-- In the turn of a slot. -/
  | turn {deed : Deed} {begun before loaded moment : Machine} {id : SlotId}
      (opens : Opens m deed begun) (inside : id < 80)
      (earlier : (List.range id).forM (takeTurn fuel) begun = .ok () before)
      (ready : before.isReady id = true)
      (loads : loadSlotCode id { before with current := some id } = .ok () loaded)
      (passes : Passes fuel loaded moment) : Moment fuel m deed moment

/-- A deed that gives turns ends with the last of them, up to the moves of actors. -/
theorem carryOut_turns {deed : Deed} {fuel : Nat} (turning : deed = .order .tick ∨ deed = .pass)
    (done : deed.carryOut fuel m = .ok () m') :
    ∃ begun turned cast events, Opens m deed begun ∧
      (List.range 80).forM (takeTurn fuel) begun = .ok () turned ∧
      m' = { turned with cast := cast, events := events } := by
  rcases turning with rfl | rfl
  · obtain ⟨begun, turned, cast, events, first, second, rfl⟩ := runTick_ok done
    exact ⟨begun, turned, cast, events, .tick first, second, rfl⟩
  · simp only [carryOut, runScripts, Run.modify_bind_apply] at done
    exact ⟨_, m', m'.cast, m'.events, .pass, done, rfl⟩

theorem carryOut_rest {deed : Deed} {fuel : Nat} (rest : m.current = none)
    (done : deed.carryOut fuel m = .ok () m') : m'.current = none := by
  cases deed with
  | order order => exact order.carryOut_rest rest done
  | pass =>
      obtain ⟨begun, turned, _, _, opens, turns, rfl⟩ := carryOut_turns (.inr rfl) done
      have last : turned.current = none := Run.forM_kept takeTurn_rest opens.rest turns
      exact last
  | wait amount =>
      have waited := changeChecked_ok done
      unfold decreaseDelay at waited
      split at waited
      · cases waited
        exact rest
      · cases waited
  | stopCurrent =>
      cases done
      obtain ⟨events, same⟩ := stopCurrent_eq m
      rw [same]
  | beginOverride =>
      cases beginOverride_ok done
      exact rest
  | endOverride =>
      cases done
      exact rest
  | arrange =>
      cases done
      exact rest

end Deed

/-- The games that deeds of a kind lead to, as long as every deed ends well and every moment of
it is fair. -/
inductive Hosted (Allowed : Deed → Prop) (Fair : Machine → Prop) (start : Machine) :
    Machine → Prop where
  | begin : Hosted Allowed Fair start start
  | deed {m next : Machine} (before : Hosted Allowed Fair start m) (deed : Deed)
      (allowed : Allowed deed) (fuel : Nat)
      (fair : ∀ moment, deed.Moment fuel m moment → Fair moment)
      (done : deed.carryOut fuel m = .ok () next) : Hosted Allowed Fair start next

theorem Hosted.rest {Allowed : Deed → Prop} {Fair : Machine → Prop} {start : Machine}
    (rest : start.current = none) (hosted : Hosted Allowed Fair start m) : m.current = none := by
  induction hosted with
  | begin => exact rest
  | deed _ _ _ _ _ done ih => exact Deed.carryOut_rest ih done

/-- A machine on which no script has run yet. -/
structure Pristine (m : Machine) : Prop where
  slots : m.slots = .empty
  calls : m.calls = []
  rest : m.current = none

theorem boot_pristine (rules : Rules) (library : Library) (rooms : Keyed UInt8 LoadedRoom) :
    Pristine (boot rules library rooms) :=
  ⟨rfl, rfl, rfl⟩

/-- On a new machine every slot runs nothing. -/
theorem Pristine.slot (pristine : Pristine m) {id : SlotId} {slot : Slot}
    (present : m.slots.get? id = some slot) : slot = .empty := by
  rw [pristine.slots] at present
  exact List.eq_of_mem_replicate (List.mem_of_getElem? present)

/-! ## Quiet changes -/

/-- Every slot carries the script it carried before, dead or alive, and the code is the same. -/
structure Quiet (m m' : Machine) : Prop where
  library : m'.library = m.library
  scripts : ∀ {id slot}, m'.slots.get? id = some slot →
    ∃ before, m.slots.get? id = some before ∧ slot.number = before.number ∧
      slot.location = before.location ∧ slot.isDead = before.isDead

namespace Quiet

theorem of_slots (library : m'.library = m.library) (slots : m'.slots = m.slots) : Quiet m m' := by
  refine ⟨library, fun {id slot} present => ⟨slot, ?_, rfl, rfl, rfl⟩⟩
  rw [← slots]
  exact present

/-- A change of every slot that leaves its script alone. -/
theorem of_map (change : Slot → Slot) (library : m'.library = m.library)
    (slots : m'.slots = m.slots.map change)
    (kept : ∀ slot : Slot, (change slot).number = slot.number ∧
      (change slot).location = slot.location ∧ (change slot).isDead = slot.isDead) :
    Quiet m m' := by
  refine ⟨library, ?_⟩
  intro id slot present
  rw [slots, Bank.get?_map] at present
  obtain ⟨before, found, rfl⟩ := Option.map_eq_some_iff.mp present
  exact ⟨before, found, kept before⟩

/-- A change of one slot that leaves its script alone. -/
theorem of_modify (changed : SlotId) (change : Slot → Slot) (library : m'.library = m.library)
    (slots : m'.slots = m.slots.modify changed change)
    (kept : ∀ slot : Slot, (change slot).number = slot.number ∧
      (change slot).location = slot.location ∧ (change slot).isDead = slot.isDead) :
    Quiet m m' := by
  refine ⟨library, ?_⟩
  intro id slot present
  rw [slots, Bank.get?_modify] at present
  split at present
  · obtain ⟨before, found, rfl⟩ := Option.map_eq_some_iff.mp present
    exact ⟨before, found, kept before⟩
  · exact ⟨slot, present, rfl, rfl, rfl⟩

theorem fetched (m : Machine) (id : SlotId) (after : Nat) : Quiet m (m.fetched id after) :=
  .of_modify _ _ rfl rfl fun _ => ⟨rfl, rfl, rfl⟩

theorem leap {operation : Operation} {operands : Operands operation.shape}
    (leap : Leap operation operands m m') : Quiet m m' := by
  cases leap with
  | jump => exact .of_slots rfl rfl
  | jumpIfZero => exact .of_slots rfl rfl
  | jumpIfNotZero => exact .of_slots rfl rfl
  | arm => exact .of_slots rfl rfl

theorem enter {id : SlotId} (done : Machine.enter id m = .ok () m') : Quiet m m' := by
  obtain ⟨_, _, _, _, rfl⟩ := enter_ok done
  cases running : m.current with
  | none =>
      refine .of_slots rfl ?_
      change m.noted.slots = m.slots
      rw [noted, changeCurrent_of_rest running]
  | some caller =>
      refine .of_modify caller (fun slot => { slot with offset := m.pc }) rfl ?_
        fun _ => ⟨rfl, rfl, rfl⟩
      change m.noted.slots = _
      rw [noted, changeCurrent_of_running running]
      rfl

theorem returned (returned : Returned m m') : Quiet m m' := by
  cases returned with
  | bare => exact .of_slots rfl rfl
  | stays => exact .of_slots rfl rfl
  | resumes => exact .of_slots rfl rfl

/-- A call that has ended, after which no cutscene may be just being opened any more. -/
theorem answered {call : Call} {returned : Machine}
    (back : returnToCaller m = .ok () returned) :
    Quiet m (if call.opening then returned.forgetOpener else returned) := by
  have quiet := Quiet.returned (returnToCaller_ok back)
  split
  · exact ⟨quiet.library, quiet.scripts⟩
  · exact quiet

theorem load {id : SlotId}
    (done : loadSlotCode id { m with current := some id } = .ok () m') : Quiet m m' := by
  obtain ⟨_, _, _, _, rfl⟩ := loadSlotCode_ok done
  exact .of_slots rfl rfl

theorem waited {amount : Int} (done : m.decreaseDelay amount = .ok m') : Quiet m m' := by
  unfold decreaseDelay at done
  split at done
  · cases done
    refine .of_map (waitSlot amount) rfl rfl fun slot => ?_
    obtain ⟨number, location, _, dead⟩ := waitSlot_same amount slot
    exact ⟨number, location, dead⟩
  · cases done

theorem opens {deed : Deed} {begun : Machine} (opens : deed.Opens m begun) : Quiet m begun := by
  cases opens with
  | tick begins =>
      rw [beginTick_ok begins]
      refine .of_map (fun slot => { waitSlot 1 slot with executed := false }) rfl ?_ fun slot => ?_
      · apply Bank.ext_get?
        intro id
        simp only [Bank.get?_map, Option.map_map]
        rfl
      · obtain ⟨number, location, _, dead⟩ := waitSlot_same 1 slot
        exact ⟨number, location, dead⟩
  | pass => exact .of_map _ rfl rfl fun _ => ⟨rfl, rfl, rfl⟩

end Quiet

/-! ## Facts about the scripts in the slots -/

/-- What deeds of a kind keep as long as every moment is fair: quiet changes, effects and starts
of scripts keep it. -/
structure Enduring (Allowed : Deed → Prop) (Fair Holds : Machine → Prop) : Prop where
  quiet : ∀ {m m' : Machine}, Holds m → Quiet m m' → Holds m'
  effect : ∀ {m m' : Machine}, Holds m → Sited m → Effect m m' → Holds m'
  /-- A script starts another one. -/
  called : ∀ {m middle asked : Machine} {id : SlotId} {call : Call}, Holds middle → Fair m →
    m.current = some id → instruct id m = .ok (some call) asked →
    Claimed middle call.slot asked → Holds asked
  /-- An order starts a script. -/
  ordered : ∀ {m middle asked : Machine} {order : Order} {call : Call}, Holds middle →
    Allowed (.order order) → order.prepare m = .ok (some call) asked →
    Claimed middle call.slot asked → Holds asked
  abort : ∀ {m : Machine}, Holds m → Allowed (.order .abortCutscene) → Holds m.abortCutscene

namespace Enduring

variable {Allowed : Deed → Prop} {Fair Holds : Machine → Prop} {fuel : Nat}

theorem effects (enduring : Enduring Allowed Fair Holds) (holds : Holds m) (sited : Sited m)
    (effects : Effects m m') : Holds m' := by
  have both : Holds m' ∧ Sited m' := by
    induction effects with
    | refl => exact ⟨holds, sited⟩
    | tail _ effect ih => exact ⟨enduring.effect ih.1 ih.2 effect, ih.2.effect effect⟩
  exact both.1

/-! ### Executions -/

theorem instruct (enduring : Enduring Allowed Fair Holds) {id : SlotId} (holds : Holds m)
    (sited : Sited m) (running : m.current = some id)
    (done : Machine.instruct id m = .ok none m') : Holds m' := by
  obtain ⟨_, _, _, after, _, _, _, performed⟩ := instruct_ok done
  have fetched := enduring.quiet holds (.fetched m id after)
  rcases perform_ok performed with ⟨_, leap⟩ | effects
  · exact enduring.quiet fetched (.leap leap)
  · exact enduring.effects fetched (Sited.stable.fetch after sited running) effects

theorem call (enduring : Enduring Allowed Fair Holds) {id : SlotId} {call : Call}
    {asked entered : Machine} (holds : Holds m) (sited : Sited m) (fair : Fair m)
    (running : m.current = some id) (asks : Machine.instruct id m = .ok (some call) asked)
    (enters : enter call.slot asked = .ok () entered) : Holds entered := by
  obtain ⟨after, middle, effects, claimed⟩ := instruct_asks asks
  have fetched := enduring.quiet holds (.fetched m id after)
  have before := enduring.effects fetched (Sited.stable.fetch after sited running) effects
  exact enduring.quiet (enduring.called before fair running asks claimed) (.enter enters)

/-- **Facts that endure hold in every passage**, as long as every passage is fair. -/
theorem passes (enduring : Enduring Allowed Fair Holds) {moment : Machine} (holds : Holds m)
    (sited : Sited m) (fair : ∀ moment, Passes fuel m moment → Fair moment)
    (passes : Passes fuel m moment) : Holds moment := by
  induction fuel generalizing m moment with
  | zero =>
      cases passes
      exact holds
  | succ fuel ih =>
      cases passes with
      | here => exact holds
      | inside running asks enters rest =>
          have inner := enduring.call holds sited (fair m (.here _ _)) running asks enters
          exact ih inner (Sited.kept.call sited running asks enters)
            (fun _ passes => fair _ (.inside running asks enters passes)) rest
      | later running steps rest =>
          have sited' := (Sited.kept.step Sited.kept.execute sited (Nat.zero_le _) running steps).1
          refine ih ?_ sited' (fun _ passes => fair _ (.later running steps passes)) rest
          -- the machine after the step: without a call, or after the last passage of the call
          rcases step_ok steps with alone | ⟨call, asked, entered, ended, returned, asks, enters,
            ran, back, rfl⟩
          · exact enduring.instruct holds sited running alone
          · have inner := enduring.call holds sited (fair m (.here _ _)) running asks enters
            have ends := ih inner (Sited.kept.call sited running asks enters)
              (fun _ passes => fair _ (.inside running asks enters passes)) (.last ran)
            exact enduring.quiet ends (.answered back)

theorem execute (enduring : Enduring Allowed Fair Holds) (holds : Holds m) (sited : Sited m)
    (fair : ∀ moment, Passes fuel m moment → Fair moment)
    (done : Machine.execute fuel m = .ok () m') : Holds m' :=
  enduring.passes holds sited fair (.last done)

/-! ### Turns -/

/-- Facts that endure hold in front of every turn, as long as every moment of the turns is
fair. -/
theorem turns (enduring : Enduring Allowed Fair Holds) {deed : Deed} {begun before : Machine}
    {id : SlotId} (holds : Holds m) (opens : deed.Opens m begun)
    (fair : ∀ moment, deed.Moment fuel m moment → Fair moment) (inside : id ≤ 80)
    (earlier : (List.range id).forM (takeTurn fuel) begun = .ok () before) : Holds before := by
  induction id generalizing before with
  | zero =>
      cases earlier
      exact enduring.quiet holds (.opens opens)
  | succ id ih =>
      rw [Run.forM_range_succ, Run.bind_eq_ok_iff] at earlier
      obtain ⟨_, middle, earlier, last⟩ := earlier
      have holds' := ih (Nat.le_of_succ_le inside) earlier
      rcases takeTurn_ok last with rfl | ⟨loaded, ready, loads, ran⟩
      · exact holds'
      · exact enduring.execute (enduring.quiet holds' (.load loads)) (.load ready loads)
          (fun _ passes => fair _ (.turn opens inside earlier ready loads passes)) ran

/-! ### Deeds -/

theorem prepare (enduring : Enduring Allowed Fair Holds) {order : Order} {call : Option Call}
    (holds : Holds m) (rest : m.current = none) (allowed : Allowed (.order order))
    (prepares : order.prepare m = .ok call m') : Holds m' := by
  by_cases abort : order = .abortCutscene
  · subst abort
    obtain ⟨_, aborted⟩ := alone_ok prepares
    cases aborted
    exact enduring.abort holds allowed
  · have prepared := Order.prepare_ok abort prepares
    cases call with
    | none => exact enduring.effects holds (.of_rest rest) prepared
    | some call =>
        obtain ⟨middle, effects, claimed⟩ := prepared
        exact enduring.ordered (enduring.effects holds (.of_rest rest) effects) allowed prepares
          claimed

/-- The script that an order starts begins with what endures, and executes its own code. -/
theorem entered (enduring : Enduring Allowed Fair Holds) {order : Order} {call : Call}
    {asked entered : Machine} (holds : Holds m) (rest : m.current = none)
    (allowed : Allowed (.order order)) (asks : order.prepare m = .ok (some call) asked)
    (enters : enter call.slot asked = .ok () entered) : Holds entered ∧ Sited entered := by
  obtain ⟨middle, _, claimed⟩ := Order.prepare_asks asks
  exact ⟨enduring.quiet (enduring.prepare holds rest allowed asks) (.enter enters),
    .enter claimed.slot.2 enters⟩

theorem carryOutOrder (enduring : Enduring Allowed Fair Holds) {order : Order}
    (once : order ≠ .tick) (holds : Holds m) (rest : m.current = none)
    (allowed : Allowed (.order order))
    (fair : ∀ moment, (Deed.order order).Moment fuel m moment → Fair moment)
    (done : order.carryOut fuel m = .ok () m') : Holds m' := by
  rw [Order.carryOut_eq fuel once, Run.bind_eq_ok_iff] at done
  obtain ⟨call, asked, prepares, answered⟩ := done
  cases call with
  | none =>
      cases answered
      exact enduring.prepare holds rest allowed prepares
  | some call =>
      obtain ⟨entered, ended, returned, enters, ran, back, rfl⟩ := answer_ok answered
      obtain ⟨begins, sited⟩ := enduring.entered holds rest allowed prepares enters
      have ends := enduring.execute begins sited
        (fun _ passes => fair _ (.called prepares enters passes)) ran
      exact enduring.quiet ends (.answered back)

/-- **A deed keeps** what endures, as long as every moment of it is fair. -/
theorem carryOut (enduring : Enduring Allowed Fair Holds) {deed : Deed} (holds : Holds m)
    (rest : m.current = none) (allowed : Allowed deed)
    (fair : ∀ moment, deed.Moment fuel m moment → Fair moment)
    (done : deed.carryOut fuel m = .ok () m') : Holds m' := by
  by_cases turning : deed = .order .tick ∨ deed = .pass
  · obtain ⟨begun, turned, cast, events, opens, turns, rfl⟩ := Deed.carryOut_turns turning done
    have last := enduring.turns holds opens fair (Nat.le_refl 80) turns
    exact enduring.quiet last (.of_slots rfl rfl)
  cases deed with
  | order order =>
      refine enduring.carryOutOrder ?_ holds rest allowed fair done
      rintro rfl
      exact turning (.inl rfl)
  | pass => exact absurd (.inr rfl) turning
  | wait amount => exact enduring.quiet holds (.waited (changeChecked_ok done))
  | stopCurrent =>
      cases done
      exact enduring.effect holds (.of_rest rest) (.finish m)
  | beginOverride => exact enduring.quiet holds (.leap (beginOverride_ok done))
  | endOverride =>
      cases done
      exact enduring.quiet holds (.of_slots rfl rfl)
  | arrange =>
      cases done
      exact enduring.quiet holds (.of_slots rfl rfl)

/-- What endures holds in every game that begins with it. -/
theorem hosted (enduring : Enduring Allowed Fair Holds) {start : Machine} (holds : Holds start)
    (rest : start.current = none) (hosted : Hosted Allowed Fair start m) : Holds m := by
  induction hosted with
  | begin => exact holds
  | deed before deed allowed fuel fair done ih =>
      exact enduring.carryOut ih (before.rest rest) allowed fair done

/-- What endures holds in every moment of a deed. -/
theorem moment (enduring : Enduring Allowed Fair Holds) {deed : Deed} {moment : Machine}
    (holds : Holds m) (rest : m.current = none) (allowed : Allowed deed)
    (fair : ∀ moment, deed.Moment fuel m moment → Fair moment)
    (during : deed.Moment fuel m moment) : Holds moment := by
  cases during with
  | called asks enters passes =>
      obtain ⟨begins, sited⟩ := enduring.entered holds rest allowed asks enters
      exact enduring.passes begins sited
        (fun _ passes => fair _ (.called asks enters passes)) passes
  | turn opens inside earlier ready loads passes =>
      have before := enduring.turns holds opens fair (Nat.le_of_lt inside) earlier
      exact enduring.passes (enduring.quiet before (.load loads)) (.load ready loads)
        (fun _ passes => fair _ (.turn opens inside earlier ready loads passes)) passes

end Enduring

end Machine

end Adventure
