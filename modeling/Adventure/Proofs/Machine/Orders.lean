import Adventure.Proofs.Machine.Passage

/-!
# Orders

A host gives orders to a game that is at rest: it starts and stops scripts, enters a
room, opens, closes and skips cutscenes, or lets a tick pass.  `Order.carryOut` runs an
order to its end.  `Moment` lists the machines that come up on the way while a script
executes, and `Call` requests the ones in which a script is about to be called.

An order that ends well leaves the game at rest again.
-/

set_option autoImplicit false

namespace Adventure.Machine

/-- What a host can ask of a game at rest. -/
inductive Order where
  | startScript (number : UInt16) (freezeResistant recursive : Bool) (args : List Int)
  | startObject (object : UInt16) (verb : UInt8) (freezeResistant recursive : Bool)
      (args : List Int)
  | stopScript (number : UInt16)
  | stopObject (object : UInt16)
  | freezeScripts (flag : UInt8)
  | unfreezeScripts
  | beginCutscene (args : List Int)
  | endCutscene
  | abortCutscene
  | changeRoom (number : UInt8)
  | tick
  deriving DecidableEq

namespace Order

/-- Carries out an order. -/
def carryOut (fuel : Nat) : Order → Run Unit
  | startScript number freezeResistant recursive args =>
    Machine.startScript (execute fuel) number freezeResistant recursive args
  | startObject object verb freezeResistant recursive args =>
    Machine.startObject (execute fuel) object verb freezeResistant recursive args
  | stopScript number => Machine.stopScript number
  | stopObject object => Machine.stopObject object
  | freezeScripts flag => modify fun m => m.freezeScripts flag
  | unfreezeScripts => modify Machine.unfreezeScripts
  | beginCutscene args => Machine.beginCutscene (execute fuel) args
  | endCutscene => Machine.endCutscene (execute fuel)
  | abortCutscene => modify Machine.abortCutscene
  | changeRoom number => Machine.changeRoom number
  | tick => runTick fuel

/-- The part of an order before the first call; a tick makes its calls later. -/
def prepare : Order → Run (Option Call)
  | startScript number freezeResistant recursive args => do
    let slot ← prepareScript number freezeResistant recursive args
    pure (slot.map (⟨·, false⟩))
  | startObject object verb freezeResistant recursive args => do
    let slot ← prepareObject object verb freezeResistant recursive args
    pure (slot.map (⟨·, false⟩))
  | stopScript number => alone (Machine.stopScript number)
  | stopObject object => alone (Machine.stopObject object)
  | freezeScripts flag => alone (modify fun m => m.freezeScripts flag)
  | unfreezeScripts => alone (modify Machine.unfreezeScripts)
  | beginCutscene args => openCutscene args
  | endCutscene => closeCutscene
  | abortCutscene => alone (modify Machine.abortCutscene)
  | changeRoom number => alone (Machine.changeRoom number)
  | tick => alone (pure ())

theorem alone_answer (run part : Run Unit) : alone part >>= answer run = part := by
  simp only [alone, bind_assoc, pure_bind, answer, bind_pure_unit]

/-- Every order but a tick is its preparation and the call it makes. -/
theorem carryOut_eq (fuel : Nat) {order : Order} (once : order ≠ tick) :
    order.carryOut fuel = order.prepare >>= answer (execute fuel) := by
  cases order with
  | startScript =>
      simp only [carryOut, prepare, Machine.startScript, bind_assoc, pure_bind]
  | startObject =>
      simp only [carryOut, prepare, Machine.startObject, bind_assoc, pure_bind]
  | stopScript => exact (alone_answer _ _).symm
  | stopObject => exact (alone_answer _ _).symm
  | freezeScripts => exact (alone_answer _ _).symm
  | unfreezeScripts => exact (alone_answer _ _).symm
  | beginCutscene => rfl
  | endCutscene => rfl
  | abortCutscene => exact (alone_answer _ _).symm
  | changeRoom => exact (alone_answer _ _).symm
  | tick => exact absurd rfl once

end Order

variable {m m' : Machine}

/-! ## At rest -/

theorem Effect.current (effect : Effect m m') : m'.current = none ∨ m'.current = m.current := by
  cases effect with
  | aside => exact .inr rfl
  | tune => exact .inr rfl
  | yield => exact .inl rfl
  | finish =>
      obtain ⟨events, same⟩ := stopCurrent_eq m
      rw [same]
      exact .inl rfl
  | stop test waits =>
      cases running : (m.stopWhere test waits).current with
      | none => exact .inl rfl
      | some id => exact .inr (stopWhere_current running).1.symm
  | refreeze => exact .inr rfl
  | enterRoom =>
      change m.stopRoomScripts.current = none ∨ m.stopRoomScripts.current = m.current
      cases running : m.stopRoomScripts.current with
      | none => exact .inl rfl
      | some id => exact .inr (stopWhere_current running).1.symm

theorem Effects.current_none (effects : Effects m m') (rest : m.current = none) :
    m'.current = none := by
  induction effects with
  | refl => exact rest
  | tail _ effect ih =>
      rcases effect.current with none | same
      · exact none
      · exact same.trans ih

theorem Prepared.current_none {slot : Option SlotId} (prepared : Prepared m slot m')
    (rest : m.current = none) : m'.current = none := by
  cases slot with
  | none => exact Effects.current_none prepared rest
  | some id =>
      obtain ⟨middle, effects, claimed⟩ := prepared
      have still : middle.current = none := Effects.current_none effects rest
      cases claimed
      exact still

/-! ## Detached calls -/

/-- No script waits in the call at a depth. -/
def Detached (depth : Nat) (m : Machine) : Prop :=
  ∃ frame, m.frameAt depth = some frame ∧ frame.slot = none

namespace Detached

variable {depth : Nat}

theorem of_calls (detached : Detached depth m) (same : m'.calls = m.calls) : Detached depth m' := by
  unfold Detached frameAt
  rw [same]
  exact detached

theorem effect (detached : Detached depth m) (effect : Effect m m') : Detached depth m' := by
  obtain ⟨frame, found, bare⟩ := detached
  obtain ⟨waits, calls, _⟩ := effect.bystander
  refine ⟨if waits frame then frame.invalidate else frame, ?_, ?_⟩
  · rw [frameAt_of_invalidate calls, found]
    rfl
  · split
    · rfl
    · exact bare

theorem stable : Stable (Detached depth) where
  fetch _ detached _ := detached.of_calls rfl
  effect := Detached.effect
  leap detached leap := detached.of_calls leap.calls

theorem enter {id : SlotId} (detached : Detached depth m) (done : Machine.enter id m = .ok () m') :
    Detached depth m' := by
  obtain ⟨frame, found, bare⟩ := detached
  obtain ⟨_, _, _, _, rfl⟩ := enter_ok done
  refine ⟨frame, ?_, bare⟩
  have less := frameAt_eq_some_lt found
  rw [frameAt_of_cons rfl, if_neg (by omega)]
  exact found

theorem kept : Kept (depth + 1) (Detached depth) where
  instruct := stable.instruct
  call detached running asks enters := by
    obtain ⟨middle, before, claimed⟩ := stable.asks detached running asks
    exact (before.of_calls claimed.calls).enter enters
  back := by
    rintro m m' ⟨frame, found, bare⟩ deep returned
    refine ⟨frame, ?_, bare⟩
    cases returned with
    | bare empty => simp [empty] at deep
    | stays top outer open_ =>
        rw [open_, List.length_cons] at deep
        rw [frameAt_of_cons open_, if_neg (by omega)] at found
        exact found
    | resumes top outer open_ =>
        rw [open_, List.length_cons] at deep
        rw [frameAt_of_cons open_, if_neg (by omega)] at found
        exact found
  forget detached := detached.of_calls rfl

end Detached

/-- A call in which no script waits returns to no script. -/
theorem Returned.current_none {depth : Nat} (returned : Returned m m')
    (detached : Detached depth m) (last : m.calls.length = depth + 1) : m'.current = none := by
  cases returned with
  | bare => rfl
  | stays => rfl
  | resumes top outer open_ caller slot code real waits =>
      obtain ⟨frame, found, bare⟩ := detached
      rw [open_, List.length_cons] at last
      rw [frameAt_of_cons open_, if_pos (by omega)] at found
      cases found
      cases bare.symm.trans waits

theorem callFrame_of_rest (rest : m.current = none) : m.callFrame = .host := by
  unfold callFrame
  rw [rest]

/-- A call from a machine at rest waits in a frame of the host, and returns to no script. -/
theorem returned_rest {fuel : Nat} {id : SlotId} {entered ended : Machine}
    (rest : m.current = none) (enters : enter id m = .ok () entered)
    (ran : execute fuel entered = .ok () ended) (returned : Returned ended m') :
    m'.current = none := by
  have entered_depth := enter_calls_length enters
  have ended_depth := execute_calls_length ran
  have bare : Detached m.calls.length entered := by
    obtain ⟨_, _, _, _, rfl⟩ := enter_ok enters
    refine ⟨.host, ?_, rfl⟩
    rw [frameAt_of_cons rfl, if_pos rfl, callFrame_of_rest rest]
  have still := (Detached.kept.execute bare (by omega) ran).1
  exact returned.current_none still (by omega)

/-- **A call from a machine at rest ends at rest.** -/
theorem answer_rest {fuel : Nat} {call : Option Call} (rest : m.current = none)
    (done : answer (execute fuel) call m = .ok () m') : m'.current = none := by
  cases call with
  | none =>
      cases done
      exact rest
  | some call =>
      obtain ⟨entered, ended, returned, enters, ran, back, rfl⟩ := answer_ok done
      have none := returned_rest rest enters ran (returnToCaller_ok back)
      split
      · exact none
      · exact none

theorem Order.prepare_ok {order : Order} {call : Option Call} (real : order ≠ .abortCutscene)
    (done : order.prepare m = .ok call m') : Prepared m (call.map (·.slot)) m' := by
  cases order with
  | startScript => exact prepared_of_slot (fun _ _ => prepareScript_ok) done
  | startObject => exact prepared_of_slot (fun _ _ => prepareObject_ok) done
  | stopScript => exact prepared_of_alone (fun _ => stopScript_ok) done
  | stopObject => exact prepared_of_alone (fun _ => stopObject_ok) done
  | freezeScripts flag => exact prepared_of_effect (freezeScripts_effect m flag) done
  | unfreezeScripts => exact prepared_of_effect (unfreezeScripts_effect m) done
  | beginCutscene => exact openCutscene_ok done
  | endCutscene => exact closeCutscene_ok done
  | abortCutscene => exact absurd rfl real
  | changeRoom => exact prepared_of_alone (fun _ => changeRoom_ok) done
  | tick =>
      refine prepared_of_alone (fun _ ran => ?_) done
      cases ran
      exact .refl

theorem abortCutscene_current (m : Machine) : m.abortCutscene.current = m.current := by
  unfold abortCutscene
  split <;> rfl

theorem Order.prepare_rest {order : Order} {call : Option Call} (rest : m.current = none)
    (done : order.prepare m = .ok call m') : m'.current = none := by
  by_cases abort : order = .abortCutscene
  · subst abort
    obtain ⟨_, ran⟩ := alone_ok done
    cases ran
    exact (abortCutscene_current m).trans rest
  · exact (prepare_ok abort done).current_none rest

/-- An order that starts a script claims its slot last. -/
theorem Order.prepare_asks {order : Order} {call : Call} {asked : Machine}
    (asks : order.prepare m = .ok (some call) asked) :
    ∃ middle, Effects m middle ∧ Claimed middle call.slot asked := by
  by_cases abort : order = .abortCutscene
  · subst abort
    cases (alone_ok asks).1
  · exact prepare_ok abort asks

/-! ## Ticks -/

/-- The part of a tick before the first turn. -/
def beginTick : Run Unit := do
  changeChecked countTick
  changeChecked (·.decreaseDelay 1)
  modify fun m =>
    { m with slots := m.slots.map fun slot => { slot with executed := false }, current := none }

theorem runTick_eq (fuel : Nat) :
    runTick fuel =
      beginTick >>= fun _ => (List.range 80).forM (takeTurn fuel) >>= fun _ =>
        changeChecked (·.walkActors fuel) := by
  simp only [runTick, beginTick, runScripts, bind_assoc]

theorem changeChecked_ok {rule : Machine → Checked Machine}
    (done : changeChecked rule m = .ok () m') : rule m = .ok m' := by
  simp only [changeChecked, Run.bind_eq_ok_iff, Run.get_apply, Run.set_apply] at done
  obtain ⟨_, _, same, _, _, checked, changed⟩ := done
  cases same
  obtain ⟨ruled, rfl⟩ := Run.ofChecked_eq_ok_iff.mp checked
  cases changed
  exact ruled

/-- Waiting leaves the script of a slot alone. -/
theorem waitSlot_same (amount : Int) (slot : Slot) :
    (waitSlot amount slot).number = slot.number ∧ (waitSlot amount slot).location = slot.location ∧
      (waitSlot amount slot).offset = slot.offset ∧
      (waitSlot amount slot).isDead = slot.isDead := by
  unfold waitSlot
  split
  next waiting =>
    have paused : slot.status = .paused := by
      simp only [isWaiting, Bool.and_eq_true, beq_iff_eq] at waiting
      exact waiting.1
    have alive : slot.isDead = false := by
      rw [Slot.isDead, paused]
      rfl
    split
    · exact ⟨rfl, rfl, rfl, alive.symm⟩
    · exact ⟨rfl, rfl, rfl, rfl⟩
  next => exact ⟨rfl, rfl, rfl, rfl⟩

/-- What the part of a tick before the first turn does. -/
theorem beginTick_ok (done : beginTick m = .ok () m') :
    m' =
      { m with
        slots := (m.slots.map (waitSlot 1)).map fun slot => { slot with executed := false }
        tick := m.tick + 1
        current := none } := by
  simp only [beginTick, Run.bind_eq_ok_iff, Run.modify_apply] at done
  obtain ⟨_, counted, first, _, waited, second, reset⟩ := done
  have first := changeChecked_ok first
  have second := changeChecked_ok second
  unfold countTick at first
  unfold decreaseDelay at second
  split at first
  · cases first
    split at second
    · cases second
      cases reset
      rfl
    · cases second
  · cases first

theorem takeTurn_ok {fuel : Nat} {id : SlotId} (done : takeTurn fuel id m = .ok () m') :
    m' = m ∨ ∃ loaded, m.isReady id = true ∧
      loadSlotCode id { m with current := some id } = .ok () loaded ∧
      execute fuel loaded = .ok () m' := by
  simp only [takeTurn, Run.bind_eq_ok_iff, Run.get_apply] at done
  obtain ⟨_, _, same, rest⟩ := done
  cases same
  by_cases ready : m.isReady id = true
  · simp only [ready, if_true, Run.bind_eq_ok_iff, Run.modify_apply] at rest
    obtain ⟨_, _, chosen, _, loaded, loads, ran⟩ := rest
    cases chosen
    exact .inr ⟨loaded, ready, loads, ran⟩
  · simp only [ready, Bool.false_eq_true, if_false] at rest
    cases rest
    exact .inl rfl

theorem takeTurn_rest {fuel : Nat} {id : SlotId} (rest : m.current = none)
    (done : takeTurn fuel id m = .ok () m') : m'.current = none := by
  rcases takeTurn_ok done with rfl | ⟨_, _, _, ran⟩
  · exact rest
  · exact execute_current ran

/-- Moving actors changes the cast and the log. -/
theorem walkActors_ok {fuel : Nat} (done : m.walkActors fuel = .ok m') :
    ∃ cast events, m' = { m with cast := cast, events := events } := by
  unfold walkActors at done
  split at done
  · cases done
    exact ⟨_, _, rfl⟩
  · cases moved : m.stage.tickActors fuel m.cast.driven with
    | error fault =>
        rw [moved] at done
        cases done
    | ok moved' =>
        rw [moved] at done
        cases done
        exact ⟨_, _, rfl⟩

theorem runTick_ok {fuel : Nat} (done : runTick fuel m = .ok () m') :
    ∃ begun turned cast events, beginTick m = .ok () begun ∧
      (List.range 80).forM (takeTurn fuel) begun = .ok () turned ∧
      m' = { turned with cast := cast, events := events } := by
  simp only [runTick_eq, Run.bind_eq_ok_iff] at done
  obtain ⟨_, begun, first, _, turned, second, third⟩ := done
  obtain ⟨cast, events, rfl⟩ := walkActors_ok (changeChecked_ok third)
  exact ⟨begun, turned, cast, events, first, second, rfl⟩

/-- **An order that ends well leaves the game at rest.** -/
theorem Order.carryOut_rest {order : Order} {fuel : Nat} (rest : m.current = none)
    (done : order.carryOut fuel m = .ok () m') : m'.current = none := by
  by_cases tick : order = .tick
  · subst tick
    obtain ⟨begun, turned, _, _, first, second, rfl⟩ := runTick_ok done
    have begun_rest : begun.current = none := by rw [beginTick_ok first]
    have turned_rest : turned.current = none := Run.forM_kept takeTurn_rest begun_rest second
    exact turned_rest
  · rw [Order.carryOut_eq fuel tick, Run.bind_eq_ok_iff] at done
    obtain ⟨call, asked, prepared, answered⟩ := done
    exact answer_rest (prepare_rest rest prepared) answered

/-! ## Whole games -/

/-- The games that orders of a kind lead to, as long as every order ends well. -/
inductive Played (Allowed : Order → Prop) (start : Machine) : Machine → Prop where
  | begin : Played Allowed start start
  | order {m next : Machine} (before : Played Allowed start m) (order : Order)
      (allowed : Allowed order) (fuel : Nat) (done : order.carryOut fuel m = .ok () next) :
      Played Allowed start next

theorem Played.rest {Allowed : Order → Prop} {start : Machine} (rest : start.current = none)
    (played : Played Allowed start m) : m.current = none := by
  induction played with
  | begin => exact rest
  | order _ order _ _ done ih => exact order.carryOut_rest ih done

/-- The machines that come up while an order is carried out and a script executes. -/
inductive Moment (fuel : Nat) (m : Machine) : Order → Machine → Prop where
  /-- In the script that the order starts. -/
  | called {order : Order} {call : Call} {asked entered moment : Machine}
      (asks : order.prepare m = .ok (some call) asked)
      (enters : enter call.slot asked = .ok () entered) (passes : Passes fuel entered moment) :
      Moment fuel m order moment
  /-- In the turn of a slot. -/
  | turn {begun before loaded moment : Machine} {id : SlotId} (inside : id < 80)
      (begins : beginTick m = .ok () begun)
      (earlier : (List.range id).forM (takeTurn fuel) begun = .ok () before)
      (ready : before.isReady id = true)
      (loads : loadSlotCode id { before with current := some id } = .ok () loaded)
      (passes : Passes fuel loaded moment) : Moment fuel m .tick moment

/-- The calls that come up while an order is carried out: the order itself starts a script, or
a script that executes does. -/
inductive Asked (fuel : Nat) (m : Machine) (order : Order) (call : Call) : Machine → Prop where
  | host {asked : Machine} (asks : order.prepare m = .ok (some call) asked) :
      Asked fuel m order call asked
  | script {moment asked : Machine} {id : SlotId} (moment_ : Moment fuel m order moment)
      (running : moment.current = some id) (asks : instruct id moment = .ok (some call) asked) :
      Asked fuel m order call asked

/-! ## What orders keep -/

/-- What orders of a kind keep, with all the scripts they run. -/
structure Lasting (Allowed : Order → Prop) (Holds : Machine → Prop) : Prop where
  kept : Kept 0 Holds
  prepare : ∀ {m m' : Machine} {order : Order} {call : Option Call}, Holds m →
    m.current = none → Allowed order → order.prepare m = .ok call m' → Holds m'
  enter : ∀ {m m' : Machine} {id : SlotId}, Holds m →
    (∃ slot, m.slots.get? id = some slot ∧ slot.isDead = false) →
    Machine.enter id m = .ok () m' → Holds m'
  begins : ∀ {m m' : Machine}, Holds m → beginTick m = .ok () m' → Holds m'
  load : ∀ {m m' : Machine} {id : SlotId}, Holds m → m.isReady id = true →
    loadSlotCode id { m with current := some id } = .ok () m' → Holds m'
  walk : ∀ {m : Machine} (cast : Cast) (events : List String), Holds m →
    Holds { m with cast := cast, events := events }

namespace Lasting

variable {Allowed : Order → Prop} {Holds : Machine → Prop} {fuel : Nat}

theorem turn (lasting : Lasting Allowed Holds) {id : SlotId} (holds : Holds m)
    (done : takeTurn fuel id m = .ok () m') : Holds m' := by
  rcases takeTurn_ok done with rfl | ⟨loaded, ready, loads, ran⟩
  · exact holds
  · exact (lasting.kept.execute (lasting.load holds ready loads) (Nat.zero_le _) ran).1

/-- The script that an order starts begins with what the order keeps. -/
theorem called (lasting : Lasting Allowed Holds) {order : Order} {call : Call}
    {asked entered : Machine} (holds : Holds m) (rest : m.current = none) (allowed : Allowed order)
    (asks : order.prepare m = .ok (some call) asked)
    (enters : Machine.enter call.slot asked = .ok () entered) : Holds entered := by
  obtain ⟨middle, _, claimed⟩ := Order.prepare_asks asks
  exact lasting.enter (lasting.prepare holds rest allowed asks) claimed.slot.2 enters

/-- **An order keeps** what its parts keep. -/
theorem carryOut (lasting : Lasting Allowed Holds) {order : Order} (holds : Holds m)
    (rest : m.current = none) (allowed : Allowed order)
    (done : order.carryOut fuel m = .ok () m') : Holds m' := by
  by_cases tick : order = .tick
  · subst tick
    obtain ⟨begun, turned, cast, events, first, second, rfl⟩ := runTick_ok done
    exact lasting.walk cast events
      (Run.forM_kept lasting.turn (lasting.begins holds first) second)
  · rw [Order.carryOut_eq fuel tick, Run.bind_eq_ok_iff] at done
    obtain ⟨call, asked, prepares, answered⟩ := done
    cases call with
    | none =>
        cases answered
        exact lasting.prepare holds rest allowed prepares
    | some call =>
        obtain ⟨entered, ended, returned, enters, ran, back, rfl⟩ := answer_ok answered
        have begins := lasting.called holds rest allowed prepares enters
        have ends := (lasting.kept.execute begins (Nat.zero_le _) ran).1
        have depth := execute_calls_length ran
        have deeper := enter_calls_length enters
        exact lasting.kept.answered ends (by omega) back

/-- What orders keep holds in every game that begins with it. -/
theorem played (lasting : Lasting Allowed Holds) {start : Machine} (holds : Holds start)
    (rest : start.current = none) (played : Played Allowed start m) : Holds m := by
  induction played with
  | begin => exact holds
  | order before order allowed fuel done ih =>
      exact lasting.carryOut ih (before.rest rest) allowed done

/-- What an order keeps holds in every moment of it. -/
theorem moment (lasting : Lasting Allowed Holds) {order : Order} {moment : Machine}
    (holds : Holds m) (rest : m.current = none) (allowed : Allowed order)
    (during : Moment fuel m order moment) : Holds moment := by
  cases during with
  | called asks enters passes =>
      have begins := lasting.called holds rest allowed asks enters
      exact (lasting.kept.passes begins (Nat.zero_le _) passes).1
  | turn inside begins earlier ready loads passes =>
      have before := Run.forM_kept lasting.turn (lasting.begins holds begins) earlier
      exact (lasting.kept.passes (lasting.load before ready loads) (Nat.zero_le _) passes).1

end Lasting

end Adventure.Machine
