import Adventure.Proofs.Actor.Rounds
import Adventure.Proofs.Machine.Navigable
import Adventure.Proofs.Machine.Singles
import Adventure.Proofs.Script.Assembly

/-!
# No place of a game leaves the field

A host can do what it likes with a game that starts in range, as long as the places it sets
and the places its scripts name are in the field.  Then no actor leaves the field, however
the host's deeds end, and no result leaves its word: a deed that stops with a fault has used
up a bound, or its clock has run out.

An instruction, a call, a turn and a deed are followed through their parts (`Run.Safe`).  Each
part keeps a navigable game navigable, also when it fails.  Whether an instruction names a
place of the field is known from the code it is read from, so a whole execution is safe when
every passage of it is about to name such a place (`Machine.AimsInField`).
-/

set_option autoImplicit false

namespace Adventure

open Word

/-! ## Safe computations -/

/-- The failure is not a fault of a word. -/
def Halt.IsSound (halt : Halt) : Prop := ∀ fault, halt = .fault fault → fault = .outOfFuel

namespace Machine

/-- A navigable game stays navigable. -/
def Sails (m m' : Machine) : Prop := m.Navigable → m'.Navigable

instance : IsPreorder Machine Sails where
  refl _ navigable := navigable
  trans _ _ _ earlier later navigable := later (earlier navigable)

end Machine

namespace Run

variable {α β : Type} {m : Machine}

/-- However the computation ends, a navigable game stays navigable, and no word is left. -/
def Safe (run : Run α) (m : Machine) : Prop :=
  m.Navigable → Ends Machine.Sails Halt.IsSound run m

namespace Safe

variable {run : Run α}

theorem ok (safe : Safe run m) {value : α} {m' : Machine} (done : run m = .ok value m')
    (navigable : m.Navigable) : m'.Navigable := (safe navigable).ok done navigable

/-- What stays behind the scene is safe. -/
theorem of_aside (aside : Aside run m) : Safe run m := by
  refine fun _ => aside.mono (fun backstage navigable => navigable.of_scene backstage.scene) ?_
  rintro halt ⟨error, rfl⟩ fault same
  cases same

theorem of_ok
    (ends : m.Navigable → ∃ value m', run m = .ok value m' ∧ m'.Navigable) : Safe run m := by
  intro navigable
  obtain ⟨value, m', done, after⟩ := ends navigable
  exact .of_ok done fun _ => after

theorem bind {next : α → Run β} (safe : Safe run m)
    (later : ∀ value middle, run m = .ok value middle → Safe (next value) middle) :
    Safe (run >>= next) m := fun navigable =>
  (safe navigable).bind fun value middle done =>
    later value middle done (safe.ok done navigable)

theorem get_bind {next : Machine → Run β} (safe : Safe (next m) m) : Safe (get >>= next) m :=
  fun navigable => (safe navigable).get_bind

theorem modify_bind {change : Machine → Machine} {next : PUnit → Run β}
    (same : (change m).scene = m.scene) (safe : Safe (next ⟨⟩) (change m)) :
    Safe ((modify change : Run PUnit) >>= next) m := fun navigable =>
  .modify_bind (fun navigable => navigable.of_scene same) (safe (navigable.of_scene same))

theorem set_bind {middle : Machine} {next : PUnit → Run β} (same : middle.scene = m.scene)
    (safe : Safe (next ⟨⟩) middle) : Safe ((set middle : Run PUnit) >>= next) m := fun navigable =>
  .set_bind (fun navigable => navigable.of_scene same) (safe (navigable.of_scene same))

end Safe

theorem safe_pure (value : α) (m : Machine) : Safe (pure value : Run α) m :=
  fun _ => ends_pure value m

theorem safe_fail (error : ScriptError) (m : Machine) : Safe (fail error : Run α) m :=
  fun _ => ends_fail (fun _ same => by cases same) m

theorem safe_set {next : Machine} (same : next.scene = m.scene) : Safe (set next : Run PUnit) m :=
  fun _ => ends_set fun navigable => navigable.of_scene same

theorem safe_modify {change : Machine → Machine} (same : (change m).scene = m.scene) :
    Safe (modify change : Run PUnit) m :=
  fun _ => ends_modify fun navigable => navigable.of_scene same

end Run

/-! ## Instructions -/

/-- The place that the instruction sends an actor to. -/
def Instruction.aim? : Instruction → Option Point
  | ⟨.walkActor, (_, x, y, _, ())⟩ => some ⟨x, y⟩
  | ⟨.putActor, (_, x, y, _, ())⟩ => some ⟨x, y⟩
  | _ => none

namespace Machine

open Run

variable {m : Machine}

theorem safe_alone {run : Run Unit} (safe : Safe run m) : Safe (alone run) m :=
  safe.bind fun _ _ _ => safe_pure _ _

/-- Driving an actor is safe when an actor that is fit stays fit. -/
theorem safe_driveActor {number : UInt8} {drive : Stage → Walk Unit}
    (drives : ∀ actor : Actor, m.room.InRange → actor.Fit m.room.number number →
      (drive m.stage).Gives (fun _ => False) ⟨actor, []⟩ fun _ after =>
        after.actor.Fit m.room.number number) : Safe (driveActor number drive) m :=
  .of_ok fun navigable =>
    let ⟨m', done, after⟩ := driveActor_navigable navigable (fun _ => .inr) fun actor _ fit =>
      drives actor navigable.room (fit List.not_mem_nil)
    ⟨(), m', done, after⟩

/-- Changing the room is safe when its number stays the same. -/
theorem safe_changeShape {change : Machine → Machine}
    (rooms : (change m).rooms = m.rooms) (cast : (change m).cast = m.cast)
    (number : (change m).room.number = m.room.number)
    (inRange : m.room.InRange → (change m).room.InRange) :
    Safe (modify change : Run PUnit) m := by
  refine fun _ => ends_modify fun navigable => ⟨?_, inRange navigable.room, ?_⟩
  · rw [rooms]
    exact navigable.rooms
  · rw [cast, number]
    exact navigable.cast

/-- **An instruction that names a place of the field is safe.** -/
theorem safe_perform {operation : Operation} {operands : Operands operation.shape}
    (aims : ∀ place ∈ Instruction.aim? ⟨operation, operands⟩, place.InField)
    (fit : Operands.Fit operation.shape operands) (m : Machine) :
    Safe (perform operation operands) m := by
  cases operation with
  | loadRoom =>
    exact safe_alone (.of_ok fun navigable => ⟨(), changeRoom_navigable navigable _⟩)
  | walkActor =>
    obtain ⟨number, x, y, facing, _⟩ := operands
    obtain ⟨_, _, _, facingFits, _⟩ := fit
    refine safe_alone (safe_driveActor fun actor room fit => ?_)
    refine Stage.startWalk_fit room fit (aims _ rfl) fun angle asked => ?_
    split at asked
    · cases asked
      exact facingFits
    · cases asked
  | putActor =>
    exact safe_alone (safe_driveActor fun actor room fit =>
      Stage.put_fit room fit.toInRange (aims _ rfl) _)
  | faceActor =>
    obtain ⟨_, facingFits, _⟩ := fit
    exact safe_alone (safe_driveActor fun actor _ fit =>
      (fit.toInRange.turned facingFits).fit _)
  | actorSpeed =>
    obtain ⟨number, speedX, speedY, _⟩ := operands
    exact safe_alone (safe_driveActor fun actor _ fit =>
      { fit with speedX := isByte_toNat speedX, speedY := isByte_toNat speedY })
  | ignoreBoxes =>
    refine safe_alone (safe_driveActor fun actor room fit => ?_)
    simp only [Walk.gives_bind, Walk.gives_change, Walk.gives_actor]
    exact Stage.put_fit room { fit with } fit.pos _
  | actorCostume => exact safe_alone (safe_driveActor fun actor _ fit => { fit with })
  | stopActor =>
    refine safe_alone (safe_driveActor fun actor _ fit => ?_)
    simp only [Walk.gives_bind, Walk.gives_actor, Walk.gives_ite, Walk.gives_pure]
    split
    · exact (Stage.halt_navigates fit.toInRange).mono fun _ _ navigates => navigates.fit _
    · exact fit
  | setBoxFlags =>
    exact safe_alone (safe_changeShape rfl rfl (Room.SameShape.setBoxFlags _ _ _).number
      fun inRange => inRange.setBoxFlags _ _)
  | createBoxMatrix =>
    exact safe_alone (safe_changeShape rfl rfl rfl fun inRange => inRange.rebuildMatrix)
  | setScaleSlot =>
    obtain ⟨slot, y1, scale1, y2, scale2, _⟩ := operands
    obtain ⟨_, y1Fits, scale1Fits, y2Fits, scale2Fits, _⟩ := fit
    refine safe_alone (safe_changeShape rfl rfl (Room.SameShape.setRamp _ _ _).number
      fun inRange => inRange.setRamp _ ?_)
    exact ScaleRamp.vertical_narrow y1Fits scale1Fits y2Fits scale2Fits
  | _ => exact .of_aside (aside_perform rfl _ m)

/-- The next instruction of the script that executes, if any, names no place outside of the
field. -/
def AimsInField (m : Machine) : Prop :=
  m.current.isSome = true →
    ∀ instruction ∈ m.code.instruction? m.pc, ∀ place ∈ instruction.aim?, place.InField

instance : DecidablePred AimsInField := fun m =>
  inferInstanceAs <| Decidable <| m.current.isSome = true →
    ∀ instruction ∈ m.code.instruction? m.pc, ∀ place ∈ instruction.aim?, place.InField

theorem safe_instruct {id : SlotId} (running : m.current = some id) (aims : m.AimsInField) :
    Safe (instruct id) m := by
  refine .modify_bind rfl <| (Safe.of_aside (aside_fetch _ _)).bind fun opcode _ first =>
    .modify_bind rfl ?_
  obtain ⟨_, byte, rfl⟩ := fetch_ok first
  obtain ⟨rfl, found⟩ := Code.byte_ok byte
  split
  next => exact .get_bind (safe_fail _ _)
  next operation known =>
    rw [handle_eq]
    refine (Safe.of_aside (aside_fetch _ _)).bind fun operands _ second => ?_
    obtain ⟨after, read, rfl⟩ := fetch_ok second
    refine safe_perform ?_ (Code.operands_fit read) _
    refine aims (running ▸ rfl) ⟨operation, operands⟩ ?_
    change m.code[m.pc]? = some opcode at found
    change m.code.operands operation.shape (m.pc + 1) = .ok (operands, after) at read
    simp [Code.instruction?, found, known, read]

/-! ## Calls and executions -/

theorem safe_enter (id : SlotId) (m : Machine) : Safe (enter id) m := by
  refine .get_bind (.set_bind rfl ?_)
  split
  · exact safe_fail _ _
  · exact .set_bind rfl (.of_aside (discreet_loadSlotCode _ _).aside)

theorem safe_returnToCaller (m : Machine) : Safe returnToCaller m := by
  refine .get_bind ?_
  split
  · exact safe_set rfl
  · refine .set_bind rfl ?_
    split
    · exact safe_pure _ _
    · split
      · exact safe_pure _ _
      · split
        · exact .modify_bind rfl (.of_aside (discreet_loadSlotCode _ _).aside)
        · exact safe_pure _ _

/-- A call is safe when the script that is called is. -/
theorem safe_answer {run : Run Unit} {call : Option Call}
    (runs : ∀ made entered, call = some made → enter made.slot m = .ok () entered →
      Safe run entered) : Safe (answer run call) m := by
  cases call with
  | none => exact safe_pure _ _
  | some call =>
    have nested : Safe (runNested run call.slot) m :=
      (safe_enter _ _).bind fun _ entered enters =>
        (runs call entered rfl enters).bind fun _ _ _ => safe_returnToCaller _
    unfold answer
    dsimp only
    split
    · exact fun navigable => (nested navigable).finally_ forgetOpener fun _ navigable =>
        navigable.of_scene rfl
    · exact nested

theorem safe_step {run : Run Unit} {id : SlotId} (running : m.current = some id)
    (aims : m.AimsInField)
    (runs : ∀ call asked entered, instruct id m = .ok (some call) asked →
      enter call.slot asked = .ok () entered → Safe run entered) : Safe (step run id) m :=
  (safe_instruct running aims).bind fun _ asked asks => safe_answer fun call entered made =>
    runs call asked entered (made ▸ asks)

section Execution

variable {fuel : Nat}

/-- **An execution is safe** when every passage of it names places of the field. -/
theorem safe_execute (fuel : Nat) : ∀ m : Machine,
    (∀ moment, Passes fuel m moment → moment.AimsInField) → Safe (execute fuel) m := by
  induction fuel with
  | zero =>
    intro m _ _
    refine .of_error rfl (refl_of Sails m) fun fault same => ?_
    cases same
    rfl
  | succ fuel ih =>
    intro m fair
    refine .get_bind ?_
    cases running : m.current with
    | none => exact safe_pure _ _
    | some id =>
      have first : Safe (step (execute fuel) id) m :=
        safe_step running (fair m (.here _ m)) fun _ _ entered asks enters =>
          ih entered fun moment during => fair moment (.inside running asks enters during)
      exact first.bind fun _ next steps =>
        ih next fun moment during => fair moment (.later running steps during)

/-- In every passage the game is navigable. -/
theorem Passes.navigable {moment : Machine} (passes : Passes fuel m moment)
    (fair : ∀ moment, Passes fuel m moment → moment.AimsInField) (navigable : m.Navigable) :
    moment.Navigable := by
  induction passes with
  | here => exact navigable
  | inside running asks enters _ ih =>
    have asked := (safe_instruct running (fair _ (.here _ _))).ok asks navigable
    exact ih (fun moment during => fair moment (.inside running asks enters during))
      ((safe_enter _ _).ok enters asked)
  | later running steps _ ih =>
    have first := safe_step running (fair _ (.here _ _)) fun _ _ entered asks enters =>
      safe_execute _ entered fun moment during => fair moment (.inside running asks enters during)
    exact ih (fun moment during => fair moment (.later running steps during))
      (first.ok steps navigable)

theorem safe_takeTurn {id : SlotId}
    (fair : ∀ loaded moment, m.isReady id = true →
      loadSlotCode id { m with current := some id } = .ok () loaded →
      Passes fuel loaded moment → moment.AimsInField) : Safe (takeTurn fuel id) m := by
  refine .get_bind ?_
  split
  next ready =>
    exact .modify_bind rfl <| (Safe.of_aside (discreet_loadSlotCode _ _).aside).bind
      fun _ loaded loads => safe_execute fuel loaded fun moment => fair loaded moment ready loads
  next => exact safe_pure _ _

end Execution

/-! ## Deeds -/

theorem Order.safe_prepare (order : Order) (m : Machine) : Safe order.prepare m := by
  cases order with
  | changeRoom number =>
    exact safe_alone (.of_ok fun navigable => ⟨(), changeRoom_navigable navigable number⟩)
  | _ => exact .of_aside (Order.aside_prepare (by simp) m)

/-- However a rule ends that may fault, the machine is changed as a whole or not at all. -/
theorem ends_changeChecked {Keeps : Machine → Machine → Prop} [Std.Refl Keeps]
    {Fails : Halt → Prop} {rule : Machine → Checked Machine}
    (keeps : ∀ m', rule m = .ok m' → Keeps m m')
    (fails : ∀ fault, rule m = .error fault → Fails (.fault fault)) :
    Ends Keeps Fails (changeChecked rule) m := by
  cases ended : rule m with
  | ok m' =>
    have done : changeChecked rule m = .ok () m' := by
      simp [changeChecked, Run.bind_apply, ofChecked, ended]
    exact .of_ok done (keeps m' ended)
  | error fault =>
    have failed : changeChecked rule m = .error (.fault fault) m := by
      simp [changeChecked, Run.bind_apply, ofChecked, ended]
    exact .of_error failed (refl_of Keeps m) (fails fault ended)

theorem decreaseDelay_scene {amount : Int} {m' : Machine} (done : m.decreaseDelay amount = .ok m') :
    m'.scene = m.scene := by
  unfold decreaseDelay at done
  split at done <;> cases done
  rfl

theorem countTick_scene {m' : Machine} (done : m.countTick = .ok m') : m'.scene = m.scene := by
  unfold countTick at done
  split at done <;> cases done
  rfl

theorem safe_walkActors (fuel : Nat) (m : Machine) :
    Safe (changeChecked (·.walkActors fuel)) m := by
  intro navigable
  have moves : (m.walkActors fuel).Gives (· = .outOfFuel) Navigable := by
    refine walkActors_navigable navigable ?_ fuel
    rfl
  refine ends_changeChecked (fun m' done _ => ?_) fun fault failed _ same => ?_
  · rw [done] at moves
    exact moves
  · cases same
    rw [failed] at moves
    exact moves

/-- The front of a tick leaves the scene as it is, even when the clock runs out. -/
theorem beginTick_sails (m : Machine) : Sails m (last beginTick m) := by
  have ends : Ends Sails (fun _ => True) beginTick m := by
    refine (ends_changeChecked ?_ fun _ _ => trivial).bind fun _ counted _ =>
      (ends_changeChecked ?_ fun _ _ => trivial).bind fun _ waited _ => ends_modify ?_
    · exact fun _ counts navigable => navigable.of_scene (countTick_scene counts)
    · exact fun _ waits navigable => navigable.of_scene (decreaseDelay_scene waits)
    · exact fun navigable => navigable.of_scene rfl
  exact ends.keeps

namespace Deed

/-- A deed that sets the scene sets one that is in range. -/
def InRange : Deed → Prop
  | arrange _ _ room cast _ _ => room.InRange ∧ cast.InRange
  | _ => True

/-- The deed stops because counting the tick, or counting a delay down, leaves its word. -/
inductive Overwinds (m : Machine) : Deed → Fault → Prop where
  | tick {fault : Fault} {m' : Machine} (runsOut : beginTick m = .error (.fault fault) m') :
    Overwinds m (.order .tick) fault
  | wait {amount : Int} {fault : Fault} (runsOut : m.decreaseDelay amount = .error fault) :
    Overwinds m (.wait amount) fault

/-- What stops the deed is not its navigation: an error of a script, a bound, or the clock. -/
def Excuses (m : Machine) (deed : Deed) (halt : Halt) : Prop :=
  ∀ fault, halt = .fault fault → fault = .outOfFuel ∨ deed.Overwinds m fault

variable {deed : Deed} {fuel : Nat}

theorem excuses_of_isSound {halt : Halt} (sound : halt.IsSound) : Excuses m deed halt :=
  fun fault same => .inl (sound fault same)

theorem Opens.navigable {begun : Machine} (opens : deed.Opens m begun) (navigable : m.Navigable) :
    begun.Navigable := by
  cases opens with
  | tick begins =>
    rw [beginTick_ok begins]
    exact { navigable with }
  | pass => exact { navigable with }

/-- The turns of a deed are safe, as many as have been taken. -/
theorem safe_turns {begun : Machine} (opens : deed.Opens m begun)
    (fair : ∀ moment, deed.Moment fuel m moment → moment.AimsInField) :
    ∀ count ≤ 80, Safe ((List.range count).forM (takeTurn fuel)) begun := by
  intro count few
  induction count with
  | zero => exact safe_pure _ _
  | succ count ih =>
    have inside : count < 80 := few
    rw [Run.forM_range_succ]
    exact (ih (Nat.le_of_lt inside)).bind fun _ before earlier =>
      safe_takeTurn fun loaded moment ready loads passes =>
        fair moment (.turn opens inside earlier ready loads passes)

theorem tick_ends (fair : ∀ moment, (order .tick).Moment fuel m moment → moment.AimsInField)
    (navigable : m.Navigable) : Ends Sails (Excuses m (order .tick)) (runTick fuel) m := by
  have begins : Ends Sails (Excuses m (order .tick)) beginTick m :=
    ⟨beginTick_sails m, fun failed fault same => .inr (.tick (same ▸ failed))⟩
  rw [runTick_eq]
  refine begins.bind fun _ begun done => ?_
  have opens : (order .tick).Opens m begun := .tick done
  have rest : Safe ((List.range 80).forM (takeTurn fuel) >>= fun _ =>
      changeChecked (·.walkActors fuel)) begun :=
    (safe_turns opens fair 80 (Nat.le_refl 80)).bind fun _ _ _ => safe_walkActors _ _
  exact (rest (opens.navigable navigable)).mono id excuses_of_isSound

theorem safe_order {asked : Order} (once : asked ≠ .tick)
    (fair : ∀ moment, (order asked).Moment fuel m moment → moment.AimsInField) :
    Safe (asked.carryOut fuel) m := by
  rw [Order.carryOut_eq fuel once]
  exact (asked.safe_prepare m).bind fun call prepared asks =>
    safe_answer fun made entered same enters =>
      safe_execute fuel entered fun moment passes =>
        fair moment (.called (same ▸ asks) enters passes)

/-- **A deed keeps a game navigable**, however it ends, and it stops with a fault only when a bound
is used up or its clock runs out. -/
theorem carryOut_ends (allowed : deed.InRange)
    (fair : ∀ moment, deed.Moment fuel m moment → moment.AimsInField) (navigable : m.Navigable) :
    Ends Sails (Excuses m deed) (deed.carryOut fuel) m := by
  have safely : Safe (deed.carryOut fuel) m → Ends Sails (Excuses m deed) (deed.carryOut fuel) m :=
    fun safe => (safe navigable).mono id excuses_of_isSound
  cases deed with
  | order asked =>
    by_cases ticks : asked = .tick
    · subst ticks
      exact tick_ends fair navigable
    · exact safely (safe_order ticks fair)
  | pass => exact safely (.modify_bind rfl (safe_turns .pass fair 80 (Nat.le_refl 80)))
  | wait amount =>
    refine ends_changeChecked (fun _ waits navigable => ?_) fun fault runsOut _ same => ?_
    · exact navigable.of_scene (decreaseDelay_scene waits)
    · cases same
      exact .inr (.wait runsOut)
  | stopCurrent => exact safely (.of_aside (aside_stopCurrent m))
  | beginOverride => exact safely (.of_aside (aside_beginOverride m))
  | endOverride => exact safely (safe_modify rfl)
  | arrange hooks vars room cast ego events =>
    exact ends_modify fun navigable =>
      { navigable with room := allowed.1, cast := allowed.2.posted _ _ }

/-- In every moment of a deed the game is navigable. -/
theorem Moment.navigable {moment : Machine} (during : deed.Moment fuel m moment)
    (fair : ∀ moment, deed.Moment fuel m moment → moment.AimsInField) (navigable : m.Navigable) :
    moment.Navigable := by
  cases during with
  | called asks enters passes =>
    refine passes.navigable (fun moment passes => fair moment (.called asks enters passes)) ?_
    exact (safe_enter _ _).ok enters ((Order.safe_prepare _ _).ok asks navigable)
  | turn opens inside earlier ready loads passes =>
    refine passes.navigable (fun moment passes =>
      fair moment (.turn opens inside earlier ready loads passes)) ?_
    have before := (safe_turns opens fair _ (Nat.le_of_lt inside)).ok earlier
      (opens.navigable navigable)
    exact (Safe.of_aside (discreet_loadSlotCode _ _).aside).ok loads { before with }

end Deed

/-! ## Games that are played -/

/-- The games that deeds of a kind lead to, however each of them ends, as long as every moment of
it is fair. -/
inductive Tried (Allowed : Deed → Prop) (Fair : Machine → Prop) (start : Machine) :
    Machine → Prop where
  | begin : Tried Allowed Fair start start
  | deed {m : Machine} (before : Tried Allowed Fair start m) (deed : Deed)
      (allowed : Allowed deed) (fuel : Nat)
      (fair : ∀ moment, deed.Moment fuel m moment → Fair moment) :
      Tried Allowed Fair start (last (deed.carryOut fuel) m)

theorem Tried.navigable {start : Machine} (tried : Tried Deed.InRange AimsInField start m)
    (begins : start.Navigable) : m.Navigable := by
  induction tried with
  | begin => exact begins
  | deed _ deed allowed fuel fair ih => exact (deed.carryOut_ends allowed fair ih).keeps ih

/-- Every actor of the cast is at a place of the field. -/
def ActorsInField (m : Machine) : Prop := ∀ actor ∈ m.cast, actor.pos.InField

theorem NavigableBut.actorsInField {pending : List UInt8} (navigable : m.NavigableBut pending) :
    m.ActorsInField := by
  intro actor member
  obtain ⟨index, found⟩ := List.getElem?_of_mem member
  exact (navigable.cast index actor found).inRange.pos

/-- **Navigation never leaves the field or a word.**  Whatever a host tries with a game that starts
in range, as long as the scenes it sets are in range and no instruction names a place outside of
the field, every actor is in the field, also in every moment of the next deed.  When a deed
stops with a fault, it has used up a bound, or its clock has run out. -/
theorem navigation_stays_in_field {start m : Machine} (inRange : start.InRange)
    (tried : Tried Deed.InRange AimsInField start m) :
    m.ActorsInField ∧ ∀ (deed : Deed) (fuel : Nat), deed.InRange →
      (∀ moment, deed.Moment fuel m moment → moment.AimsInField) →
      (∀ moment, deed.Moment fuel m moment → moment.ActorsInField) ∧
      ∀ fault m', deed.carryOut fuel m = .error (.fault fault) m' →
        fault = .outOfFuel ∨ deed.Overwinds m fault := by
  have navigable := tried.navigable inRange.navigable
  refine ⟨navigable.actorsInField, fun deed fuel allowed fair => ⟨?_, ?_⟩⟩
  · exact fun moment during => (during.navigable fair navigable).actorsInField
  · exact fun fault m' failed => (deed.carryOut_ends allowed fair navigable).fails failed fault rfl

/-- An order that calls no script comes up in none. -/
theorem Order.fair_of_alone {order : Order} {run : Run Unit} {fuel : Nat} {Fair : Machine → Prop}
    (alone : order.prepare = Machine.alone run) (once : order ≠ .tick) :
    ∀ moment, (Deed.order order).Moment fuel m moment → Fair moment := by
  intro moment during
  cases during with
  | called asks =>
    rw [alone] at asks
    cases (alone_ok asks).1
  | turn opens =>
    cases opens
    exact absurd rfl once

/-- A tick in which no script is ready comes up in no script. -/
theorem Deed.fair_of_idle {fuel : Nat} {begun : Machine} {Fair : Machine → Prop}
    (begins : beginTick m = .ok () begun) (idle : ∀ id < 80, begun.isReady id = false) :
    ∀ moment, (Deed.order .tick).Moment fuel m moment → Fair moment := by
  have untouched : ∀ count ≤ 80, (List.range count).forM (takeTurn fuel) begun = .ok () begun := by
    intro count few
    induction count with
    | zero => rfl
    | succ count ih =>
      have inside : count < 80 := few
      rw [Run.forM_range_succ, Run.bind_apply, ih (Nat.le_of_lt inside)]
      simp [takeTurn, Run.get_bind_apply, idle count inside]
  intro moment during
  cases during with
  | called asks => cases asks
  | turn opens inside earlier ready =>
    cases opens with
    | tick begins' =>
      cases begins.symm.trans begins'
      cases (untouched _ (Nat.le_of_lt inside)).symm.trans earlier
      exact absurd ((idle _ inside).symm.trans ready) (by decide)

/-- A game with a room of three boxes in a row, and a script that sends an actor from the first
box to the third. -/
def crossing : Machine :=
  .boot .standard
    ⟨[(1, [0x13, 1, 10, 0, 25, 0, 1, 0x12, 1, 24, 1, 25, 0, 0xFF, 0xFF, 0x00])], [], [], .empty⟩
    [(1, ⟨(Room.plain 1 Stage.rowOfBoxes .empty).rebuildMatrix, .empty⟩)]

theorem navigation_stays_in_field_crossing : ∃ walked moment,
    Tried Deed.InRange AimsInField crossing walked ∧
      (walked.cast.get? 1).map (·.pos) = some ⟨17, 25⟩ ∧ walked.ActorsInField ∧
      (Deed.order (.startScript 1 false false [])).Moment 9 walked moment ∧
      moment.current = some 1 ∧ moment.ActorsInField := by
  let send : Order := .startScript 1 false false []
  let entered := Run.last ((Deed.order (.changeRoom 1)).carryOut 9) crossing
  let sent := Run.last ((Deed.order send).carryOut 9) entered
  let walked := Run.last ((Deed.order .tick).carryOut 9) sent
  have inRange : crossing.InRange := by
    have row : (Room.plain 1 Stage.rowOfBoxes .empty).InRange :=
      Room.plain_inRange (by decide) _ _
    refine boot_inRange _ _ fun number loaded found => ?_
    change List.lookup number [(1, _)] = some loaded at found
    cases List.mem_singleton.mp (Assembler.mem_of_lookup found)
    exact row.rebuildMatrix
  let started := Run.last (enter 1) (Run.last send.prepare entered)
  let again := Run.last (enter 1) (Run.last send.prepare walked)
  have sending : Run.value? send.prepare entered = some (some ⟨1, false⟩) ∧
      Run.value? (enter 1) (Run.last send.prepare entered) = some () ∧
      ∀ moment ∈ passages 9 started, moment.AimsInField := by decide +kernel
  have walking : Run.value? beginTick sent = some () ∧
      ∀ id < 80, (Run.last beginTick sent).isReady id = false := by decide +kernel
  have resending : Run.value? send.prepare walked = some (some ⟨1, false⟩) ∧
      Run.value? (enter 1) (Run.last send.prepare walked) = some () ∧
      (∀ moment ∈ passages 9 again, moment.AimsInField) ∧
      (walked.cast.get? 1).map (·.pos) = some ⟨17, 25⟩ ∧ again.current = some 1 := by
    decide +kernel
  obtain ⟨asks, starts, aims⟩ := sending
  obtain ⟨begins, idle⟩ := walking
  obtain ⟨asks', starts', aims', place, running⟩ := resending
  have asks := Run.eq_ok_of_value? asks
  have starts := Run.eq_ok_of_value? starts
  have asks' := Run.eq_ok_of_value? asks'
  have starts' := Run.eq_ok_of_value? starts'
  have enters : Tried Deed.InRange AimsInField crossing entered :=
    .deed .begin (.order (.changeRoom 1)) trivial 9 (Order.fair_of_alone rfl (by decide))
  have sends : Tried Deed.InRange AimsInField crossing sent :=
    .deed enters (.order send) trivial 9 (Order.fair (by decide) asks starts aims)
  have walks : Tried Deed.InRange AimsInField crossing walked :=
    .deed sends (.order .tick) trivial 9 (Deed.fair_of_idle (Run.eq_ok_of_value? begins) idle)
  obtain ⟨here, next⟩ := navigation_stays_in_field inRange walks
  have during : (Deed.order send).Moment 9 walked again := .called asks' starts' (.here 9 _)
  have there := (next (.order send) 9 trivial
    (Order.fair (by decide) asks' starts' aims')).1 _ during
  exact ⟨walked, again, walks, place, here, during, running, there⟩

end Machine

end Adventure
