import Adventure.Machine.Tick
import Adventure.Proofs.Actor.Walking

/-!
# The tour of a walking actor

A tick may bring an actor from box to box several times, and afterwards only the last one is
seen.  To speak about the boxes on the way, the tick is recorded.  A `Tour` is a tick that
notes the actor's box after every part of it, and whether the part belongs to an arrival.
The record changes nothing: forgetting it gives the tick back.
-/

set_option autoImplicit false

namespace Adventure

variable {α β : Type}

/-- The box an actor is in after a part of a tick. -/
structure Visit where
  box : Option BoxId
  /-- The part ends the walk. -/
  arrival : Bool
  deriving DecidableEq, Repr

/-- A computation that drives an actor and notes where it has been. -/
abbrev Tour := StateT (List Visit) Walk

namespace Tour

/-- Looks at something without changing the actor. -/
def look (walk : Walk α) : Tour α := StateT.lift walk

/-- Carries out a part and notes the box the actor is in afterwards. -/
def note (arrival : Bool) (walk : Walk α) : Tour α := do
  let value ← look walk
  let after ← look Walk.actor
  modify (· ++ [⟨after.walkBox, arrival⟩])
  pure value

/-- A part on the way. -/
def part (walk : Walk α) : Tour α := note false walk

end Tour

/-! ## Recording a tick -/

namespace Stage

/-- The step itself, after the actor has turned and noted its box. -/
def strideOn (stage : Stage) : Walk Bool := do
  let actor ← Walk.actor
  let walk := actor.walk
  let lengthX ← (Leg.covered walk.legStart.x walk.legEnd.x : Checked Int)
  let lengthY ← (Leg.covered walk.legStart.y walk.legEnd.y : Checked Int)
  if ← (Leg.isOver walk lengthX lengthY actor.pos : Checked Bool) then endLeg
  else
    let moved ← (Leg.step actor lengthX lengthY : Checked Actor)
    Walk.change fun _ => moved
    if stage.rules.legEndsOnArrival && moved.pos == walk.legEnd then endLeg else pure true

/-- One tick along the current leg. -/
def tourStep (stage : Stage) : Tour Bool := do
  Tour.part stage.faceLeg
  Tour.part stage.enterBox
  Tour.part stage.strideOn

/-- Starts the leg to `next` and takes its first step. -/
def tourLeg (stage : Stage) (next : Point) : Tour Bool := do
  let actor ← Tour.look Walk.actor
  if actor.pos = next then pure false
  else
    Tour.part (Walk.changeChecked (planLeg next))
    stage.tourStep

/-- One round of the search for the next leg. -/
def tourOnce (stage : Stage) : Tour Round := do
  let actor ← Tour.look Walk.actor
  match actor.walkBox with
  | none =>
    Tour.part (Walk.changeChecked (stage.setBox actor.walk.destBox))
    Tour.part <| Walk.change fun actor =>
      { actor with walk := { actor.walk with curBox := actor.walk.destBox } }
    pure .straight
  | some box =>
    if some box = actor.walk.destBox then pure .straight
    else
      match stage.room.nextBox (some box) actor.walk.destBox with
      | none =>
        Tour.part <| Walk.log
          s!"actor.{actor.number.toNat}.no_route {box.toNat} -> {boxLabel actor.walk.destBox}"
        Tour.part <| Walk.change fun actor =>
          { actor with
            moving := actor.moving.plus Moving.lastLeg
            walk := { actor.walk with destBox := some box } }
        pure .done
      | some next =>
        Tour.part <| Walk.change fun actor =>
          { actor with walk := { actor.walk with curBox := some next } }
        match ← Tour.look (liftM (Crossing.find stage.room actor box next actor.walk.destBox)) with
        | .arrived => pure .straight
        | .notAdjacent => pure .straight
        | .via point =>
          Tour.part <| Walk.change fun actor =>
            { actor with walk := { actor.walk with checkpoint := some point } }
          if ← stage.tourLeg point then pure .done
          else
            Tour.part (Walk.changeChecked (stage.setBox (some next)))
            pure .again

/-- Searches for the next leg and starts it. -/
def tourRoute (stage : Stage) : (fuel : Nat) → Tour Unit
  | 0 => Tour.look (throw .outOfFuel)
  | fuel + 1 => do
    match ← stage.tourOnce with
    | .done => pure ()
    | .again => stage.tourRoute fuel
    | .straight =>
      Tour.part <| Walk.change fun actor =>
        { actor with moving := actor.moving.plus Moving.lastLeg }
      let _ ← stage.tourLeg (← Tour.look Walk.actor).walk.dest
      pure ()

/-- Forgets that a new leg is due and searches for it. -/
def tourStart (stage : Stage) (fuel : Nat) : Tour Unit := do
  Tour.part <| Walk.change fun actor =>
    { actor with moving := actor.moving.without Moving.newLeg }
  stage.tourRoute fuel

/-- What a tick does with an actor that is not on a leg any more. -/
def tourProceed (stage : Stage) (fuel : Nat) : Tour Unit := do
  let actor ← Tour.look Walk.actor
  if actor.moving.has Moving.lastLeg then Tour.note true stage.arrive
  else if actor.moving.has Moving.turn then Tour.part stage.turnOnce
  else
    Tour.part (Walk.changeChecked fun actor => stage.setBox actor.walk.curBox actor)
    Tour.part <| Walk.change fun actor =>
      { actor with moving := actor.moving.only Moving.inLeg }
    stage.tourStart fuel

/-- Drives the actor for one tick. -/
def tourAdvance (stage : Stage) (fuel : Nat) : Tour Unit := do
  let actor ← Tour.look Walk.actor
  if !actor.isMoving then pure ()
  else if actor.moving.has Moving.newLeg then stage.tourStart fuel
  else
    let walking ← if actor.moving.has Moving.inLeg then stage.tourStep else pure false
    if walking then pure () else stage.tourProceed fuel

end Stage

/-! ## The record changes nothing -/

namespace Tour

/-- Forgetting the record of a tour gives a computation. -/
def Forgets (tour : Tour α) (walk : Walk α) : Prop :=
  ∀ record, Prod.fst <$> tour.run record = walk

variable {tour : Tour α} {walk : Walk α}

/-- A computation that ends leaves a record. -/
theorem Forgets.exists_record (forgets : Forgets tour walk) {value : α} {walker after : Walker}
    (ran : walk.run walker = .ok (value, after)) (record : List Visit) :
    ∃ longer, (tour.run record).run walker = .ok ((value, longer), after) := by
  rw [← forgets record, StateT.run_map] at ran
  cases result : (tour.run record).run walker with
  | error fault =>
    rw [result] at ran
    cases ran
  | ok ended =>
    rw [result] at ran
    cases ran
    exact ⟨ended.1.2, rfl⟩

theorem forgets_pure (value : α) : Forgets (pure value) (pure value) := by
  intro record
  simp only [StateT.run_pure, map_pure]

theorem forgets_look (walk : Walk α) : Forgets (look walk) walk := by
  intro record
  simp only [look, StateT.run_lift, bind_pure_comp, Functor.map_map, id_map']

theorem Forgets.bind {next : α → Tour β} {after : α → Walk β} (first : Forgets tour walk)
    (later : ∀ value, Forgets (next value) (after value)) :
    Forgets (tour >>= next) (walk >>= after) := by
  intro record
  rw [StateT.run_bind, map_bind, ← first record, bind_map_left]
  congr 1
  funext result
  exact later result.1 result.2

theorem Forgets.ite {test : Prop} [Decidable test] {other : Tour α} {otherWalk : Walk α}
    (first : Forgets tour walk) (second : Forgets other otherWalk) :
    Forgets (if test then tour else other) (if test then walk else otherWalk) := by
  split
  · exact first
  · exact second

theorem forgets_note (arrival : Bool) (walk : Walk α) : Forgets (note arrival walk) walk := by
  intro record
  have unseen (value : α) : (Walk.actor >>= fun _ => pure value) = (pure value : Walk α) := rfl
  simp only [note, look, StateT.run_bind, StateT.run_lift, StateT.run_modify, StateT.run_pure,
    bind_assoc, pure_bind, map_bind, map_pure, unseen, bind_pure]

theorem forgets_part (walk : Walk α) : Forgets (part walk) walk := forgets_note false walk

end Tour

namespace Stage

open Tour

variable (stage : Stage)

theorem forgets_tourStep : Forgets stage.tourStep stage.walkStep :=
  (forgets_part _).bind fun _ => (forgets_part _).bind fun _ => forgets_part stage.strideOn

theorem forgets_tourLeg (next : Point) : Forgets (stage.tourLeg next) (stage.startLeg next) :=
  (forgets_look _).bind fun _ =>
    (forgets_pure _).ite <| (forgets_part _).bind fun _ => stage.forgets_tourStep

theorem forgets_tourOnce : Forgets stage.tourOnce stage.routeOnce := by
  refine (forgets_look _).bind fun actor => ?_
  cases actor.walkBox with
  | none => exact (forgets_part _).bind fun _ => (forgets_part _).bind fun _ => forgets_pure _
  | some box =>
    refine (forgets_pure _).ite ?_
    cases stage.room.nextBox (some box) actor.walk.destBox with
    | none => exact (forgets_part _).bind fun _ => (forgets_part _).bind fun _ => forgets_pure _
    | some next =>
      refine (forgets_part _).bind fun _ => (forgets_look _).bind fun crossing => ?_
      cases crossing with
      | arrived => exact forgets_pure _
      | notAdjacent => exact forgets_pure _
      | via point =>
        exact (forgets_part _).bind fun _ => (stage.forgets_tourLeg point).bind fun _ =>
          (forgets_pure _).ite <| (forgets_part _).bind fun _ => forgets_pure _

theorem forgets_tourRoute (fuel : Nat) : Forgets (stage.tourRoute fuel) (stage.route fuel) := by
  induction fuel with
  | zero => exact forgets_look _
  | succ fuel ih =>
    refine stage.forgets_tourOnce.bind fun round => ?_
    cases round with
    | done => exact forgets_pure _
    | again => exact ih
    | straight =>
      exact (forgets_part _).bind fun _ => (forgets_look _).bind fun _ =>
        (stage.forgets_tourLeg _).bind fun _ => forgets_pure _

theorem forgets_tourStart (fuel : Nat) :
    Forgets (stage.tourStart fuel) (stage.startRoute fuel) :=
  (forgets_part _).bind fun _ => stage.forgets_tourRoute fuel

theorem forgets_tourProceed (fuel : Nat) :
    Forgets (stage.tourProceed fuel) (stage.proceed fuel) :=
  (forgets_look _).bind fun _ =>
    (forgets_note _ _).ite <| (forgets_part _).ite <|
      (forgets_part _).bind fun _ => (forgets_part _).bind fun _ => stage.forgets_tourStart fuel

/-- **A tick that is toured is a tick.** -/
theorem forgets_tourAdvance (fuel : Nat) :
    Forgets (stage.tourAdvance fuel) (stage.advance fuel) := by
  refine (forgets_look _).bind fun actor => (forgets_pure _).ite <|
    (stage.forgets_tourStart fuel).ite ?_
  have onward (walking : Bool) : Forgets (if walking then pure () else stage.tourProceed fuel)
      (if walking then pure () else stage.proceed fuel) :=
    (forgets_pure _).ite (stage.forgets_tourProceed fuel)
  exact (stage.forgets_tourStep.bind onward).ite ((forgets_pure false).bind onward)

end Stage

/-! ## Reading tours -/

namespace Tour

/-- A tour that comes to an end, after a record, gives a value, a longer record and an actor with
a property. -/
def Gives (tour : Tour α) (record : List Visit) (walker : Walker)
    (Holds : α → List Visit → Walker → Prop) : Prop :=
  (tour.run record).Gives (fun _ => True) walker fun result after => Holds result.1 result.2 after

variable {tour : Tour α} {record : List Visit} {walker : Walker}
  {Holds Follows : α → List Visit → Walker → Prop}

theorem Gives.mono (gives : tour.Gives record walker Holds)
    (follows : ∀ value record after, Holds value record after → Follows value record after) :
    tour.Gives record walker Follows :=
  Walk.Gives.mono gives fun result after => follows result.1 result.2 after

theorem Gives.of_ok (gives : tour.Gives record walker Holds) {value : α} {longer : List Visit}
    {after : Walker} (ran : (tour.run record).run walker = .ok ((value, longer), after)) :
    Holds value longer after := by
  unfold Gives Walk.Gives at gives
  rw [ran] at gives
  exact gives

@[simp] theorem gives_pure {value : α} :
    (pure value : Tour α).Gives record walker Holds ↔ Holds value record walker :=
  Iff.rfl

@[simp] theorem gives_bind {next : α → Tour β} {Holds : β → List Visit → Walker → Prop} :
    (tour >>= next).Gives record walker Holds ↔
      tour.Gives record walker fun value record after =>
        (next value).Gives record after Holds := by
  simp only [Gives, StateT.run_bind, Walk.gives_bind]

@[simp] theorem gives_look {walk : Walk α} :
    (look walk).Gives record walker Holds ↔
      walk.Gives (fun _ => True) walker fun value after => Holds value record after := by
  simp only [Gives, look, StateT.run_lift, Walk.gives_bind, Walk.gives_pure]

@[simp] theorem gives_note {arrival : Bool} {walk : Walk α} :
    (note arrival walk).Gives record walker Holds ↔
      walk.Gives (fun _ => True) walker fun value after =>
        Holds value (record ++ [⟨after.actor.walkBox, arrival⟩]) after := by
  simp only [note, gives_bind, gives_look, Walk.gives_actor, gives_pure]
  rfl

@[simp] theorem gives_part {walk : Walk α} :
    (part walk).Gives record walker Holds ↔
      walk.Gives (fun _ => True) walker fun value after =>
        Holds value (record ++ [⟨after.actor.walkBox, false⟩]) after :=
  gives_note

@[simp] theorem gives_ite {test : Prop} [Decidable test] {other : Tour α} :
    (if test then tour else other).Gives record walker Holds ↔
      if test then tour.Gives record walker Holds else other.Gives record walker Holds := by
  split <;> rfl

end Tour

end Adventure
