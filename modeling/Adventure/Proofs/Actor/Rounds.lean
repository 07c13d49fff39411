import Adventure.Proofs.Actor.Walking
import Adventure.Proofs.Geometry.Faults
import Adventure.Proofs.Routing.ShortestRoute
import Adventure.Room.Adjacency
import Mathlib.Data.Fintype.Card
import Mathlib.Logic.Relation

/-!
# The search for the next leg ends

When a leg is over, the search for the next one follows the routing from box to box until
it finds a leg with a real distance.  An actor that stands on a border already is not moved
by it, so nothing but the routing bounds the search: a repeated round has gone one hop on
(`routeOnce_prompt`).  In a routing without circles no box comes up twice, and there are 256
boxes at most.  Rebuilt routing has no circles, as every hop is closer to the destination;
routing that was written down by somebody may have one, and then the search never ends.
-/

set_option autoImplicit false

namespace Adventure

/-! ## Computations that search nothing -/

theorem Crossing.find_prompt (room : Room) (actor : Actor) (source target : BoxId)
    (final : Option BoxId) : (Crossing.find room actor source target final).Prompt := by
  unfold Crossing.find
  split
  · split
    · unfold Crossing.at_
      split
      · simp [Crossing.meetVertical]
      · simp [Crossing.meetHorizontal]
    · trivial
  · trivial

@[simp] theorem Leg.covered_prompt (start pos : Int) : (Leg.covered start pos).Prompt := by
  simp [Leg.covered]

@[simp] theorem Leg.isOver_prompt (walk : WalkState) (lengthX lengthY : Int) (pos : Point) :
    (Leg.isOver walk lengthX lengthY pos).Prompt := by
  simp [Leg.isOver]

@[simp] theorem Leg.hold_prompt (start stop length pos : Int) :
    (Leg.hold start stop length pos).Prompt := by
  simp [Leg.hold]

@[simp] theorem Leg.plan_prompt (speedX speedY diffX diffY : Int) :
    (Leg.plan speedX speedY diffX diffY).Prompt := by
  simp [Leg.plan]

namespace Stage

variable {stage : Stage} {walker : Walker}

@[simp] theorem nextFacing_prompt (stage : Stage) (actor : Actor) (walking : Bool) :
    (stage.nextFacing actor walking).Prompt := by
  simp [nextFacing, remap, Facing.ofStep]

theorem setBox_prompt (stage : Stage) (box : Option BoxId) (actor : Actor) :
    (stage.setBox box actor).Gives Fault.OfWord fun changed =>
      changed.walkBox = box ∧ Ready actor changed :=
  setBox_gives (stage.room.boxScale_prompt _ _)

theorem pace_prompt (rules : Rules) (actor : Actor) :
    (Leg.pace rules actor).Gives Fault.OfWord fun result =>
      result.2.walk.destBox = actor.walk.destBox := by
  simp [Leg.pace, Leg.step, Leg.stride]

/-! ## Parts of a tick that keep the destination -/

theorem walkStep_prompt (stage : Stage) (walker : Walker) :
    stage.walkStep.Gives Fault.OfWord walker fun _ after =>
      after.actor.walk.destBox = walker.actor.walk.destBox := by
  refine walkStep_gives (nextFacing_prompt _ _ _) (Room.pointInBox_prompt _ _ _)
    (Room.boxScale_prompt _ _ _) fun ready events isReady => ?_
  refine (pace_prompt stage.rules ready).mono fun result same => ?_
  rw [same, isReady.walk]

theorem startLeg_prompt (stage : Stage) (next : Point) (walker : Walker) :
    (stage.startLeg next).Gives Fault.OfWord walker fun _ after =>
      after.actor.walk.destBox = walker.actor.walk.destBox := by
  simp only [startLeg, Walk.gives_bind, Walk.gives_actor, Walk.gives_ite, Walk.gives_pure,
    Walk.gives_changeChecked]
  split
  · trivial
  · have planned : (planLeg next walker.actor).Gives Fault.OfWord fun planned =>
        planned.walk.destBox = walker.actor.walk.destBox := by
      simp [planLeg]
    refine planned.mono fun planned same => ?_
    exact (stage.walkStep_prompt _).mono fun _ after kept => kept.trans same

end Stage

/-! ## Circles -/

namespace Room

/-- The routing leads from a box, which is not the destination, into the next one. -/
def Leads (room : Room) (dest : Option BoxId) (box next : BoxId) : Prop :=
  some box ≠ dest ∧ room.nextBox (some box) dest = some next

/-- Following the routing toward a destination, one comes back to a box one has left. -/
def Circular (room : Room) (dest : Option BoxId) : Prop :=
  ∃ box, Relation.TransGen (room.Leads dest) box box

/-- A chain of hops of distinct boxes, in a routing without circles. -/
theorem Leads.nodup_cons {room : Room} {dest : Option BoxId} {box next : BoxId}
    {seen : List BoxId} (straight : ¬ room.Circular dest) (leads : room.Leads dest box next)
    (trail : ∀ old ∈ seen, Relation.TransGen (room.Leads dest) old box) :
    next ∉ box :: seen ∧ ∀ old ∈ box :: seen, Relation.TransGen (room.Leads dest) old next := by
  have onward : ∀ old ∈ box :: seen, Relation.TransGen (room.Leads dest) old next := by
    intro old member
    rcases List.mem_cons.mp member with rfl | member
    · exact .single leads
    · exact (trail old member).tail leads
  exact ⟨fun member => straight ⟨next, onward next member⟩, onward⟩

/-- A next box of a room is one that its matrix names. -/
theorem matrix_of_nextBox {room : Room} {source target : Option BoxId} {hop : BoxId}
    (answer : room.nextBox source target = some hop) :
    room.matrix.nextBox source target = some hop := by
  unfold nextBox at answer
  split at answer
  next found =>
    obtain ⟨-, same⟩ := Option.ite_none_right_eq_some.mp answer
    rw [found, same]
  next => cases answer

section Rebuilt

variable {room : Room} {count : Nat} {neighbours : BoxId → BoxId → Bool} {target : BoxId}

/-- A hop of rebuilt routing is one step closer to the destination. -/
theorem Leads.closer {box next : BoxId} (rebuilt : room.matrix = Matrix.rebuild count neighbours)
    (leads : room.Leads (some target) box next) :
    ∃ rest, Matrix.IsDistance neighbours (Matrix.routable count) (rest + 1) box target ∧
      Matrix.IsDistance neighbours (Matrix.routable count) rest next target := by
  obtain ⟨away, answer⟩ := leads
  have distinct : box ≠ target := fun same => away (congrArg some same)
  have found := matrix_of_nextBox answer
  rw [rebuilt] at found
  exact (Matrix.nextBox_rebuild_closer count neighbours distinct found).2

theorem closer_of_chain {far near : BoxId} (rebuilt : room.matrix = Matrix.rebuild count neighbours)
    (chain : Relation.TransGen (room.Leads (some target)) far near) :
    ∃ more less, less < more ∧
      Matrix.IsDistance neighbours (Matrix.routable count) more far target ∧
      Matrix.IsDistance neighbours (Matrix.routable count) less near target := by
  induction chain with
  | single leads =>
      obtain ⟨rest, fromFar, fromNear⟩ := leads.closer rebuilt
      exact ⟨rest + 1, rest, Nat.lt_succ_self rest, fromFar, fromNear⟩
  | tail _ leads ih =>
      obtain ⟨more, less, smaller, fromFar, fromMiddle⟩ := ih
      obtain ⟨rest, fromMiddle', fromNear⟩ := leads.closer rebuilt
      have same := fromMiddle.unique fromMiddle'
      exact ⟨more, rest, by omega, fromFar, fromNear⟩

/-- Rebuilt routing has no circles. -/
theorem not_circular_of_rebuild (rebuilt : room.matrix = Matrix.rebuild count neighbours)
    (dest : Option BoxId) : ¬ room.Circular dest := by
  rintro ⟨box, circle⟩
  cases dest with
  | none =>
      obtain ⟨next, ⟨_, answer⟩, _⟩ := Relation.TransGen.head'_iff.mp circle
      simp [nextBox, Matrix.nextBox] at answer
  | some target =>
      obtain ⟨more, less, smaller, first, second⟩ := closer_of_chain rebuilt circle
      have same := first.unique second
      omega

end Rebuilt

end Room

namespace Stage

variable {stage : Stage} {walker : Walker} {dest : Option BoxId} {fuel : Nat}

/-- **A round that is repeated has taken the actor one hop on.** -/
theorem routeOnce_prompt (stage : Stage) (walker : Walker) :
    stage.routeOnce.Gives Fault.OfWord walker fun round after => round = .again →
      ∃ box next, walker.actor.walkBox = some box ∧
        stage.room.Leads walker.actor.walk.destBox box next ∧
        after.actor.walkBox = some next ∧
        after.actor.walk.destBox = walker.actor.walk.destBox := by
  simp only [routeOnce, Walk.gives_bind, Walk.gives_actor]
  split
  next =>
    simp only [Walk.gives_bind, Walk.gives_changeChecked, Walk.gives_change, Walk.gives_pure]
    refine (stage.setBox_prompt _ _).mono fun _ _ => ?_
    rintro ⟨⟩
  next box stands =>
    simp only [Walk.gives_ite, Walk.gives_pure]
    split
    · rintro ⟨⟩
    next away =>
      split
      · rintro ⟨⟩
      next next hop =>
        simp only [Walk.gives_bind, Walk.gives_change, Walk.gives_lift]
        refine (Crossing.find_prompt _ _ _ _ _).gives fun crossing => ?_
        cases crossing with
        | arrived => rintro ⟨⟩
        | notAdjacent => rintro ⟨⟩
        | via point =>
            simp only [Walk.gives_bind, Walk.gives_change]
            refine (stage.startLeg_prompt _ _).mono fun more started kept => ?_
            simp only [Walk.gives_ite, Walk.gives_pure, Walk.gives_bind, Walk.gives_changeChecked]
            split
            · rintro ⟨⟩
            · refine (stage.setBox_prompt _ _).mono ?_
              rintro changed ⟨inside, ready⟩ _
              refine ⟨box, next, stands, ⟨away, hop⟩, inside, ?_⟩
              rw [ready.walk]
              exact kept

/-- A search ends when its first round does and the search that follows it. -/
theorem route_succ
    (rounds : stage.routeOnce.Gives Fault.OfWord walker fun round after => round = .again →
      (stage.route fuel).Gives Fault.OfWord after fun _ _ => True) :
    (stage.route (fuel + 1)).Gives Fault.OfWord walker fun _ _ => True := by
  rw [route, Walk.gives_bind]
  refine rounds.mono fun round after again => ?_
  cases round with
  | done => trivial
  | again => exact again rfl
  | straight =>
      simp only [Walk.gives_bind, Walk.gives_change, Walk.gives_actor, Walk.gives_pure]
      exact (stage.startLeg_prompt _ _).mono fun _ _ _ => trivial

/-- There are 256 boxes at most. -/
theorem length_le_of_nodup {boxes : List BoxId} (nodup : boxes.Nodup) : boxes.length ≤ 256 := by
  have distinct : (boxes.map UInt8.toFin).Nodup :=
    nodup.map fun _ _ same => UInt8.toFin_inj.mp same
  have few := distinct.length_le_card
  rwa [List.length_map, Fintype.card_fin] at few

/-- The search ends from a box on: the boxes `seen` so far and the bound that is left make up
for all boxes there are, and no box comes up twice. -/
theorem route_ends (straight : ¬ stage.room.Circular dest) (fuel : Nat) (walker : Walker)
    (box : BoxId) (seen : List BoxId) (stands : walker.actor.walkBox = some box)
    (heads : walker.actor.walk.destBox = dest) (nodup : (box :: seen).Nodup)
    (trail : ∀ old ∈ seen, Relation.TransGen (stage.room.Leads dest) old box)
    (enough : 256 ≤ seen.length + fuel) :
    (stage.route fuel).Gives Fault.OfWord walker fun _ _ => True := by
  induction fuel generalizing walker box seen with
  | zero =>
      have few := length_le_of_nodup nodup
      rw [List.length_cons] at few
      omega
  | succ fuel ih =>
      refine route_succ ((stage.routeOnce_prompt walker).mono fun round after found again => ?_)
      obtain ⟨box', next, stands', leads, stands'', same⟩ := found again
      cases stands.symm.trans stands'
      rw [heads] at leads same
      obtain ⟨new, trail'⟩ := leads.nodup_cons straight trail
      refine ih after next (box :: seen) stands'' same (List.nodup_cons.mpr ⟨new, nodup⟩) trail' ?_
      rw [List.length_cons]
      omega

theorem startRoute_ends (straight : ¬ stage.room.Circular walker.actor.walk.destBox)
    (enough : 256 ≤ fuel) :
    (stage.startRoute fuel).Gives Fault.OfWord walker fun _ _ => True := by
  simp only [startRoute, Walk.gives_bind, Walk.gives_change]
  cases walker.actor.walkBox with
  | none =>
      -- from nowhere there is one round only
      obtain ⟨fuel, rfl⟩ : ∃ less, fuel = less + 1 := ⟨fuel - 1, by omega⟩
      refine route_succ ((stage.routeOnce_prompt _).mono fun round after found again => ?_)
      obtain ⟨box, _, stands, _⟩ := found again
      cases stands
  | some box =>
      refine route_ends straight fuel _ box [] rfl rfl (List.nodup_singleton box)
        (fun _ member => absurd member List.not_mem_nil) ?_
      rw [List.length_nil]
      omega

theorem proceed_ends (straight : ¬ stage.room.Circular walker.actor.walk.destBox)
    (enough : 256 ≤ fuel) : (stage.proceed fuel).Gives Fault.OfWord walker fun _ _ => True := by
  simp only [proceed, Walk.gives_bind, Walk.gives_actor, Walk.gives_ite]
  split
  · simp only [arrive, Walk.gives_bind, Walk.gives_change, Walk.gives_changeChecked,
      Walk.gives_actor, Walk.gives_log]
    refine (stage.setBox_prompt _ _).mono fun changed _ => ?_
    exact startAnim_gives fun _ _ _ => trivial
  · split
    · simp [turnOnce]
    · simp only [Walk.gives_changeChecked, Walk.gives_change]
      refine (stage.setBox_prompt _ _).mono ?_
      rintro changed ⟨_, ready⟩
      refine startRoute_ends ?_ enough
      rw [← ready.walk] at straight
      exact straight

/-- **The search for the next leg never hangs in a routing without circles.** -/
theorem advance_ends
    (routing : (∃ count neighbours, stage.room.matrix = Matrix.rebuild count neighbours) ∨
      ¬ stage.room.Circular walker.actor.walk.destBox)
    (enough : 256 ≤ fuel) : (stage.advance fuel).run walker ≠ .error .outOfFuel := by
  have straight : ¬ stage.room.Circular walker.actor.walk.destBox := by
    rcases routing with ⟨count, neighbours, rebuilt⟩ | straight
    · exact Room.not_circular_of_rebuild rebuilt _
    · exact straight
  have ends : (stage.advance fuel).Gives Fault.OfWord walker fun _ _ => True := by
    simp only [advance, Walk.gives_bind, Walk.gives_actor, Walk.gives_ite, Walk.gives_pure]
    split
    · trivial
    · split
      · exact startRoute_ends straight enough
      · split
        · refine (stage.walkStep_prompt walker).mono fun walking after kept => ?_
          split
          · trivial
          · exact proceed_ends (kept ▸ straight) enough
        · exact proceed_ends straight enough
  intro hangs
  rw [Walk.Gives, hangs] at ends
  exact ends rfl

/-! ## A circle -/

/-- A plain rectangular box. -/
def plainBox (left top right bottom : Int) : WalkBox :=
  ⟨⟨⟨left, top⟩, ⟨right, top⟩, ⟨right, bottom⟩, ⟨left, bottom⟩⟩, 0, .none, .fixed 255⟩

/-- Three boxes in a row, behind one that is only a point. -/
def rowOfBoxes : List WalkBox :=
  [plainBox 0 0 0 0, plainBox 0 0 100 50, plainBox 100 0 200 50, plainBox 200 10 300 40]

/-- An actor on the border of the first two boxes of the row, on its way to the third. -/
def onBorder (box : BoxId) (checkpoint : Option Point) (moving : Moving) : Walker :=
  ⟨{ Actor.fresh 1 with
      room := 1
      pos := ⟨100, 25⟩
      moving := moving
      walkBox := some box
      walk :=
        { WalkState.fresh with
          dest := ⟨280, 25⟩
          destBox := some 3
          curBox := some box
          checkpoint := checkpoint } }, []⟩

/-- The row with the routing that follows from it. -/
def rowStage : Stage := ⟨(Room.plain 1 rowOfBoxes .empty).rebuildMatrix, .standard, 1, none⟩

theorem advance_ends_rowStage :
    (∃ count neighbours, rowStage.room.matrix = Matrix.rebuild count neighbours) ∧
      (rowStage.advance 256).run (onBorder 1 none ⟨Moving.newLeg⟩) ≠ .error .outOfFuel :=
  have rebuilt : ∃ count neighbours, rowStage.room.matrix = Matrix.rebuild count neighbours :=
    ⟨_, _, rfl⟩
  ⟨rebuilt, advance_ends (.inl rebuilt) (Nat.le_refl 256)⟩

/-- The row with a routing by which the way to the third box leads from the first into the
second and from the second into the first. -/
def circleStage : Stage :=
  ⟨.plain 1 rowOfBoxes ⟨[[], [⟨3, 3, 2⟩], [⟨3, 3, 1⟩], []], false⟩, .standard, 1, none⟩

theorem circleStage_round (checkpoint : Option Point) :
    circleStage.routeOnce.run (onBorder 1 checkpoint .still) =
        .ok (.again, onBorder 2 (some ⟨100, 25⟩) .still) ∧
      circleStage.routeOnce.run (onBorder 2 checkpoint .still) =
        .ok (.again, onBorder 1 (some ⟨100, 25⟩) .still) :=
  ⟨rfl, rfl⟩

/-- The search goes from box to box and back, whatever its bound. -/
theorem circleStage_route (fuel : Nat) (checkpoint : Option Point) :
    (circleStage.route fuel).run (onBorder 1 checkpoint .still) = .error .outOfFuel ∧
      (circleStage.route fuel).run (onBorder 2 checkpoint .still) = .error .outOfFuel := by
  induction fuel generalizing checkpoint with
  | zero => exact ⟨rfl, rfl⟩
  | succ fuel ih =>
      obtain ⟨first, second⟩ := circleStage_round checkpoint
      constructor
      · rw [route, StateT.run_bind, first]
        exact (ih (some ⟨100, 25⟩)).2
      · rw [route, StateT.run_bind, second]
        exact (ih (some ⟨100, 25⟩)).1

/-- In a routing with a circle the search may never end. -/
theorem advance_hangs_in_circle :
    ¬ ∃ fuel, (circleStage.advance fuel).run (onBorder 1 none ⟨Moving.newLeg⟩) ≠
      .error .outOfFuel := by
  rintro ⟨fuel, ends⟩
  exact ends (circleStage_route fuel none).1

end Stage

end Adventure
