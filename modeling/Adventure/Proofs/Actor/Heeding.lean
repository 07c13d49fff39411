import Adventure.Proofs.Actor.Rounds
import Adventure.Proofs.Room.NearestBox

/-!
# Which orders to walk are heeded

An order to walk resolves to a place of the walk area before anything else is decided.  An
actor that heeds it heads for that place, facing included, or it rests there already.  There
is one order that no actor on a leg heeds: the order to walk to the very pixel it is just
passing, to face as it does.  Such an order is taken for one that has been carried out, and
the actor walks on to where it was going before.
-/

set_option autoImplicit false

namespace Adventure

variable {Allowed : Fault → Prop}

namespace Actor

/-- The actor is in no part of a leg: none is due, under way or the last one. -/
structure OffLeg (actor : Actor) : Prop where
  newLeg : actor.moving.has Moving.newLeg = false
  inLeg : actor.moving.has Moving.inLeg = false
  lastLeg : actor.moving.has Moving.lastLeg = false

/-- The actor is on its way to a place, to face a direction there. -/
structure Heads (actor : Actor) (target : Point) (facing : Option Int) : Prop where
  moving : actor.isMoving = true
  dest : actor.walk.dest = target
  destFacing : actor.walk.destFacing = facing

/-- The actor is at a place, and not about to leave it. -/
structure Rests (actor : Actor) (target : Point) : Prop where
  pos : actor.pos = target
  offLeg : actor.OffLeg

/-- The order to a place finds an actor there that is on a leg to somewhere else, and that faces
as it is told to. -/
structure Overlooks (actor : Actor) (target : Point) (facing : Option Int) : Prop where
  passing : actor.pos = target
  onLeg : ¬ actor.OffLeg
  elsewhere : ¬ actor.Heads target facing
  faces : ∀ angle ∈ facing, angle = actor.facing

/-- The actor, or one that ignores boxes in none of them. -/
def unboxed (actor : Actor) : Actor :=
  if actor.ignoreBoxes then { actor with walkBox := none } else actor

variable {actor : Actor} {target : Point} {facing : Option Int}

/-- An actor that is where it is sent to rests there or overlooks the order, unless it heads there
already. -/
theorem heads_or_rests_iff (here : actor.pos = target)
    (faces : ∀ angle ∈ facing, angle = actor.facing) :
    actor.Heads target facing ∨ actor.Rests target ↔ ¬ actor.Overlooks target facing := by
  constructor
  · rintro (heads | rests) overlooks
    · exact overlooks.elsewhere heads
    · exact overlooks.onLeg rests.offLeg
  · intro heeds
    by_contra neither
    obtain ⟨elsewhere, leaving⟩ := not_or.mp neither
    exact heeds ⟨here, fun offLeg => leaving ⟨here, offLeg⟩, elsewhere, faces⟩

theorem unboxed_heads_iff : actor.unboxed.Heads target facing ↔ actor.Heads target facing := by
  unfold unboxed
  split
  · exact ⟨fun heads => { heads with }, fun heads => { heads with }⟩
  · rfl

theorem unboxed_rests_iff : actor.unboxed.Rests target ↔ actor.Rests target := by
  unfold unboxed
  split
  · exact ⟨fun ⟨pos, offLeg⟩ => ⟨pos, { offLeg with }⟩, fun ⟨pos, offLeg⟩ => ⟨pos, { offLeg with }⟩⟩
  · rfl

/-- Turning on the spot is no part of a leg. -/
theorem turnTo_rests (here : actor.pos = target) (angle : Int) :
    (actor.turnTo (some angle)).Rests target :=
  ⟨here, (by decide : Moving.has ⟨Moving.turn⟩ Moving.newLeg = false),
    (by decide : Moving.has ⟨Moving.turn⟩ Moving.inLeg = false),
    (by decide : Moving.has ⟨Moving.turn⟩ Moving.lastLeg = false)⟩

end Actor

namespace Stage

variable {stage : Stage} {walker : Walker} {dest : Point} {facing : Option Int}

/-! ## Destinations -/

/-- The place that an order to walk resolves to: the one it names, snapped into the walk area
where the rules or the boxes ask for it. -/
def destination (stage : Stage) (actor : Actor) (dest : Point) : Checked Snapped := do
  let wanted ←
    (if stage.rules.adjustWalkDestination then stage.snap actor dest else pure ⟨dest, none⟩ :
      Checked Snapped)
  stage.resolve actor wanted

/-- What an actor does about an order once its destination is known. -/
def follow (target : Snapped) (facing : Option Int) : Walk Unit := do
  let actor ← Walk.actor
  Walk.change Actor.unboxed
  if !actor.ignoreBoxes && actor.isMoving && actor.walk.destFacing == facing &&
      actor.walk.dest == target.pos then pure ()
  else if actor.pos = target.pos then
    match facing with
    | some angle =>
      if angle = actor.facing then pure () else Walk.change (·.turnTo (some angle))
    | none => pure ()
  else commit target facing

/-- In the room that is shown, an order is a destination to follow. -/
theorem startWalk_gives {Holds : Unit → Walker → Prop} (shown : stage.shows walker.actor = true) :
    (stage.startWalk dest facing).Gives Allowed walker Holds ↔
      (stage.destination walker.actor dest).Gives Allowed fun target =>
        (follow target facing).Gives Allowed walker Holds := by
  simp only [startWalk, destination, follow, Walk.gives_bind, Walk.gives_actor, Walk.gives_lift,
    Checked.gives_bind, shown, Bool.not_true, Bool.false_eq_true, if_false, Walk.gives_ite,
    Walk.gives_change, Walk.gives_pure, Actor.unboxed]
  cases walker.actor.ignoreBoxes <;> rfl

theorem snap_narrow {actor : Actor} {p : Point} (room : stage.room.Narrow) (pFits : p.Narrow) :
    (stage.snap actor p).Gives Allowed fun snapped => snapped.pos.Narrow := by
  unfold snap
  split
  · exact pFits
  · have finds := (Room.snap_gives room.boxes pFits stage.rules.firstValidBox
      (stage.ego == some actor.number)).mono fun _ => Room.Nearest.narrow room.boxes pFits
    exact finds.allow fun _ => False.elim

/-- Every order has a destination when its numbers fit words of 16 bits. -/
theorem destination_narrow {actor : Actor} (room : stage.room.Narrow) (fits : dest.Narrow) :
    (stage.destination actor dest).Gives Allowed fun target => target.pos.Narrow := by
  have wants : (if stage.rules.adjustWalkDestination = true then stage.snap actor dest
      else pure ⟨dest, none⟩).Gives Allowed fun wanted => wanted.pos.Narrow := by
    split
    · exact snap_narrow room fits
    · exact fits
  rw [destination, Checked.gives_bind]
  refine wants.mono fun wanted wantedFits => ?_
  simp only [resolve, Checked.gives_ite, Checked.gives_bind, Checked.gives_pure]
  split
  · exact wantedFits
  · refine (Room.pointInBox_gives room wantedFits).mono fun inside _ => ?_
    split
    · exact wantedFits
    · exact snap_narrow room wantedFits

/-! ## Heeded orders -/

theorem commit_heads {target : Snapped} :
    (commit target facing).Gives Allowed walker fun _ after =>
      after.actor.Heads target.pos facing := by
  simp only [commit, Walk.gives_bind, Walk.gives_actor, Walk.gives_change, Walk.gives_log]
  refine ⟨?_, rfl, rfl⟩
  exact bne_iff_ne.mpr (Moving.bits_ne_zero_of_has (by decide) (Moving.has_plus_self _ _))

/-- **An order is heeded unless it is overlooked**, and then it changes nothing. -/
theorem follow_heeds (target : Snapped) (facing : Option Int) :
    (follow target facing).Gives Allowed walker fun _ after =>
      ((after.actor.Heads target.pos facing ∨ after.actor.Rests target.pos) ↔
        ¬ walker.actor.Overlooks target.pos facing) ∧
      (walker.actor.Overlooks target.pos facing → after.actor = walker.actor.unboxed) := by
  simp only [follow, Walk.gives_bind, Walk.gives_actor, Walk.gives_change, Walk.gives_ite,
    Walk.gives_pure]
  split
  next underWay =>
    simp only [Bool.and_eq_true, beq_iff_eq] at underWay
    obtain ⟨⟨⟨_, moving⟩, faces⟩, aims⟩ := underWay
    have heads : walker.actor.Heads target.pos facing := ⟨moving, aims, faces⟩
    exact ⟨iff_of_true (.inl (Actor.unboxed_heads_iff.mpr heads))
      fun overlooks => overlooks.elsewhere heads, fun _ => trivial⟩
  next =>
    split
    next here =>
      have stays (faces : ∀ angle ∈ facing, angle = walker.actor.facing) :
          (walker.actor.unboxed.Heads target.pos facing ∨
              walker.actor.unboxed.Rests target.pos) ↔
            ¬ walker.actor.Overlooks target.pos facing := by
        rw [Actor.unboxed_heads_iff, Actor.unboxed_rests_iff]
        exact Actor.heads_or_rests_iff here faces
      split
      next angle _ =>
        simp only [Walk.gives_ite, Walk.gives_pure, Walk.gives_change]
        split
        next faces =>
          exact ⟨stays fun other asked => Option.mem_some.mp asked ▸ faces, fun _ => trivial⟩
        next turns =>
          have heeded : ¬ walker.actor.Overlooks target.pos (some angle) :=
            fun overlooks => turns (overlooks.faces angle rfl)
          refine ⟨iff_of_true (.inr ?_) heeded, fun overlooks => absurd overlooks heeded⟩
          exact Actor.turnTo_rests (by unfold Actor.unboxed; split <;> exact here) angle
      next => exact ⟨stays fun _ asked => absurd asked (Option.not_mem_none _), fun _ => rfl⟩
    next away =>
      have heeded : ¬ walker.actor.Overlooks target.pos facing :=
        fun overlooks => away overlooks.passing
      refine commit_heads.mono fun _ after heads => ?_
      exact ⟨iff_of_true (.inl heads) heeded, fun overlooks => absurd overlooks heeded⟩

/-- **An actor commits to the destination of its order, unless it overlooks the order.**  It then
heads for the destination, to face as ordered, or rests there; an order that it overlooks leaves
the walk before it under way. -/
theorem startWalk_commits (shown : stage.shows walker.actor = true) (dest : Point)
    (facing : Option Int) :
    (stage.startWalk dest facing).Gives (fun _ => ¬ (stage.room.Narrow ∧ dest.Narrow)) walker
      fun _ after => ∃ target, stage.destination walker.actor dest = .ok target ∧
        ((after.actor.Heads target.pos facing ∨ after.actor.Rests target.pos) ↔
          ¬ walker.actor.Overlooks target.pos facing) ∧
        (walker.actor.Overlooks target.pos facing → after.actor = walker.actor.unboxed) := by
  rw [startWalk_gives shown]
  have resolves : (stage.destination walker.actor dest).Gives
      (fun _ => ¬ (stage.room.Narrow ∧ dest.Narrow)) fun _ => True := by
    by_cases narrow : stage.room.Narrow ∧ dest.Narrow
    · exact (destination_narrow narrow.1 narrow.2).mono fun _ _ => trivial
    · exact Checked.gives_anything.allow fun _ _ => narrow
  refine resolves.and_ok.mono ?_
  rintro target ⟨found, -⟩
  exact (follow_heeds target facing).mono fun _ _ heeds => ⟨target, found, heeds⟩

/-- A room with one box, behind one that is only a point. -/
def hall : Stage := ⟨.plain 1 [plainBox 0 0 0 0, plainBox 0 0 100 50] .empty, .standard, 1, none⟩

/-- An actor in the hall. -/
def inHall : Walker := Walker.after ⟨Actor.fresh 1, []⟩ (hall.put ⟨20, 25⟩ 1)

/-- The same actor, sent to the other side of the hall. -/
def sentAcross : Walker := inHall.after (hall.startWalk ⟨90, 25⟩ none)

/-- The same actor one tick later, on its leg. -/
def crossingHall : Walker := sentAcross.after (hall.advance 256)

/-- An order to step aside is heeded in the middle of the leg. -/
theorem startWalk_commits_crossingHall :
    hall.shows crossingHall.actor = true ∧
      ∃ after target, (hall.startWalk ⟨27, 30⟩ none).run crossingHall = .ok ((), after) ∧
        hall.destination crossingHall.actor ⟨27, 30⟩ = .ok target ∧ target.pos = ⟨27, 30⟩ ∧
        (after.actor.Heads target.pos none ∨ after.actor.Rests target.pos) := by
  have shown : hall.shows crossingHall.actor = true := rfl
  have ran : (hall.startWalk ⟨27, 30⟩ none).run crossingHall =
      .ok ((), crossingHall.after (hall.startWalk ⟨27, 30⟩ none)) := rfl
  have resolved : hall.destination crossingHall.actor ⟨27, 30⟩ = .ok ⟨⟨27, 30⟩, some 1⟩ := rfl
  have commits := startWalk_commits shown ⟨27, 30⟩ none
  unfold Walk.Gives at commits
  rw [ran] at commits
  obtain ⟨target, found, heeds, -⟩ := commits
  obtain rfl : target = ⟨⟨27, 30⟩, some 1⟩ := Except.ok.inj (found.symm.trans resolved)
  refine ⟨shown, _, _, ran, found, rfl, heeds.mpr fun overlooks => ?_⟩
  exact absurd overlooks.passing (by decide)

/-- The order to walk to the pixel it is passing is not: the actor crosses the hall. -/
theorem crossingHall_overlooks_order :
    ((hall.put ⟨20, 25⟩ 1).run ⟨Actor.fresh 1, []⟩ = .ok ((), inHall) ∧
      (hall.startWalk ⟨90, 25⟩ none).run inHall = .ok ((), sentAcross) ∧
      (hall.advance 256).run sentAcross = .ok ((), crossingHall)) ∧
    hall.destination crossingHall.actor ⟨27, 25⟩ = .ok ⟨⟨27, 25⟩, some 1⟩ ∧
    (hall.startWalk ⟨27, 25⟩ none).run crossingHall = .ok ((), crossingHall) ∧
    ¬ (crossingHall.actor.Heads ⟨27, 25⟩ none ∨ crossingHall.actor.Rests ⟨27, 25⟩) := by
  refine ⟨⟨rfl, rfl, rfl⟩, rfl, rfl, ?_⟩
  rintro (⟨_, aims, _⟩ | ⟨_, _, onLeg, _⟩)
  · exact absurd aims (by decide)
  · exact absurd onLeg (by decide)

end Stage

end Adventure
