import Adventure.Proofs.Actor.Progress
import Adventure.Proofs.Actor.Turning

/-!
# Actors that go nowhere any more

An actor whose last leg ends in the box in which it starts is about to arrive, then it may turn,
and then it stands still.  Nothing of this moves it.  Every tick brings it closer to standing
still (`WindsDown`), however often it is scaled anew in between.
-/

set_option autoImplicit false

namespace Adventure

open Word

variable {Allowed : Fault → Prop}

/-- What the actor has to do with words fits 16 bits: its place and the facings it may turn to. -/
structure Actor.FitsWords (actor : Actor) : Prop where
  pos : actor.pos.Narrow
  targetFacing : Fits16 actor.targetFacing
  destFacing : ∀ angle ∈ actor.walk.destFacing, Fits16 angle

namespace Stage

variable {stage : Stage} {walker : Walker} {actor : Actor} {pos : Point} {box : BoxId}
  {ticks : Nat}

/-! ## Winding down -/

/-- All faults are allowed, or there is no cause for any. -/
def Sound (Allowed : Fault → Prop) (stage : Stage) (actor : Actor) : Prop :=
  (∀ fault, Allowed fault) ∨ stage.room.Narrow ∧ actor.FitsWords

theorem Sound.gives {α : Type} {computation : Checked α} (sound : stage.Sound Allowed actor)
    (answers : stage.room.Narrow → actor.FitsWords →
      computation.Gives Allowed fun _ => True) : computation.Gives Allowed fun _ => True := by
  rcases sound with all | ⟨room, fits⟩
  · exact Checked.gives_anything.allow fun fault _ => all fault
  · exact answers room fits

theorem Sound.imp {after : Actor} (sound : stage.Sound Allowed actor)
    (fits : actor.FitsWords → after.FitsWords) : stage.Sound Allowed after :=
  sound.imp_right fun both => ⟨both.1, fits both.2⟩

/-- Half a compass of steps, as many as a turn may take. -/
def halfCompass (stage : Stage) : Nat := stage.rules.compass.steps.toNat / 2

/-- An actor that goes nowhere any more and stops within a number of ticks. -/
inductive WindsDown (stage : Stage) (ticks : Nat) (actor : Actor) : Prop where
  | still (moving : actor.moving = .still)
  | turns {steps : Nat} (few : steps < ticks) (turns : stage.TurnsOn steps actor)
  /-- The last leg is over before it has begun: it ends in the box in which it starts. -/
  | ends (few : stage.halfCompass + 1 < ticks)
      (newLeg : actor.moving.has Moving.newLeg = false)
      (inLeg : actor.moving.has Moving.inLeg = false)
      (lastLeg : actor.moving.has Moving.lastLeg = true)
      (home : actor.walk.destBox = actor.walkBox)

theorem WindsDown.stopped (windsDown : stage.WindsDown 0 actor) : actor.isMoving = false := by
  cases windsDown with
  | still moving => simp [Actor.isMoving, moving, Moving.still]
  | turns few => exact absurd few (Nat.not_lt_zero _)
  | ends few => exact absurd few (Nat.not_lt_zero _)

/-- An actor that stays in a place and a box and stops within a number of ticks. -/
structure Lingers (Allowed : Fault → Prop) (stage : Stage) (pos : Point) (box : BoxId)
    (ticks : Nat) (actor : Actor) : Prop where
  pos : actor.pos = pos
  stands : actor.walkBox = some box
  windsDown : stage.WindsDown ticks actor
  sound : stage.Sound Allowed actor

/-- An actor that arrives stays where it is, and turns or stands still. -/
theorem arrive_lingers (place : walker.actor.pos = pos)
    (home : walker.actor.walk.destBox = some box) (few : stage.halfCompass < ticks)
    (sound : stage.Sound Allowed walker.actor) :
    stage.arrive.Gives Allowed walker fun _ after =>
      Lingers Allowed stage pos box ticks after.actor := by
  simp only [arrive, Walk.gives_bind, Walk.gives_actor, Walk.gives_change, Walk.gives_changeChecked,
    Walk.gives_log]
  have scales : (stage.room.boxScale walker.actor.walk.destBox walker.actor.pos).Gives Allowed
      fun _ => True := sound.gives fun room fits => Room.boxScale_gives room fits.pos
  refine (rescale_scales scales).mono ?_
  rintro changed ⟨scaleX, scaleY, rfl, -⟩
  refine startAnim_gives fun frame redraw events => ?_
  dsimp only
  split
  · exact ⟨place, home, .still rfl, sound.imp fun fits => { fits with }⟩
  · unfold Actor.turnTo
    split
    next angle asked =>
      refine ⟨place, home, .turns few ⟨rfl, fun remapped _ => ?_⟩, sound.imp fun fits => ?_⟩
      · exact Facing.turnsLeft_le _ _ _
      · exact { fits with targetFacing := fits.destFacing angle asked }
    next => exact ⟨place, home, .still rfl, sound.imp fun fits => { fits with }⟩

section Tick

variable {Holds : Unit → Walker → Prop} {fuel : Nat}

/-- A tick does nothing with an actor that stands still. -/
theorem gives_advance_still (moving : walker.actor.moving = .still) :
    (stage.advance fuel).Gives Allowed walker Holds ↔ Holds () walker := by
  simp only [advance, Walk.gives_bind, Walk.gives_actor, Walk.gives_ite, Walk.gives_pure,
    Actor.isMoving]
  rw [moving, if_pos (by decide)]

/-- A tick of an actor that turns on the spot is a step of the turn. -/
theorem gives_advance_turning (moving : walker.actor.moving = ⟨Moving.turn⟩) :
    (stage.advance fuel).Gives Allowed walker Holds ↔
      stage.turnOnce.Gives Allowed walker Holds := by
  simp only [advance, Walk.gives_bind, Walk.gives_actor, Walk.gives_ite, Actor.isMoving]
  rw [moving, if_neg (by decide), if_neg (by decide), if_neg (by decide)]
  simp only [proceed, Bool.false_eq_true, if_false, Walk.gives_bind, Walk.gives_actor,
    Walk.gives_ite, Walk.gives_pure]
  rw [moving, if_neg (by decide), if_pos (by decide)]

/-- A tick of an actor whose last leg is over is its arrival. -/
theorem gives_advance_arriving (newLeg : walker.actor.moving.has Moving.newLeg = false)
    (inLeg : walker.actor.moving.has Moving.inLeg = false)
    (lastLeg : walker.actor.moving.has Moving.lastLeg = true) :
    (stage.advance fuel).Gives Allowed walker Holds ↔
      stage.arrive.Gives Allowed walker Holds := by
  have moves := Moving.bits_ne_zero_of_has (by decide) lastLeg
  simp only [advance, Walk.gives_bind, Walk.gives_actor, Walk.gives_ite, Actor.isMoving]
  rw [if_neg (by simpa using moves), newLeg, if_neg Bool.false_ne_true, inLeg,
    if_neg Bool.false_ne_true]
  simp only [proceed, Bool.false_eq_true, if_false, Walk.gives_bind, Walk.gives_actor,
    Walk.gives_ite, Walk.gives_pure]
  rw [lastLeg, if_pos rfl]

end Tick

/-- **A tick leaves a lingering actor where it is**, one tick closer to standing still. -/
theorem advance_lingers (lingers : Lingers Allowed stage pos box ticks walker.actor)
    (fuel : Nat) : (stage.advance fuel).Gives Allowed walker fun _ after =>
      Lingers Allowed stage pos box (ticks - 1) after.actor := by
  obtain ⟨place, stands, windsDown, sound⟩ := lingers
  cases windsDown with
  | still moving =>
    rw [gives_advance_still moving]
    exact ⟨place, stands, .still moving, sound⟩
  | turns few turns =>
    rw [gives_advance_turning turns.moving]
    refine (turnOnce_turns turns (sound.gives fun _ fits => remap_gives fits.targetFacing)).mono ?_
    rintro _ after (same | ⟨less, same, turns⟩)
    · rw [same]
      exact ⟨place, stands, .still rfl, sound.imp fun fits => { fits with }⟩
    · refine ⟨?_, ?_, .turns (by omega) turns, sound.imp fun fits => ?_⟩
      · rw [same]
        exact place
      · rw [same]
        exact stands
      · rw [same]
        exact { fits with }
  | ends few newLeg inLeg lastLeg home =>
    rw [gives_advance_arriving newLeg inLeg lastLeg]
    exact arrive_lingers place (home.trans stands) (by omega) sound

theorem rescale_lingers (lingers : Lingers Allowed stage pos box ticks actor) :
    (stage.rescale actor).Gives Allowed (Lingers Allowed stage pos box ticks) := by
  obtain ⟨place, stands, windsDown, sound⟩ := lingers
  have scales : (stage.room.boxScale actor.walkBox actor.pos).Gives Allowed fun _ => True :=
    sound.gives fun room fits => Room.boxScale_gives room fits.pos
  refine (rescale_scales scales).mono ?_
  rintro changed ⟨scaleX, scaleY, rfl, -⟩
  refine ⟨place, stands, ?_, sound.imp fun fits => { fits with }⟩
  cases windsDown with
  | still moving => exact .still moving
  | turns few turns => exact .turns few ⟨turns.moving, turns.left⟩
  | ends few newLeg inLeg lastLeg home => exact .ends few newLeg inLeg lastLeg home

end Stage

/-- Whether a call is a tick. -/
def Drive.isTick : Drive → Bool
  | .advance _ _ => true
  | .rescale _ => false

namespace Stage

variable {stage : Stage} {walker : Walker} {pos : Point} {box : BoxId} {ticks : Nat}

/-- **A lingering actor stays where it is** through any calls, and every tick among them brings it
closer to standing still. -/
theorem drives_linger (lingers : Lingers Allowed stage pos box ticks walker.actor)
    {drives : List Drive} (seen : ∀ drive ∈ drives, drive.stage = stage) :
    (drives.forM Drive.carryOut).Gives Allowed walker fun _ after =>
      Lingers Allowed stage pos box (ticks - drives.countP Drive.isTick) after.actor := by
  induction drives generalizing walker ticks with
  | nil => exact lingers
  | cons drive drives ih =>
    have later : ∀ drive ∈ drives, drive.stage = stage :=
      fun other member => seen other (List.mem_cons_of_mem _ member)
    change (drive.carryOut >>= fun _ => drives.forM Drive.carryOut).Gives Allowed walker _
    rw [Walk.gives_bind]
    cases drive with
    | advance other fuel =>
      obtain rfl : other = stage := seen _ List.mem_cons_self
      refine (advance_lingers lingers fuel).mono fun _ middle lingers => ?_
      have rest : ticks - 1 - drives.countP Drive.isTick =
          ticks - (Drive.advance other fuel :: drives).countP Drive.isTick := by
        rw [List.countP_cons_of_pos rfl]
        omega
      exact rest ▸ ih lingers later
    | rescale other =>
      obtain rfl : other = stage := seen _ List.mem_cons_self
      have scaled : (Drive.rescale other).carryOut.Gives Allowed walker fun _ after =>
          Lingers Allowed other pos box ticks after.actor :=
        Walk.gives_changeChecked.mpr (rescale_lingers lingers)
      refine scaled.mono fun _ middle lingers => ?_
      rw [List.countP_cons_of_neg Bool.false_ne_true]
      exact ih lingers later

end Stage

end Adventure
