import Adventure.Proofs.Actor.Lingering
import Mathlib.Logic.Function.Iterate

/-!
# Courses of turns

A turn on the spot goes by itself: every tick moves the facing, and the last one finds nothing to
move and ends it.  The ticks of a turn are counted beforehand (`Facing.turnsLeft`): as many change
the facing, and one more follows.
-/

set_option autoImplicit false

namespace Adventure

open Word

namespace Stage

variable {stage : Stage} {walker : Walker} {remapped : Facing.Remapped} {left : Nat}

/-- The walker after a tick of its turn. -/
def turnTick (stage : Stage) (remapped : Facing.Remapped) (walker : Walker) : Walker :=
  { walker with
    actor :=
      if walker.actor.facing = Facing.turned stage.rules.compass remapped walker.actor.facing then
        walker.actor.stopMoving
      else
        walker.actor.setDirection
          (Facing.turned stage.rules.compass remapped walker.actor.facing) }

/-- An actor that turns on the spot to an aim, with so many changes of its facing to come. -/
structure Turning (stage : Stage) (remapped : Facing.Remapped) (left : Nat) (walker : Walker) :
    Prop where
  moving : walker.actor.moving = ⟨Moving.turn⟩
  aim : stage.remap walker.actor walker.actor.targetFacing false = .ok remapped
  left : Facing.turnsLeft stage.rules.compass remapped walker.actor.facing = left

theorem Turning.proper (turning : stage.Turning remapped left walker) : remapped.Proper := by
  have proper : (stage.remap walker.actor walker.actor.targetFacing false).Gives _ _ :=
    remap_proper _
  rw [turning.aim] at proper
  exact proper

/-- A tick of a turn faults nowhere, and it leads to the next walker of the turn. -/
theorem Turning.advance (turning : stage.Turning remapped left walker) (fuel : Nat) :
    (stage.advance fuel).run walker = .ok ((), stage.turnTick remapped walker) := by
  have gives : (stage.advance fuel).Gives (fun _ => False) walker fun _ after =>
      after = stage.turnTick remapped walker := by
    rw [gives_advance_turning turning.moving]
    simp only [turnOnce, Walk.gives_bind, Walk.gives_actor, Walk.gives_lift, Walk.gives_ite,
      Walk.gives_change, gives_nextFacing, turning.aim]
    change if _ then _ else _
    unfold turnTick
    split <;> rfl
  obtain ⟨⟨_, after⟩, ran, rfl⟩ := Checked.gives_false_iff.mp gives
  exact ran

/-- A tick of a turn leaves the actor where it is. -/
theorem turnTick_place (stage : Stage) (remapped : Facing.Remapped) (walker : Walker) :
    (stage.turnTick remapped walker).actor.pos = walker.actor.pos ∧
      (stage.turnTick remapped walker).actor.walkBox = walker.actor.walkBox := by
  unfold turnTick Actor.setDirection Actor.stopMoving
  dsimp only
  split <;> exact ⟨rfl, rfl⟩

theorem turnTick_facing (proper : remapped.Proper) (walker : Walker) :
    (stage.turnTick remapped walker).actor.facing =
      Facing.turned stage.rules.compass remapped walker.actor.facing := by
  unfold turnTick
  split
  next done => exact done
  next =>
    obtain ⟨redraw, same⟩ := setDirection_turned proper stage.rules.compass walker.actor
    rw [same]

/-- The last tick of a turn ends it. -/
theorem Turning.stops (turning : stage.Turning remapped 0 walker) :
    stage.turnTick remapped walker = { walker with actor := walker.actor.stopMoving } := by
  rw [turnTick, if_pos (Facing.turned_of_turnsLeft turning.left).symm]

/-- **Every tick of a turn but the last changes the facing**, and the turn goes on to the same
aim. -/
theorem Turning.onward (turning : stage.Turning remapped (left + 1) walker) :
    (stage.turnTick remapped walker).actor.facing ≠ walker.actor.facing ∧
      stage.Turning remapped left (stage.turnTick remapped walker) := by
  have turns : Facing.turned stage.rules.compass remapped walker.actor.facing ≠
      walker.actor.facing := by
    intro done
    have none := turning.left
    rw [Facing.turnsLeft_eq_zero done] at none
    omega
  refine ⟨(turnTick_facing turning.proper walker).trans_ne turns, ?_⟩
  have fewer := Facing.turnsLeft_turned turns
  rw [turning.left] at fewer
  obtain ⟨redraw, same⟩ := setDirection_turned turning.proper stage.rules.compass walker.actor
  rw [turnTick, if_neg (Ne.symm turns), same]
  exact ⟨turning.moving, turning.aim, Nat.succ_injective fewer⟩

/-! ## Courses -/

/-- The walker after some ticks of its turn. -/
def turnedFor (stage : Stage) (remapped : Facing.Remapped) (walker : Walker) (ticks : Nat) :
    Walker :=
  (stage.turnTick remapped)^[ticks] walker

theorem turnedFor_succ (ticks : Nat) :
    stage.turnedFor remapped walker (ticks + 1) =
      stage.turnTick remapped (stage.turnedFor remapped walker ticks) :=
  Function.iterate_succ_apply' _ _ _

theorem turnedFor_place (ticks : Nat) :
    (stage.turnedFor remapped walker ticks).actor.pos = walker.actor.pos ∧
      (stage.turnedFor remapped walker ticks).actor.walkBox = walker.actor.walkBox := by
  induction ticks with
  | zero => exact ⟨rfl, rfl⟩
  | succ ticks ih =>
      rw [turnedFor_succ]
      obtain ⟨pos, walkBox⟩ := turnTick_place stage remapped (stage.turnedFor remapped walker ticks)
      exact ⟨pos.trans ih.1, walkBox.trans ih.2⟩

/-- As long as there are changes to come, every tick leaves one less of them. -/
theorem Turning.turnedFor {ticks : Nat} (turning : stage.Turning remapped (left + ticks) walker) :
    stage.Turning remapped left (stage.turnedFor remapped walker ticks) := by
  induction ticks generalizing left with
  | zero => exact turning
  | succ ticks ih =>
      rw [turnedFor_succ]
      have before : stage.Turning remapped (left + 1) (stage.turnedFor remapped walker ticks) :=
        ih (by rwa [Nat.add_right_comm])
      exact before.onward.2

/-- **The facing of a gradual turn goes the short way round.**  Away from the step of its aim it
goes to a neighbour on the compass, and the way left is one step shorter. -/
theorem turnTick_shortWay (proper : remapped.Proper) (gradual : remapped.gradual = true)
    {source reached target : Int}
    (from_ : Facing.quantize stage.rules.compass walker.actor.facing = source)
    (to_ : Facing.quantize stage.rules.compass
      (stage.turnTick remapped walker).actor.facing = reached)
    (aim : Facing.quantize stage.rules.compass remapped.angle = target) (away : source ≠ target) :
    Facing.stepsBetween stage.rules.compass source reached = 1 ∧
      Facing.stepsBetween stage.rules.compass reached target + 1 =
        Facing.stepsBetween stage.rules.compass source target := by
  rw [turnTick_facing proper, Facing.quantize_turned gradual, from_, aim] at to_
  have isSource : Facing.IsStep stage.rules.compass source :=
    from_ ▸ Facing.quantize_bounds _ _
  have isTarget : Facing.IsStep stage.rules.compass target :=
    aim ▸ Facing.quantize_bounds _ _
  have neighbour := Facing.turnStep_neighbour isSource isTarget away
  have closer := (Facing.turnStep_closer isSource isTarget).closer
  rw [to_] at neighbour closer
  have apart := Facing.stepsBetween_pos isSource isTarget away
  omega

/-- A course of walkers is a turn to an aim: one call of `advance` after the other, up to the one
that ends the turn. -/
structure TurnCourse (stage : Stage) (fuel : Nat) (remapped : Facing.Remapped) (calls : Nat)
    (course : Nat → Walker) : Prop where
  ran : ∀ call < calls, (stage.advance fuel).run (course call) = .ok ((), course (call + 1))
  moves : ∀ call < calls, (course call).actor.moving = ⟨Moving.turn⟩
  stops : (course calls).actor.isMoving = false
  changes : ∀ call, call + 1 < calls →
    (course (call + 1)).actor.facing ≠ (course call).actor.facing
  place : ∀ call, (course call).actor.pos = (course 0).actor.pos ∧
    (course call).actor.walkBox = (course 0).actor.walkBox
  /-- Away from the step of its aim, a gradual turn goes to a neighbour that is closer to it. -/
  shortWay : remapped.gradual = true → ∀ call < calls, ∀ source reached target,
    Facing.quantize stage.rules.compass (course call).actor.facing = source →
    Facing.quantize stage.rules.compass (course (call + 1)).actor.facing = reached →
    Facing.quantize stage.rules.compass remapped.angle = target → source ≠ target →
    Facing.stepsBetween stage.rules.compass source reached = 1 ∧
      Facing.stepsBetween stage.rules.compass reached target + 1 =
        Facing.stepsBetween stage.rules.compass source target
  /-- A gradual turn ends at the direction of the step of its aim. -/
  comes : remapped.gradual = true →
    Facing.ofStep stage.rules.compass (Facing.quantize stage.rules.compass remapped.angle) =
      .ok (course calls).actor.facing
  /-- A locked direction is faced from the first call on. -/
  locked : remapped.gradual = false → ∀ call < calls,
    (course (call + 1)).actor.facing = remapped.angle

theorem Turning.course (turning : stage.Turning remapped left walker) (fuel : Nat) :
    stage.TurnCourse fuel remapped (left + 1) (stage.turnedFor remapped walker) := by
  have proper := turning.proper
  have at_ (call : Nat) (before : call ≤ left) :
      stage.Turning remapped (left - call) (stage.turnedFor remapped walker call) := by
    refine Turning.turnedFor ?_
    rwa [Nat.sub_add_cancel before]
  have last : stage.Turning remapped 0 (stage.turnedFor remapped walker left) := by
    simpa using at_ left (Nat.le_refl left)
  refine ⟨?_, ?_, ?_, ?_, ?_, ?_, ?_, ?_⟩
  · intro call before
    rw [turnedFor_succ]
    exact (at_ call (Nat.le_of_lt_succ before)).advance fuel
  · exact fun call before => (at_ call (Nat.le_of_lt_succ before)).moving
  · rw [turnedFor_succ, last.stops]
    rfl
  · intro call before
    rw [turnedFor_succ]
    have more : left - call = left - (call + 1) + 1 := by omega
    exact (more ▸ at_ call (by omega)).onward.1
  · exact fun call => turnedFor_place call
  · intro gradual call before source reached target from_ to_ aim away
    rw [turnedFor_succ] at to_
    exact turnTick_shortWay proper gradual from_ to_ aim away
  · intro gradual
    have done := Facing.turned_of_turnsLeft last.left
    rw [turnedFor_succ, turnTick_facing proper, Facing.turned_of_gradual gradual,
      Facing.quantize_of_turned gradual done,
      Facing.turnStep_home (Facing.quantize_bounds _ _)]
    exact if_pos (Facing.IsStep.fits (Facing.quantize_bounds _ _))
  · intro locked call before
    rw [turnedFor_succ, turnTick_facing proper, Facing.turned_of_locked locked]

/-- **A turn on the spot ends, by the short way round.**  Whatever facing the box of an actor lets
it have, the actor comes to it with one tick more than the changes of its facing, of which there
are at most half a compass.  It stays where it is. -/
theorem turn_ends (turning : walker.actor.moving = ⟨Moving.turn⟩)
    (fits : Fits16 walker.actor.targetFacing) (fuel : Nat) :
    ∃ remapped calls course,
      stage.remap walker.actor walker.actor.targetFacing false = .ok remapped ∧
      course 0 = walker ∧ calls ≤ stage.rules.compass.steps.toNat / 2 + 1 ∧
      stage.TurnCourse fuel remapped calls course := by
  have gives : (stage.remap walker.actor walker.actor.targetFacing false).Gives (fun _ => False) _ :=
    remap_gives fits
  obtain ⟨remapped, aim, -⟩ := Checked.gives_false_iff.mp gives
  have few := Facing.turnsLeft_le stage.rules.compass remapped walker.actor.facing
  have turns : stage.Turning remapped _ walker := ⟨turning, aim, rfl⟩
  exact ⟨remapped, _, _, aim, rfl, Nat.succ_le_succ few, turns.course fuel⟩

/-- A room with one box, in which what is on the right is drawn on the left. -/
def mirrorStage : Stage :=
  ⟨.plain 1 [{ plainBox 0 0 100 50 with flags := ⟨BoxFlags.xFlip⟩ }] .empty, .standard, 1, none⟩

/-- An actor in the box that faces the viewer and is asked to look back and to the right. -/
def beforeMirror : Walker :=
  ⟨{ Actor.fresh 1 with room := 1, walkBox := some 0 }.turnTo (some 60), []⟩

theorem turn_ends_beforeMirror :
    mirrorStage.shows beforeMirror.actor = true ∧
      beforeMirror.actor.moving = ⟨Moving.turn⟩ ∧ Fits16 beforeMirror.actor.targetFacing ∧
      ∃ remapped calls course,
        mirrorStage.remap beforeMirror.actor 60 false = .ok remapped ∧
        course 0 = beforeMirror ∧ calls ≤ 3 ∧
        mirrorStage.TurnCourse 256 remapped calls course :=
  ⟨by decide, rfl, by decide, turn_ends rfl (by decide) 256⟩

/-- The mirrored facing is an eighth of a turn that the compass does not have. -/
example : mirrorStage.remap beforeMirror.actor 60 false = .ok ⟨315, true⟩ ∧
    (mirrorStage.turnedFor ⟨315, true⟩ beforeMirror 3).actor.facing = 0 := by decide

end Stage

end Adventure
