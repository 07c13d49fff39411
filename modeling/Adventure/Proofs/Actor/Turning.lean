import Adventure.Proofs.Actor.LegEnds

/-!
# Turns on the spot

An actor that turns on the spot moves its facing step by step to the one its box lets it have:
the short way round the compass, or at once when the box locks its facing.  Its box and the
facing it was asked for stay the same meanwhile, so every step leaves fewer to go (`turnsLeft`),
and there are never more than half a compass of them.
-/

set_option autoImplicit false

namespace Adventure

open Word

variable {Allowed : Fault → Prop}

namespace Facing

variable {compass : Compass} {remapped : Remapped} {facing : Int}

/-! ## Steps of a compass -/

/-- The steps between two others, the short way round. -/
def stepsBetween (compass : Compass) (source target : Int) : Nat :=
  min (target - source).natAbs (compass.steps.toNat - (target - source).natAbs)

/-- A step of the compass. -/
abbrev IsStep (compass : Compass) (step : Int) : Prop := 0 ≤ step ∧ step < compass.steps

/-- What holds of each of the few steps holds of every step. -/
theorem IsStep.of_fin {step : Int} (isStep : IsStep compass step) (Holds : Int → Prop)
    (all : ∀ step : Fin compass.steps.toNat, Holds step) : Holds step := by
  obtain ⟨n, rfl⟩ := Int.eq_ofNat_of_zero_le isStep.1
  exact all ⟨n, by omega⟩

theorem quantize_ofStep {step : Int} (isStep : IsStep compass step) :
    quantize compass (step * stepAngle compass) = step :=
  isStep.of_fin (fun step => quantize compass (step * stepAngle compass) = step) <| by
    cases compass <;> decide

theorem normalize_ofStep {step : Int} (isStep : IsStep compass step) :
    normalize (step * stepAngle compass) = step * stepAngle compass :=
  isStep.of_fin (fun step => normalize (step * stepAngle compass) = step * stepAngle compass) <| by
    cases compass <;> decide

theorem IsStep.fits {step : Int} (isStep : IsStep compass step) :
    Fits32 (step * stepAngle compass) := by
  obtain ⟨low, high⟩ := isStep
  cases compass with
  | four =>
    change step < 4 at high
    change Fits32 (step * 90)
    omega
  | eight =>
    change step < 8 at high
    change Fits32 (step * 45)
    omega

/-- What a step of a turn does: it stays on the compass, and it comes one closer to its target. -/
structure Closer (compass : Compass) (source target reached : Int) : Prop where
  isStep : IsStep compass reached
  closer : stepsBetween compass reached target = stepsBetween compass source target - 1
  there : stepsBetween compass reached target = 0 → reached = target

instance {source target reached : Int} : Decidable (Closer compass source target reached) :=
  decidable_of_iff
    (IsStep compass reached ∧
      stepsBetween compass reached target = stepsBetween compass source target - 1 ∧
      (stepsBetween compass reached target = 0 → reached = target))
    ⟨fun ⟨isStep, closer, there⟩ => ⟨isStep, closer, there⟩,
      fun ⟨isStep, closer, there⟩ => ⟨isStep, closer, there⟩⟩

theorem turnStep_closer {source target : Int} (from_ : IsStep compass source)
    (to_ : IsStep compass target) :
    Closer compass source target (Stage.turnStep compass.steps source target) := by
  have all : ∀ source target : Fin compass.steps.toNat,
      Closer compass source target (Stage.turnStep compass.steps source target) := by
    cases compass <;> decide +kernel
  obtain ⟨n, rfl⟩ := Int.eq_ofNat_of_zero_le from_.1
  obtain ⟨m, rfl⟩ := Int.eq_ofNat_of_zero_le to_.1
  exact all ⟨n, by omega⟩ ⟨m, by omega⟩

theorem stepsBetween_pos {source target : Int} (from_ : IsStep compass source)
    (to_ : IsStep compass target) (away : source ≠ target) :
    0 < stepsBetween compass source target := by
  obtain ⟨low, high⟩ := from_
  obtain ⟨low', high'⟩ := to_
  unfold stepsBetween
  omega

/-- Away from its target a step of a turn leads to a neighbour. -/
theorem turnStep_neighbour {source target : Int} (from_ : IsStep compass source)
    (to_ : IsStep compass target) (away : source ≠ target) :
    stepsBetween compass source (Stage.turnStep compass.steps source target) = 1 := by
  have all : ∀ source target : Fin compass.steps.toNat, (source : Int) ≠ target →
      stepsBetween compass source (Stage.turnStep compass.steps source target) = 1 := by
    cases compass <;> decide +kernel
  obtain ⟨n, rfl⟩ := Int.eq_ofNat_of_zero_le from_.1
  obtain ⟨m, rfl⟩ := Int.eq_ofNat_of_zero_le to_.1
  exact all ⟨n, by omega⟩ ⟨m, by omega⟩ away

/-- At its target a step of the compass leads nowhere. -/
theorem turnStep_home {step : Int} (isStep : IsStep compass step) :
    Stage.turnStep compass.steps step step = step := by
  obtain ⟨-, nothing, there⟩ := turnStep_closer isStep isStep
  refine there ?_
  rw [nothing, stepsBetween]
  omega

/-! ## Steps of a turn -/

/-- The facing after a step of a turn. -/
def turned (compass : Compass) (remapped : Remapped) (facing : Int) : Int :=
  if remapped.gradual then
    Stage.turnStep compass.steps (quantize compass facing) (quantize compass remapped.angle) *
      stepAngle compass
  else remapped.angle

/-- The steps that a turn takes before its facing no longer changes. -/
def turnsLeft (compass : Compass) (remapped : Remapped) (facing : Int) : Nat :=
  if turned compass remapped facing = facing then 0
  else if remapped.gradual then
    max 1 (stepsBetween compass (quantize compass facing) (quantize compass remapped.angle))
  else 1

theorem turnsLeft_eq_zero (done : turned compass remapped facing = facing) :
    turnsLeft compass remapped facing = 0 :=
  if_pos done

/-- No turn takes more steps than half a compass has. -/
theorem turnsLeft_le (compass : Compass) (remapped : Remapped) (facing : Int) :
    turnsLeft compass remapped facing ≤ compass.steps.toNat / 2 := by
  have half : 2 ≤ compass.steps.toNat / 2 := by cases compass <;> decide
  unfold turnsLeft stepsBetween
  split
  · omega
  · split <;> omega

/-- Only a turn that has come to its facing has no steps left. -/
theorem turned_of_turnsLeft (done : turnsLeft compass remapped facing = 0) :
    turned compass remapped facing = facing := by
  by_contra turns
  rw [turnsLeft, if_neg turns] at done
  split at done <;> omega

theorem turned_of_locked (locked : remapped.gradual = false) (facing : Int) :
    turned compass remapped facing = remapped.angle := by
  rw [turned, if_neg (by simp [locked])]

theorem turned_of_gradual (gradual : remapped.gradual = true) (facing : Int) :
    turned compass remapped facing =
      Stage.turnStep compass.steps (quantize compass facing) (quantize compass remapped.angle) *
        stepAngle compass :=
  if_pos gradual

/-- A step of a gradual turn ends at a step of the compass. -/
theorem quantize_turned (gradual : remapped.gradual = true) (facing : Int) :
    quantize compass (turned compass remapped facing) =
      Stage.turnStep compass.steps (quantize compass facing)
        (quantize compass remapped.angle) := by
  rw [turned_of_gradual gradual]
  exact quantize_ofStep
    (turnStep_closer (quantize_bounds compass facing) (quantize_bounds compass _)).isStep

/-- Where a gradual turn leads nowhere, it has come to the step of its aim. -/
theorem quantize_of_turned (gradual : remapped.gradual = true)
    (done : turned compass remapped facing = facing) :
    quantize compass facing = quantize compass remapped.angle := by
  have reached : quantize compass (turned compass remapped facing) = _ :=
    quantize_turned gradual facing
  rw [done] at reached
  by_contra away
  have neighbour := turnStep_neighbour (quantize_bounds compass facing)
    (quantize_bounds compass remapped.angle) away
  rw [← reached, stepsBetween] at neighbour
  omega

/-- **Every step of a turn leaves one less to go.** -/
theorem turnsLeft_turned (turns : turned compass remapped facing ≠ facing) :
    turnsLeft compass remapped (turned compass remapped facing) + 1 =
      turnsLeft compass remapped facing := by
  cases gradual : remapped.gradual with
  | false =>
    rw [turnsLeft_eq_zero (by rw [turned_of_locked gradual, turned_of_locked gradual]), turnsLeft,
      if_neg turns]
    simp [gradual]
  | true =>
    obtain ⟨-, closer, there⟩ := turnStep_closer (quantize_bounds compass facing)
      (quantize_bounds compass remapped.angle)
    rw [← quantize_turned gradual] at closer there
    have left : turnsLeft compass remapped facing = max 1 (stepsBetween compass
        (quantize compass facing) (quantize compass remapped.angle)) := by
      simp [turnsLeft, turns, gradual]
    by_cases done : turned compass remapped (turned compass remapped facing) =
        turned compass remapped facing
    · rw [quantize_of_turned gradual done] at closer
      rw [turnsLeft_eq_zero done, left]
      have none : stepsBetween compass (quantize compass remapped.angle)
          (quantize compass remapped.angle) = 0 := by simp [stepsBetween]
      omega
    · have apart : stepsBetween compass (quantize compass (turned compass remapped facing))
          (quantize compass remapped.angle) ≠ 0 := by
        intro zero
        refine done ?_
        -- a step that starts at its aim ends there
        rw [turned_of_gradual gradual (turned compass remapped facing), there zero,
          turnStep_home (quantize_bounds compass _), ← there zero, quantize_turned gradual,
          turned_of_gradual gradual]
      rw [left, turnsLeft, if_neg done, if_pos gradual]
      omega

/-! ## Facings of the compass -/

/-- A facing that a box locks is one of the four directions. -/
def Remapped.Proper (remapped : Remapped) : Prop :=
  remapped.gradual = false → remapped.angle ∈ [0, 90, 180, 270]

/-- Steps of a turn need not be moved to an eighth of a turn any more. -/
theorem normalize_turned (proper : remapped.Proper) (facing : Int) :
    normalize (turned compass remapped facing) = turned compass remapped facing := by
  cases gradual : remapped.gradual with
  | false =>
    have locked : ∀ angle ∈ [(0 : Int), 90, 180, 270], normalize angle = angle := by decide
    rw [turned, gradual]
    exact locked _ (proper gradual)
  | true =>
    rw [turned, gradual, if_pos rfl]
    exact normalize_ofStep (turnStep_closer (quantize_bounds compass facing)
      (quantize_bounds compass remapped.angle)).isStep

end Facing

namespace Stage

variable {stage : Stage} {walker : Walker} {actor : Actor} {walking : Bool}

/-- A lock leaves one of the four directions, no lock an angle to turn to. -/
theorem remap_proper (angle : Int) :
    (stage.remap actor angle walking).Gives (fun _ => True) Facing.Remapped.Proper := by
  have proper (lock : UInt8) (rightward downward : Bool) (facing : Int) : Facing.Remapped.Proper
      (if lock = 1 then ⟨if rightward then 90 else 270, false⟩
      else if lock = 2 then ⟨if downward then 180 else 0, false⟩
      else if lock = 3 then ⟨270, false⟩
      else if lock = 4 then ⟨90, false⟩
      else if lock = 5 then ⟨0, false⟩
      else if lock = 6 then ⟨180, false⟩
      else ⟨Facing.normalize facing, true⟩) := by
    repeat' split
    all_goals rintro ⟨⟩
    all_goals decide
  unfold remap
  split
  · rintro ⟨⟩
  · simp only [Checked.gives_bind, Checked.gives_ite, Checked.gives_pure, proper,
      Checked.gives_anything, ite_self]

theorem gives_nextFacing {Holds : Int → Prop} :
    (stage.nextFacing actor walking).Gives Allowed Holds ↔
      (stage.remap actor actor.targetFacing walking).Gives Allowed fun remapped =>
        Holds (Facing.turned stage.rules.compass remapped actor.facing) := by
  have step (remapped : Facing.Remapped) : (if remapped.gradual = true then
        Facing.ofStep stage.rules.compass
          (turnStep stage.rules.compass.steps (Facing.quantize stage.rules.compass actor.facing)
            (Facing.quantize stage.rules.compass remapped.angle))
      else pure remapped.angle).Gives Allowed Holds ↔
        Holds (Facing.turned stage.rules.compass remapped actor.facing) := by
    unfold Facing.turned
    split
    · exact gives_mul32 (Facing.turnStep_closer (Facing.quantize_bounds _ _)
        (Facing.quantize_bounds _ _)).isStep.fits
    · rfl
  simp only [nextFacing, Checked.gives_bind, step]

/-- A direction of the compass is faced at once. -/
theorem setDirection_turned {remapped : Facing.Remapped} (proper : remapped.Proper)
    (compass : Compass) (actor : Actor) :
    ∃ redraw, actor.setDirection (Facing.turned compass remapped actor.facing) =
      { actor with
        facing := Facing.turned compass remapped actor.facing
        needRedraw := redraw } := by
  unfold Actor.setDirection
  split
  next same =>
    refine ⟨actor.needRedraw, ?_⟩
    rw [← same]
  next => exact ⟨_, by rw [Facing.normalize_turned proper]⟩

/-- An actor that turns on the spot takes at most a number of steps more. -/
structure TurnsOn (stage : Stage) (steps : Nat) (actor : Actor) : Prop where
  moving : actor.moving = ⟨Moving.turn⟩
  left : ∀ remapped, stage.remap actor actor.targetFacing false = .ok remapped →
    Facing.turnsLeft stage.rules.compass remapped actor.facing ≤ steps

/-- What a tick leaves of a turn: nothing, or an actor that is the same but for its facing and has
fewer steps to take. -/
inductive TurnedOn (stage : Stage) (steps : Nat) (before after : Actor) : Prop where
  | stops (same : after = before.stopMoving)
  | onward {facing : Int} {redraw : Bool} {fewer : Nat} (less : fewer < steps)
      (same : after = { before with facing := facing, needRedraw := redraw })
      (turns : TurnsOn stage fewer after)

/-- **A tick ends a turn or takes a step of it.** -/
theorem turnOnce_turns {steps : Nat} (turns : TurnsOn stage steps walker.actor)
    (sound : (stage.remap walker.actor walker.actor.targetFacing false).Gives Allowed
      fun _ => True) :
    stage.turnOnce.Gives Allowed walker fun _ after =>
      TurnedOn stage steps walker.actor after.actor := by
  simp only [turnOnce, Walk.gives_bind, Walk.gives_actor, Walk.gives_lift, Walk.gives_ite,
    Walk.gives_change, gives_nextFacing]
  refine (sound.and_value (remap_proper _)).and_ok.mono ?_
  rintro remapped ⟨found, -, proper⟩
  split
  next => exact .stops rfl
  next changes =>
    obtain ⟨redraw, same⟩ := setDirection_turned proper stage.rules.compass walker.actor
    have fewer := Facing.turnsLeft_turned (Ne.symm changes)
    have few := turns.left remapped found
    refine .onward (Nat.lt_of_lt_of_le (Nat.lt_of_succ_le (Nat.le_of_eq fewer)) few) same ?_
    rw [same]
    refine ⟨turns.moving, fun other foundToo => ?_⟩
    -- the box and the facing asked for are the same, so the turn has the same aim
    cases found.symm.trans foundToo
    exact Nat.le_refl _

end Stage

end Adventure
