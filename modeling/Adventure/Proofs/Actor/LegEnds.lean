import Adventure.Proofs.Actor.Pace
import Adventure.Proofs.Actor.Walking
import Adventure.Proofs.Geometry.Faults

/-!
# Legs end unless they graze

An actor on a leg takes a step with every call until it stands on the leg's end.  Between two
calls it may be scaled anew, so a leg is walked under a list of scales (`walkOn`).  Every call
keeps the actor on its leg and takes one unit at least from each axis that moves.  A leg on
which an axis lags behind is one the actor never comes to the end of; every other leg ends
after at most as many calls as there are units in its longer side, and one more.

Rooms are asked whether a box holds the actor and how it is scaled there.  A room whose data
fits words of 16 bits always answers; any other room may fault, but not use up a bound.
-/

set_option autoImplicit false

namespace Adventure

open Word

variable {Allowed : Fault → Prop}

theorem Point.eq_iff {p q : Point} : p = q ↔ p.x = q.x ∧ p.y = q.y := by
  cases p
  cases q
  simp

/-! ## Facings along a leg -/

/-- A facing as a velocity gives it. -/
abbrev Facing.IsPlain (angle : Int) : Prop := 0 ≤ angle ∧ angle ≤ 270

theorem Facing.IsPlain.fits {angle : Int} (plain : Facing.IsPlain angle) : Fits16 angle := by
  omega

theorem Facing.ofVelocity_plain (x y : Int) : Facing.IsPlain (Facing.ofVelocity x y) := by
  unfold Facing.ofVelocity
  repeat' split
  all_goals decide

theorem Facing.quantize_bounds (compass : Compass) (angle : Int) :
    0 ≤ Facing.quantize compass angle ∧ Facing.quantize compass angle < compass.steps := by
  have few : ((Facing.bounds compass).length : Int) + 1 = compass.steps := by cases compass <;> rfl
  unfold Facing.quantize
  split
  next index found =>
    have less := (List.findIdx?_eq_some_iff_getElem.mp found).1
    omega
  next => omega

theorem Facing.ofStep_gives {compass : Compass} {step : Int} (few : step.natAbs < 8) :
    (Facing.ofStep compass step).Gives Allowed fun _ => True := by
  rw [Facing.ofStep, gives_mul32]
  · trivial
  · cases compass with
    | four =>
        change Fits32 (step * 90)
        omega
    | eight =>
        change Fits32 (step * 45)
        omega

namespace Stage

variable {stage : Stage} {actor : Actor} {walking : Bool}

theorem biasedDirection_le (room : Room) (id : Option BoxId) {angle : Int}
    (fits : Fits16 angle) : (room.biasedDirection id angle).natAbs ≤ 65535 + 180 := by
  have bias : ((room.extraFlagsOf id &&& 0x3FFF).toNat) < 65536 := UInt16.toNat_lt _
  unfold Room.biasedDirection
  simp only
  repeat' split
  all_goals omega

theorem remap_gives (fits : Fits16 actor.targetFacing) :
    (stage.remap actor actor.targetFacing walking).Gives Allowed fun _ => True := by
  have biased := biasedDirection_le stage.room actor.walkBox fits
  simp only [remap, Checked.gives_bind, Checked.gives_ite, Checked.gives_pure]
  generalize stage.room.biasedDirection actor.walkBox actor.targetFacing = angle at *
  -- no flip brings a facing near the ends of a word
  repeat' split
  all_goals first
    | trivial
    | rw [gives_sub32 (by omega)]; trivial
    | rw [gives_sub32 (by omega), gives_sub32 (by omega)]; trivial

theorem natAbs_turnStep_lt (compass : Compass) (source target : Int) :
    (turnStep compass.steps source target).natAbs < 8 := by
  rw [turnStep, Int.natAbs_tmod]
  cases compass with
  | four => exact Nat.lt_of_lt_of_le (Nat.mod_lt _ (by decide)) (by decide)
  | eight => exact Nat.mod_lt _ (by decide)

/-- An actor turns without a fault when the facing it turns to fits a word of 16 bits. -/
theorem nextFacing_gives (fits : Fits16 actor.targetFacing) :
    (stage.nextFacing actor walking).Gives Allowed fun _ => True := by
  simp only [nextFacing, Checked.gives_bind, Checked.gives_ite, Checked.gives_pure]
  refine (remap_gives fits).mono fun remapped _ => ?_
  split
  · exact Facing.ofStep_gives (natAbs_turnStep_lt _ _ _)
  · trivial

/-! ## Actors on a leg -/

/-- An actor is on its leg: both axes are, and it faces along the leg. -/
structure OnLeg (actor : Actor) : Prop where
  x : Leg.Axis actor.walk.legStart.x actor.walk.legEnd.x actor.walk.deltaX actor.pos.x
  y : Leg.Axis actor.walk.legStart.y actor.walk.legEnd.y actor.walk.deltaY actor.pos.y
  facing : Facing.IsPlain actor.targetFacing

/-- A scale of one to 255. -/
abbrev IsScale (scale : Int) : Prop := 1 ≤ scale ∧ scale ≤ 255

/-- Both scales of an actor are scales. -/
def Scaled (actor : Actor) : Prop := IsScale actor.scaleX ∧ IsScale actor.scaleY

/-- What a call does to an actor on its leg: the leg stays the same, and both axes stride on. -/
structure Strode (before after : Actor) : Prop where
  legStart : after.walk.legStart = before.walk.legStart
  legEnd : after.walk.legEnd = before.walk.legEnd
  deltaX : after.walk.deltaX = before.walk.deltaX
  deltaY : after.walk.deltaY = before.walk.deltaY
  x : Leg.Strides before.walk.legStart.x before.walk.legEnd.x before.walk.deltaX before.pos.x
    before.walk.fracX after.pos.x after.walk.fracX
  y : Leg.Strides before.walk.legStart.y before.walk.legEnd.y before.walk.deltaY before.pos.y
    before.walk.fracY after.pos.y after.walk.fracY

theorem Ready.scaled {before ready : Actor} (isReady : Ready before ready)
    (scaled : Scaled before) : Scaled ready := by
  rcases isReady.scale with ⟨x, y⟩ | ⟨scale, real, x, y⟩
  · unfold Scaled
    rw [x, y]
    exact scaled
  · have least : scale.toNat ≠ 0 := fun zero => real (UInt8.toNat_inj.mp zero)
    have most := scale.toNat_lt
    unfold Scaled
    rw [x, y]
    omega

theorem Ready.onLeg {before ready : Actor} (isReady : Ready before ready) (on : OnLeg before) :
    OnLeg ready := by
  obtain ⟨x, y, facing⟩ := on
  rw [← isReady.pos, ← isReady.walk] at x y
  rw [← isReady.facing] at facing
  exact ⟨x, y, facing⟩

theorem Ready.strode {before ready after : Actor} (isReady : Ready before ready)
    (strode : Strode ready after) : Strode before after := by
  obtain ⟨legStart, legEnd, deltaX, deltaY, x, y⟩ := strode
  rw [isReady.walk] at legStart legEnd deltaX deltaY
  rw [isReady.walk, isReady.pos] at x y
  exact ⟨legStart, legEnd, deltaX, deltaY, x, y⟩

end Stage

namespace Leg

theorem gives_covered {start pos : Int} {Holds : Int → Prop} (startFits : Fits16 start)
    (posFits : Fits16 pos) :
    (covered start pos).Gives Allowed Holds ↔ Holds (pos - start).natAbs := by
  simp only [covered, Checked.gives_bind]
  rw [gives_sub32 (by omega), gives_abs32 (by omega)]

theorem Axis.posFits {start stop delta pos : Int} (axis : Axis start stop delta pos) :
    Fits16 pos := by
  obtain ⟨startFits, stopFits, _, _, between⟩ := axis
  omega

/-- An axis has covered the length of the leg when it stands on its end. -/
theorem Axis.over_iff {start stop delta pos : Int} (axis : Axis start stop delta pos) :
    ((stop - start).natAbs : Int) ≤ (pos - start).natAbs ↔ pos = stop := by
  obtain ⟨_, _, _, _, between⟩ := axis
  omega

theorem gives_isOver {actor : Actor} {Holds : Bool → Prop} (on : Stage.OnLeg actor) :
    (isOver actor.walk (actor.walk.legEnd.x - actor.walk.legStart.x).natAbs
      (actor.walk.legEnd.y - actor.walk.legStart.y).natAbs actor.pos).Gives Allowed Holds ↔
      Holds (decide (actor.pos = actor.walk.legEnd)) := by
  simp only [isOver, Checked.gives_bind, Checked.gives_ite, Checked.gives_pure]
  rw [gives_covered on.x.startFits on.x.posFits, gives_covered on.y.startFits on.y.posFits]
  simp only [on.x.over_iff, on.y.over_iff, Point.eq_iff]
  split
  next there => simp [there]
  next away => simp [away]

/-- A step moves each axis by itself. -/
theorem step_eq (actor : Actor) (lengthX lengthY : Int) :
    step actor lengthX lengthY = (do
      let strideX := stride actor.pos.x actor.walk.fracX actor.walk.deltaX actor.scaleX
      let strideY := stride actor.pos.y actor.walk.fracY actor.walk.deltaY actor.scaleY
      let x ← hold actor.walk.legStart.x actor.walk.legEnd.x lengthX strideX.2
      let y ← hold actor.walk.legStart.y actor.walk.legEnd.y lengthY strideY.2
      pure
        { actor with
          pos := ⟨x, y⟩
          walk := { actor.walk with fracX := strideX.1, fracY := strideY.1 } }) :=
  rfl

theorem Strides.refl {start stop delta : Int} {frac : UInt16} :
    Strides start stop delta stop frac stop frac :=
  ⟨fun _ => by simp [ahead], fun _ => rfl⟩

/-- **One tick on a leg**: the actor stays on the leg and strides on; it goes on unless it has
come to the leg's end. -/
theorem pace_gives {rules : Rules} {actor : Actor} (on : Stage.OnLeg actor)
    (scaled : Stage.Scaled actor) :
    (pace rules actor).Gives Allowed fun result =>
      Stage.OnLeg result.2 ∧ Stage.Strode actor result.2 ∧
        (result.1 = false → result.2.pos = actor.walk.legEnd) ∧
        (actor.pos = actor.walk.legEnd → result.1 = false) := by
  simp only [pace, Checked.gives_bind]
  rw [gives_covered on.x.startFits on.x.stopFits, gives_covered on.y.startFits on.y.stopFits,
    gives_isOver on]
  simp only [Checked.gives_ite, Checked.gives_pure, Checked.gives_bind, decide_eq_true_eq]
  split
  next there =>
    have x : actor.pos.x = actor.walk.legEnd.x := congrArg Point.x there
    have y : actor.pos.y = actor.walk.legEnd.y := congrArg Point.y there
    refine ⟨⟨on.x, on.y, on.facing⟩, ⟨rfl, rfl, rfl, rfl, ?_, ?_⟩, fun _ => there, fun _ => trivial⟩
    · rw [x]
      exact Strides.refl
    · rw [y]
      exact Strides.refl
  next away =>
    simp only [step_eq, Checked.gives_bind, Checked.gives_pure]
    refine (hold_stride_gives on.x scaled.1).mono ?_
    rintro x ⟨axisX, stridesX⟩
    refine (hold_stride_gives on.y scaled.2).mono ?_
    rintro y ⟨axisY, stridesY⟩
    split
    next arrives =>
      refine ⟨⟨axisX, axisY, on.facing⟩, ⟨rfl, rfl, rfl, rfl, stridesX, stridesY⟩, fun _ => ?_,
        fun there => absurd there away⟩
      simp only [Bool.and_eq_true, beq_iff_eq] at arrives
      exact arrives.2
    next =>
      exact ⟨⟨axisX, axisY, on.facing⟩, ⟨rfl, rfl, rfl, rfl, stridesX, stridesY⟩,
        fun stops => absurd stops (by decide), fun there => absurd there away⟩

/-- An axis that has nothing ahead stands on its end. -/
theorem Axis.pos_eq_of_ahead {start stop delta pos : Int} {frac : UInt16}
    (axis : Axis start stop delta pos) (none : ahead start stop pos frac = 0) : pos = stop := by
  have fraction := frac.toNat_lt
  obtain ⟨_, _, _, _, between⟩ := axis
  unfold ahead at none
  split at none
  · assumption
  · split at none
    · omega
    · omega

theorem ahead_le (start stop : Int) :
    ahead start stop start 0 ≤ 65536 * (stop - start).natAbs := by
  simp only [ahead, UInt16.toNat_zero]
  repeat' split
  all_goals omega

end Leg

/-- The actor under another scale. -/
def Actor.withScale (scale : Int × Int) (actor : Actor) : Actor :=
  { actor with scaleX := scale.1, scaleY := scale.2 }

/-- The checks of a room answer for every point that fits words of 16 bits, up to faults that are
allowed. -/
def Room.Answers (Allowed : Fault → Prop) (room : Room) : Prop :=
  ∀ p id, p.Narrow → (room.pointInBox p id).Gives Allowed (fun _ => True) ∧
    (room.boxScale id p).Gives Allowed fun _ => True

namespace Stage

variable {stage : Stage} {walker : Walker} {actor : Actor}

theorem OnLeg.posFits (on : OnLeg actor) : actor.pos.Narrow := ⟨on.x.posFits, on.y.posFits⟩

/-! ## Calls along a leg -/

/-- A call on a leg keeps the actor on it. -/
theorem walkStep_onLeg (answers : stage.room.Answers Allowed) (on : OnLeg walker.actor)
    (scaled : Scaled walker.actor) :
    stage.walkStep.Gives Allowed walker fun more after =>
      OnLeg after.actor ∧ Strode walker.actor after.actor ∧
        (more = false → after.actor.pos = walker.actor.walk.legEnd) ∧
        (walker.actor.pos = walker.actor.walk.legEnd → more = false) := by
  obtain ⟨inside, scales⟩ := answers walker.actor.pos walker.actor.walk.curBox on.posFits
  have turns := on.facing.fits
  refine walkStep_gives (nextFacing_gives turns) inside scales fun ready _ isReady => ?_
  refine (Leg.pace_gives (isReady.onLeg on) (isReady.scaled scaled)).mono ?_
  rintro result ⟨still, strode, ended, there⟩
  rw [isReady.walk] at ended there
  rw [isReady.pos] at there
  exact ⟨still, isReady.strode strode, ended, there⟩

theorem OnLeg.withScale (on : OnLeg actor) (scale : Int × Int) : OnLeg (actor.withScale scale) :=
  ⟨on.x, on.y, on.facing⟩

/-- Calls on a leg, each of them under a scale of its own, up to the one that ends the leg; true
when none has. -/
def walkOn (stage : Stage) : List (Int × Int) → Walk Bool
  | [] => pure true
  | scale :: scales => do
    Walk.change (Actor.withScale scale)
    if ← stage.walkStep then stage.walkOn scales else pure false

/-- Both axes move, or have nothing to cover. -/
structure Swift (actor : Actor) : Prop where
  x : actor.walk.deltaX / 256 ≠ 0 ∨ actor.walk.legStart.x = actor.walk.legEnd.x
  y : actor.walk.deltaY / 256 ≠ 0 ∨ actor.walk.legStart.y = actor.walk.legEnd.y

/-- One axis is away from its end and does not move. -/
def Stuck (actor : Actor) : Prop :=
  (actor.pos.x ≠ actor.walk.legEnd.x ∧ actor.walk.deltaX / 256 = 0) ∨
    (actor.pos.y ≠ actor.walk.legEnd.y ∧ actor.walk.deltaY / 256 = 0)

/-- What the axis with more units ahead has ahead. -/
def unitsAhead (actor : Actor) : Nat :=
  max (Leg.ahead actor.walk.legStart.x actor.walk.legEnd.x actor.pos.x actor.walk.fracX)
    (Leg.ahead actor.walk.legStart.y actor.walk.legEnd.y actor.pos.y actor.walk.fracY)

theorem Strode.swift {before after : Actor} (strode : Strode before after) (swift : Swift before) :
    Swift after := by
  obtain ⟨x, y⟩ := swift
  rw [← strode.legStart, ← strode.legEnd] at x y
  rw [← strode.deltaX] at x
  rw [← strode.deltaY] at y
  exact ⟨x, y⟩

/-- A call brings a swift actor closer to the leg's end. -/
theorem Strode.unitsAhead_le {before after : Actor} (strode : Strode before after)
    (swift : Swift before) : unitsAhead after ≤ unitsAhead before - 1 := by
  have x := strode.x.closer swift.x
  have y := strode.y.closer swift.y
  unfold unitsAhead
  rw [strode.legStart, strode.legEnd]
  omega

theorem OnLeg.arrived {actor : Actor} (on : OnLeg actor) (none : unitsAhead actor = 0) :
    actor.pos = actor.walk.legEnd := by
  obtain ⟨x, y⟩ := Nat.max_eq_zero_iff.mp none
  exact Point.eq_iff.mpr ⟨on.x.pos_eq_of_ahead x, on.y.pos_eq_of_ahead y⟩

/-- A call leaves a stuck actor stuck. -/
theorem Strode.stuck {before after : Actor} (strode : Strode before after) (stuck : Stuck before) :
    Stuck after := by
  rcases stuck with ⟨away, idle⟩ | ⟨away, idle⟩
  · refine .inl ⟨?_, by rw [strode.deltaX, idle]⟩
    rw [strode.legEnd, strode.x.still idle]
    exact away
  · refine .inr ⟨?_, by rw [strode.deltaY, idle]⟩
    rw [strode.legEnd, strode.y.still idle]
    exact away

theorem Stuck.away (stuck : Stuck actor) : actor.pos ≠ actor.walk.legEnd := by
  intro there
  rcases stuck with ⟨away, _⟩ | ⟨away, _⟩
  · exact away (congrArg Point.x there)
  · exact away (congrArg Point.y there)

/-- **A swift actor comes to the end of its leg** after as many calls as it has units ahead, and
one more. -/
theorem walkOn_ends (answers : stage.room.Answers Allowed) (scales : List (Int × Int))
    (real : ∀ scale ∈ scales, IsScale scale.1 ∧ IsScale scale.2) (on : OnLeg walker.actor)
    (swift : Swift walker.actor) (enough : unitsAhead walker.actor < scales.length) :
    (stage.walkOn scales).Gives Allowed walker fun more after =>
      more = false ∧ after.actor.pos = walker.actor.walk.legEnd := by
  induction scales generalizing walker with
  | nil => exact absurd enough (Nat.not_lt_zero _)
  | cons scale scales ih =>
      simp only [walkOn, Walk.gives_bind, Walk.gives_change]
      have scaled : Scaled (walker.actor.withScale scale) := real scale List.mem_cons_self
      have called : stage.walkStep.Gives _ ⟨walker.actor.withScale scale, walker.events⟩ _ :=
        walkStep_onLeg answers (on.withScale scale) scaled
      refine called.mono ?_
      rintro more after ⟨still, strode, ended, there⟩
      simp only [Walk.gives_ite, Walk.gives_pure]
      split
      next goesOn =>
        have closer := strode.unitsAhead_le ⟨swift.x, swift.y⟩
        -- an actor with nothing ahead would have ended the leg
        have some : unitsAhead walker.actor ≠ 0 := by
          intro none
          have false_ := there (on.arrived none)
          exact absurd (goesOn.symm.trans false_) (by decide)
        rw [List.length_cons] at enough
        have shorter : unitsAhead after.actor < scales.length := by
          change _ ≤ unitsAhead walker.actor - 1 at closer
          omega
        have ends := ih (fun scale member => real scale (List.mem_cons_of_mem _ member)) still
          (strode.swift ⟨swift.x, swift.y⟩) shorter
        rw [strode.legEnd] at ends
        exact ends
      next halts => exact ⟨trivial, ended (by simpa using halts)⟩

/-- **A stuck actor never comes to the end of its leg.** -/
theorem walkOn_stuck (answers : stage.room.Answers Allowed) (scales : List (Int × Int))
    (real : ∀ scale ∈ scales, IsScale scale.1 ∧ IsScale scale.2) (on : OnLeg walker.actor)
    (stuck : Stuck walker.actor) :
    (stage.walkOn scales).Gives Allowed walker fun more after =>
      more = true ∧ after.actor.pos ≠ walker.actor.walk.legEnd := by
  induction scales generalizing walker with
  | nil => exact ⟨rfl, stuck.away⟩
  | cons scale scales ih =>
      simp only [walkOn, Walk.gives_bind, Walk.gives_change]
      have scaled : Scaled (walker.actor.withScale scale) := real scale List.mem_cons_self
      have called : stage.walkStep.Gives _ ⟨walker.actor.withScale scale, walker.events⟩ _ :=
        walkStep_onLeg answers (on.withScale scale) scaled
      refine called.mono ?_
      rintro more after ⟨still, strode, ended, _⟩
      have stays : Stuck after.actor := strode.stuck stuck
      have away := stays.away
      rw [strode.legEnd] at away
      have goesOn : more = true := by
        cases more with
        | true => rfl
        | false => exact absurd (ended rfl) away
      rw [goesOn, if_pos rfl]
      have goes := ih (fun scale member => real scale (List.mem_cons_of_mem _ member)) still stays
      rw [strode.legEnd] at goes
      exact goes

/-! ## Whole legs -/

/-- The start of a leg and the calls after it. -/
def walkLeg (stage : Stage) (next : Point) (scales : List (Int × Int)) : Walk Bool := do
  if ← stage.startLeg next then stage.walkOn scales else pure false

/-- A leg to a point grazes: one axis has so little to cover, compared to the other one, that it
does not move. -/
def Grazes (actor : Actor) (next : Point) : Prop :=
  Leg.Lags actor.speedY (next.x - actor.pos.x) (next.y - actor.pos.y) ∨
    Leg.Lags actor.speedX (next.y - actor.pos.y) (next.x - actor.pos.x)

/-- What a leg to a point needs: speeds and scales of one to 255, and ends that fit words of 16
bits. -/
structure CanWalk (actor : Actor) (next : Point) : Prop where
  speedX : 1 ≤ actor.speedX ∧ actor.speedX ≤ 255
  speedY : 1 ≤ actor.speedY ∧ actor.speedY ≤ 255
  scaled : Scaled actor
  pos : actor.pos.Narrow
  next : next.Narrow

/-- An actor at the start of its leg. -/
structure SetOut (actor : Actor) (next : Point) (planned : Actor) : Prop where
  on : OnLeg planned
  legEnd : planned.walk.legEnd = next
  scaled : Scaled planned
  ahead : unitsAhead planned ≤
    65536 * max (next.x - actor.pos.x).natAbs (next.y - actor.pos.y).natAbs
  swift : ¬ Grazes actor next → Swift planned
  stuck : Grazes actor next → Stuck planned

theorem planLeg_gives {next : Point} (can : CanWalk actor next) (away : actor.pos ≠ next) :
    (planLeg next actor).Gives Allowed (SetOut actor next) := by
  obtain ⟨fastX, fastY, scaled, ⟨px, py⟩, nx, ny⟩ := can
  have apart : next.x - actor.pos.x ≠ 0 ∨ next.y - actor.pos.y ≠ 0 := by
    have parts : ¬ (actor.pos.x = next.x ∧ actor.pos.y = next.y) :=
      fun both => away (Point.eq_iff.mpr both)
    omega
  simp only [planLeg, Checked.gives_bind, Checked.gives_pure]
  rw [gives_sub32 (by omega), gives_sub32 (by omega)]
  refine (Leg.plan_gives fastX fastY (by omega) (by omega) apart).mono fun velocity plan => ?_
  obtain ⟨x, y, xLt, yLe⟩ := plan
  rw [wrap32_eq (by omega), wrap32_eq (by omega)]
  have axisX : Leg.Axis actor.pos.x next.x velocity.x actor.pos.x :=
    ⟨px, nx, x.sign, by omega, by omega⟩
  have axisY : Leg.Axis actor.pos.y next.y velocity.y actor.pos.y :=
    ⟨py, ny, y.sign, by omega, by omega⟩
  have aheadX := Leg.ahead_le actor.pos.x next.x
  have aheadY := Leg.ahead_le actor.pos.y next.y
  refine ⟨⟨axisX, axisY, Facing.ofVelocity_plain _ _⟩, rfl, scaled, ?_, fun free => ?_, ?_⟩
  · exact Nat.max_le.mpr
      ⟨Nat.le_trans aheadX (Nat.mul_le_mul_left _ (Nat.le_max_left _ _)),
        Nat.le_trans aheadY (Nat.mul_le_mul_left _ (Nat.le_max_right _ _))⟩
  · exact ⟨x.swift fun lags => free (.inl lags), y.swift fun lags => free (.inr lags)⟩
  · rintro (lags | lags)
    · exact .inl (x.stuck lags)
    · exact .inr (y.stuck lags)

/-- A fault of a word, in a room that does not fit words of 16 bits. -/
def TooWide (room : Room) (fault : Fault) : Prop := fault.OfWord ∧ ¬ room.Narrow

theorem answers_tooWide (room : Room) : room.Answers (TooWide room) := by
  intro p id pFits
  by_cases fits : room.Narrow
  · exact ⟨Room.pointInBox_gives fits pFits, Room.boxScale_gives fits pFits⟩
  · exact ⟨(room.pointInBox_prompt p id).allow fun _ word => ⟨word, fits⟩,
      (room.boxScale_prompt id p).allow fun _ word => ⟨word, fits⟩⟩

/-- In a narrow room no fault is possible. -/
theorem run_eq_ok_of_narrow {α : Type} {walk : Walk α} {Holds : α → Walker → Prop}
    (fits : stage.room.Narrow) (gives : walk.Gives (TooWide stage.room) walker Holds) :
    ∃ value after, walk.run walker = .ok (value, after) ∧ Holds value after := by
  obtain ⟨⟨value, after⟩, ran, holds⟩ :=
    Checked.gives_false_iff.mp (Checked.Gives.allow gives fun _ wide => wide.2 fits)
  exact ⟨value, after, ran, holds⟩

section Legs

variable {next : Point} {scales : List (Int × Int)}

/-- A leg is planned and then walked, the first call under the scale the actor has. -/
theorem walkLeg_gives {Holds : Bool → Walker → Prop} (can : CanWalk walker.actor next)
    (real : ∀ scale ∈ scales, IsScale scale.1 ∧ IsScale scale.2) (away : walker.actor.pos ≠ next)
    (walks : ∀ planned all, SetOut walker.actor next planned → all.length = scales.length + 1 →
      (∀ scale ∈ all, IsScale scale.1 ∧ IsScale scale.2) →
      (stage.walkOn all).Gives Allowed { walker with actor := planned } Holds) :
    (stage.walkLeg next scales).Gives Allowed walker Holds := by
  simp only [walkLeg, startLeg, Walk.gives_bind, Walk.gives_actor, if_neg away,
    Walk.gives_changeChecked]
  refine (planLeg_gives can away).mono fun planned out => ?_
  have all : ∀ scale ∈ (planned.scaleX, planned.scaleY) :: scales,
      IsScale scale.1 ∧ IsScale scale.2 := by
    intro scale member
    rcases List.mem_cons.mp member with rfl | member
    · exact out.scaled
    · exact real scale member
  have walked := walks planned _ out rfl all
  simp only [walkOn, Walk.gives_bind, Walk.gives_change] at walked
  exact walked

/-- A leg that does not graze ends at its end. -/
theorem walkLeg_ends (can : CanWalk walker.actor next)
    (real : ∀ scale ∈ scales, IsScale scale.1 ∧ IsScale scale.2)
    (free : ¬ Grazes walker.actor next)
    (enough :
      65536 * max (next.x - walker.actor.pos.x).natAbs (next.y - walker.actor.pos.y).natAbs ≤
        scales.length) :
    (stage.walkLeg next scales).Gives (TooWide stage.room) walker fun more after =>
      more = false ∧ after.actor.pos = next := by
  by_cases there : walker.actor.pos = next
  · simp [walkLeg, startLeg, there]
  · refine walkLeg_gives can real there fun planned all out length scaled => ?_
    have units : unitsAhead planned < all.length := by
      have := out.ahead
      omega
    have ends : (stage.walkOn all).Gives _ ⟨planned, walker.events⟩ _ :=
      walkOn_ends (answers_tooWide stage.room) all scaled out.on (out.swift free) units
    rw [out.legEnd] at ends
    exact ends

/-- A leg that grazes never ends. -/
theorem walkLeg_grazes (can : CanWalk walker.actor next)
    (real : ∀ scale ∈ scales, IsScale scale.1 ∧ IsScale scale.2)
    (grazes : Grazes walker.actor next) :
    (stage.walkLeg next scales).Gives (TooWide stage.room) walker fun more after =>
      more = true ∧ after.actor.pos ≠ next := by
  have away : walker.actor.pos ≠ next := by
    rintro rfl
    rcases grazes with ⟨forward, _⟩ | ⟨forward, _⟩
    · omega
    · omega
  refine walkLeg_gives can real away fun planned all out _ scaled => ?_
  have goes : (stage.walkOn all).Gives _ ⟨planned, walker.events⟩ _ :=
    walkOn_stuck (answers_tooWide stage.room) all scaled out.on (out.stuck grazes)
  rw [out.legEnd] at goes
  exact goes

/-- **A leg ends exactly when it does not graze.**  Whatever the room, the rules and the scales on
the way are, an actor on a leg that does not graze stands on its end after a bounded number
of calls, and on a leg that grazes it never does.  There is no fault but in rooms that do not
fit words of 16 bits. -/
theorem leg_ends_unless_grazing (can : CanWalk walker.actor next)
    (real : ∀ scale ∈ scales, IsScale scale.1 ∧ IsScale scale.2) :
    (¬ Grazes walker.actor next →
      65536 * max (next.x - walker.actor.pos.x).natAbs (next.y - walker.actor.pos.y).natAbs ≤
        scales.length →
      (stage.walkLeg next scales).Gives (TooWide stage.room) walker fun more after =>
        more = false ∧ after.actor.pos = next) ∧
    (Grazes walker.actor next →
      (stage.walkLeg next scales).Gives (TooWide stage.room) walker fun more after =>
        more = true ∧ after.actor.pos ≠ next) :=
  ⟨walkLeg_ends can real, walkLeg_grazes can real⟩

end Legs

/-- A long room with one box. -/
def longStage : Stage :=
  ⟨.plain 1 [⟨⟨⟨0, 0⟩, ⟨400, 0⟩, ⟨400, 50⟩, ⟨0, 50⟩⟩, 0, .none, .fixed 255⟩] .empty, .standard, 1,
    none⟩

/-- A slow actor at its left border. -/
def slowWalker : Walker :=
  ⟨{ Actor.fresh 1 with
      room := 1
      pos := ⟨0, 25⟩
      speedX := 1
      speedY := 1
      walkBox := some 0 }, []⟩

theorem longStage_narrow : longStage.room.Narrow := by
  refine ⟨fun box member => ?_, fun ramp member => ?_⟩
  · cases List.mem_singleton.mp member
    exact ⟨⟨by decide, by decide⟩, ⟨by decide, by decide⟩, ⟨by decide, by decide⟩,
      ⟨by decide, by decide⟩⟩
  · cases List.eq_of_mem_replicate member
    exact ⟨by decide, by decide, by decide, by decide, by decide, by decide⟩

theorem slowWalker_canWalk {x : Int} (inside : 0 ≤ x ∧ x ≤ 400) :
    CanWalk slowWalker.actor ⟨x, 26⟩ :=
  ⟨by decide, by decide, ⟨by decide, by decide⟩, ⟨by decide, by decide⟩,
    ⟨by show Fits16 x; omega, by show Fits16 26; decide⟩⟩

theorem leg_ends_slowWalker : ∃ after,
    (longStage.walkLeg ⟨200, 26⟩ (List.replicate 13107200 (255, 255))).run slowWalker =
      .ok (false, after) ∧ after.actor.pos = ⟨200, 26⟩ := by
  have real : ∀ scale ∈ List.replicate 13107200 ((255, 255) : Int × Int),
      IsScale scale.1 ∧ IsScale scale.2 := by
    intro scale member
    cases List.eq_of_mem_replicate member
    exact ⟨by decide, by decide⟩
  have length : (List.replicate 13107200 ((255, 255) : Int × Int)).length = 13107200 :=
    List.length_replicate
  generalize List.replicate 13107200 ((255, 255) : Int × Int) = scales at *
  have free : ¬ Grazes slowWalker.actor ⟨200, 26⟩ := by
    rintro (⟨_, lags⟩ | ⟨_, lags⟩)
    · exact absurd lags (by decide)
    · exact absurd lags (by decide)
  have ends := (@leg_ends_unless_grazing longStage slowWalker ⟨200, 26⟩ scales
    (slowWalker_canWalk (by decide)) real).1 free (by rw [length]; decide)
  obtain ⟨more, after, ran, rfl, arrived⟩ := run_eq_ok_of_narrow longStage_narrow ends
  exact ⟨after, ran, arrived⟩

/-- The same actor never comes to the end of a longer leg: it takes more than 256 pixels across to
one down. -/
theorem slowWalker_never_arrives : ¬ ∃ scales : List (Int × Int),
    (∀ scale ∈ scales, IsScale scale.1 ∧ IsScale scale.2) ∧
      ∃ after, (longStage.walkLeg ⟨300, 26⟩ scales).run slowWalker = .ok (false, after) := by
  rintro ⟨scales, real, after, ended⟩
  have grazes : Grazes slowWalker.actor ⟨300, 26⟩ := .inr ⟨by decide, by decide⟩
  have goes := @walkLeg_grazes longStage slowWalker ⟨300, 26⟩ scales
    (slowWalker_canWalk (by decide)) real grazes
  obtain ⟨more, after', ran, rfl, _⟩ := run_eq_ok_of_narrow longStage_narrow goes
  cases ended.symm.trans ran

end Stage

end Adventure
