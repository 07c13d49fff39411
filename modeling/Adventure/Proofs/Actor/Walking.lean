import Adventure.Actor.Walk
import Adventure.Proofs.Data.Checked

/-!
# Reading computations that drive an actor

A computation of `Walk` gives a value and the driven actor, or stops with a fault.  The
equations for `Walk.Gives` take it apart; the lemmas after them say what the parts of a tick
do with an actor on its leg, up to the faults that their checks may give.
-/

set_option autoImplicit false

namespace Adventure

variable {α β : Type} {Allowed : Fault → Prop}

namespace Walk

/-- A computation that drives an actor gives a value and a driven actor with a property, or
stops with a fault that is allowed. -/
def Gives (Allowed : Fault → Prop) (walk : Walk α) (walker : Walker)
    (Holds : α → Walker → Prop) : Prop :=
  (walk.run walker).Gives Allowed fun result => Holds result.1 result.2

variable {walk : Walk α} {walker : Walker} {Holds Follows : α → Walker → Prop}

theorem Gives.mono (gives : walk.Gives Allowed walker Holds)
    (follows : ∀ value after, Holds value after → Follows value after) :
    walk.Gives Allowed walker Follows :=
  Checked.Gives.mono gives fun result => follows result.1 result.2

/-- What holds of all results holds of the one that there is. -/
theorem Gives.of_ok {value : α} {after : Walker} (gives : walk.Gives Allowed walker Holds)
    (ran : walk.run walker = .ok (value, after)) : Holds value after := by
  unfold Gives at gives
  rw [ran] at gives
  exact gives

@[simp] theorem gives_pure {value : α} :
    (pure value : Walk α).Gives Allowed walker Holds ↔ Holds value walker :=
  Iff.rfl

@[simp] theorem gives_bind {next : α → Walk β} {Holds : β → Walker → Prop} :
    (walk >>= next).Gives Allowed walker Holds ↔
      walk.Gives Allowed walker fun value after => (next value).Gives Allowed after Holds := by
  simp only [Gives, StateT.run_bind, Checked.gives_bind]

@[simp] theorem gives_lift {computation : Checked α} :
    (liftM computation : Walk α).Gives Allowed walker Holds ↔
      computation.Gives Allowed fun value => Holds value walker := by
  cases computation <;> rfl

@[simp] theorem gives_ite {test : Prop} [Decidable test] {other : Walk α} :
    (if test then walk else other).Gives Allowed walker Holds ↔
      if test then walk.Gives Allowed walker Holds else other.Gives Allowed walker Holds := by
  split <;> rfl

@[simp] theorem gives_actor {Holds : Actor → Walker → Prop} :
    actor.Gives Allowed walker Holds ↔ Holds walker.actor walker :=
  Iff.rfl

@[simp] theorem gives_change {rule : Actor → Actor} {Holds : Unit → Walker → Prop} :
    (change rule).Gives Allowed walker Holds ↔
      Holds () { walker with actor := rule walker.actor } :=
  Iff.rfl

@[simp] theorem gives_changeChecked {rule : Actor → Checked Actor} {Holds : Unit → Walker → Prop} :
    (changeChecked rule).Gives Allowed walker Holds ↔
      (rule walker.actor).Gives Allowed fun changed =>
        Holds () { walker with actor := changed } := by
  simp only [changeChecked, gives_bind, gives_actor, gives_lift]
  rfl

@[simp] theorem gives_log {event : String} {Holds : Unit → Walker → Prop} :
    (log event).Gives Allowed walker Holds ↔
      Holds () { walker with events := walker.events ++ [event] } :=
  Iff.rfl

end Walk

/-- The walker after a call, if the call gives one. -/
def Walker.after (walker : Walker) (call : Walk Unit) : Walker :=
  match call.run walker with
  | .ok (_, after) => after
  | .error _ => walker

/-! ## The bits of a walk -/

namespace Moving

variable {moving : Moving} {mask other : UInt8}

theorem has_plus (apart : mask &&& other = 0) :
    (moving.plus mask).has other = moving.has other := by
  have both : (moving.bits ||| mask) &&& other = (moving.bits &&& other) ||| (mask &&& other) := by
    apply UInt8.eq_of_toBitVec_eq
    simp [BitVec.and_or_distrib_right]
  simp [plus, has, both, apart]

theorem has_without (apart : ~~~mask &&& other = other) :
    (moving.without mask).has other = moving.has other := by
  simp [without, has, UInt8.and_assoc, apart]

theorem has_only (inside : mask &&& other = other) :
    (moving.only mask).has other = moving.has other := by
  simp [only, has, UInt8.and_assoc, inside]

theorem has_plus_self (moving : Moving) (mask : UInt8) : (moving.plus mask).has mask = true := by
  have kept : (moving.bits ||| mask) &&& mask = mask := by
    apply UInt8.eq_of_toBitVec_eq
    ext index
    simp only [UInt8.toBitVec_and, UInt8.toBitVec_or, BitVec.getElem_and, BitVec.getElem_or]
    cases mask.toBitVec[index] <;> simp
  simp [plus, has, kept]

theorem has_without_self (moving : Moving) (real : mask ≠ 0) :
    (moving.without mask).has mask = false := by
  have cleared : moving.bits &&& ~~~mask &&& mask = 0 := by
    rw [UInt8.and_assoc]
    simp
  simp [without, has, cleared, Ne.symm real]

theorem bits_ne_zero_of_has (real : mask ≠ 0) (set : moving.has mask = true) :
    moving.bits ≠ 0 := by
  intro zero
  simp [has, zero, Ne.symm real] at set

end Moving

/-! ## Scales -/

/-- A clamped scale is not zero. -/
theorem ScaleRamp.clampByte_ne_zero (z : Int) : ScaleRamp.clampByte z ≠ 0 := by
  intro zero
  have value : (ScaleRamp.clampByte z).toNat = (max 1 (min z 255)).toNat := by
    simp only [clampByte, UInt8.toNat_ofNat']
    omega
  rw [zero] at value
  change 0 = _ at value
  omega

theorem ScaleRamp.scaleAt_ne_zero (ramp : ScaleRamp) (x y : Int) :
    (ramp.scaleAt x y).Gives (fun _ => True) (· ≠ 0) := by
  simp [scaleAt, clampByte_ne_zero]

/-- The scale of a place is never zero. -/
theorem Room.boxScale_ne_zero (room : Room) (id : Option BoxId) (p : Point) :
    (room.boxScale id p).Gives (fun _ => True) (· ≠ 0) := by
  unfold boxScale
  split
  · simp
  · split
    · exact ScaleRamp.clampByte_ne_zero _
    · split
      · exact ScaleRamp.scaleAt_ne_zero _ _ _
      · simp

/-! ## Parts of a tick -/

/-- What one tick makes of an actor on its leg, and whether the leg goes on. -/
def Leg.pace (rules : Rules) (actor : Actor) : Checked (Bool × Actor) := do
  let lengthX ← covered actor.walk.legStart.x actor.walk.legEnd.x
  let lengthY ← covered actor.walk.legStart.y actor.walk.legEnd.y
  if ← isOver actor.walk lengthX lengthY actor.pos then
    pure (false, { actor with moving := actor.moving.without Moving.inLeg })
  else
    let moved ← step actor lengthX lengthY
    if rules.legEndsOnArrival && moved.pos == actor.walk.legEnd then
      pure (false, { moved with moving := moved.moving.without Moving.inLeg })
    else pure (true, moved)

namespace Stage

/-- An actor that is ready to move on: it may have turned and entered the box its leg leads to,
but it stands where it stood. -/
structure Ready (before ready : Actor) : Prop where
  pos : ready.pos = before.pos
  walk : ready.walk = before.walk
  facing : ready.targetFacing = before.targetFacing
  /-- A new scale is a byte other than zero. -/
  scale : (ready.scaleX = before.scaleX ∧ ready.scaleY = before.scaleY) ∨
    ∃ scale : UInt8, scale ≠ 0 ∧ ready.scaleX = scale.toNat ∧ ready.scaleY = scale.toNat

variable {stage : Stage} {walker : Walker}

theorem Ready.refl (actor : Actor) : Ready actor actor := ⟨rfl, rfl, rfl, .inl ⟨rfl, rfl⟩⟩

/-- A new scale is all that is new, and it is a byte other than zero. -/
theorem rescale_scales {actor : Actor}
    (scales : (stage.room.boxScale actor.walkBox actor.pos).Gives Allowed fun _ => True) :
    (stage.rescale actor).Gives Allowed fun changed =>
      ∃ scaleX scaleY, changed = { actor with scaleX := scaleX, scaleY := scaleY } ∧
        ((scaleX = actor.scaleX ∧ scaleY = actor.scaleY) ∨
          ∃ scale : UInt8, scale ≠ 0 ∧ scaleX = scale.toNat ∧ scaleY = scale.toNat) := by
  unfold rescale
  split
  · exact ⟨_, _, rfl, .inl ⟨rfl, rfl⟩⟩
  · split
    · exact ⟨_, _, rfl, .inl ⟨rfl, rfl⟩⟩
    · rw [Checked.gives_bind]
      refine (scales.and_value (stage.room.boxScale_ne_zero _ _)).mono ?_
      rintro scale ⟨-, real⟩
      exact ⟨_, _, rfl, .inr ⟨scale, real, rfl, rfl⟩⟩

theorem rescale_gives {actor : Actor}
    (scales : (stage.room.boxScale actor.walkBox actor.pos).Gives Allowed fun _ => True) :
    (stage.rescale actor).Gives Allowed fun changed =>
      changed.walkBox = actor.walkBox ∧ Ready actor changed := by
  refine (rescale_scales scales).mono ?_
  rintro changed ⟨scaleX, scaleY, rfl, scale⟩
  exact ⟨rfl, rfl, rfl, rfl, scale⟩

theorem setBox_gives {box : Option BoxId} {actor : Actor}
    (scales : (stage.room.boxScale box actor.pos).Gives Allowed fun _ => True) :
    (stage.setBox box actor).Gives Allowed fun changed =>
      changed.walkBox = box ∧ Ready actor changed := by
  refine (rescale_gives scales).mono ?_
  rintro changed ⟨box, ready⟩
  exact ⟨box, ready.pos, ready.walk, ready.facing, ready.scale⟩

/-- Showing a frame changes how the actor looks. -/
theorem startAnim_gives {frame : UInt8} {Holds : Unit → Walker → Prop}
    (holds : ∀ frame redraw events,
      Holds () ⟨{ walker.actor with frame := frame, needRedraw := redraw }, events⟩) :
    (stage.startAnim frame).Gives Allowed walker Holds := by
  simp only [startAnim, Walk.gives_bind, Walk.gives_actor, Walk.gives_ite, Walk.gives_change,
    Walk.gives_log, Walk.gives_pure]
  split
  · exact holds frame true _
  · exact holds _ _ _

theorem faceLeg_gives
    (turns : (stage.nextFacing { walker.actor with needRedraw := true } true).Gives Allowed
      fun _ => True) :
    stage.faceLeg.Gives Allowed walker fun _ after => Ready walker.actor after.actor := by
  simp only [faceLeg, Walk.gives_bind, Walk.gives_actor, Walk.gives_lift, Walk.gives_ite,
    Walk.gives_change, Walk.gives_pure]
  refine turns.mono fun facing _ => ?_
  split
  · split
    · refine startAnim_gives fun frame redraw events => ?_
      unfold Actor.setDirection
      split
      · exact ⟨rfl, rfl, rfl, .inl ⟨rfl, rfl⟩⟩
      · exact ⟨rfl, rfl, rfl, .inl ⟨rfl, rfl⟩⟩
    · exact ⟨rfl, rfl, rfl, .inl ⟨rfl, rfl⟩⟩
  · exact ⟨rfl, rfl, rfl, .inl ⟨rfl, rfl⟩⟩

theorem enterBox_gives
    (inside : (stage.room.pointInBox walker.actor.pos walker.actor.walk.curBox).Gives Allowed
      fun _ => True)
    (scales : (stage.room.boxScale walker.actor.walk.curBox walker.actor.pos).Gives Allowed
      fun _ => True) :
    stage.enterBox.Gives Allowed walker fun _ after => Ready walker.actor after.actor := by
  simp only [enterBox, Walk.gives_bind, Walk.gives_actor, Walk.gives_lift, Walk.gives_ite,
    Walk.gives_changeChecked, Walk.gives_pure]
  split
  · refine inside.mono fun holds _ => ?_
    split
    · exact (setBox_gives scales).mono fun _ both => both.2
    · exact .refl _
  · exact .refl _

theorem Ready.trans {first second third : Actor} (before : Ready first second)
    (after : Ready second third) : Ready first third where
  pos := after.pos.trans before.pos
  walk := after.walk.trans before.walk
  facing := after.facing.trans before.facing
  scale := by
    rcases after.scale with ⟨x, y⟩ | new
    · rw [x, y]
      exact before.scale
    · exact .inr new

/-- **A step turns the actor, lets it enter its box and paces its leg.** -/
theorem walkStep_gives {Holds : Bool → Walker → Prop}
    (turns : (stage.nextFacing { walker.actor with needRedraw := true } true).Gives Allowed
      fun _ => True)
    (inside : (stage.room.pointInBox walker.actor.pos walker.actor.walk.curBox).Gives Allowed
      fun _ => True)
    (scales : (stage.room.boxScale walker.actor.walk.curBox walker.actor.pos).Gives Allowed
      fun _ => True)
    (paces : ∀ ready events, Ready walker.actor ready →
      (Leg.pace stage.rules ready).Gives Allowed fun result => Holds result.1 ⟨result.2, events⟩) :
    stage.walkStep.Gives Allowed walker Holds := by
  unfold walkStep
  rw [Walk.gives_bind]
  refine (faceLeg_gives turns).mono fun _ faced ready => ?_
  rw [Walk.gives_bind]
  rw [← ready.pos, ← ready.walk] at inside scales
  refine (enterBox_gives inside scales).mono fun _ entered still => ?_
  have paced := paces entered.actor entered.events (ready.trans still)
  simp only [Leg.pace, Checked.gives_bind, Checked.gives_ite, Checked.gives_pure] at paced
  simp only [endLeg, Walk.gives_bind, Walk.gives_actor, Walk.gives_lift, Walk.gives_ite,
    Walk.gives_change, Walk.gives_pure]
  exact paced

end Stage

end Adventure
