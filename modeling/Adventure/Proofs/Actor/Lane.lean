import Adventure.Proofs.Actor.LegEnds
import Adventure.Proofs.Geometry.Field

/-!
# Lanes

An actor on a leg stays in the rectangle between the leg's ends, however fast it is.  A speed
of zero may leave an axis without a velocity; it never turns one around.  So each axis has
a lane of the field: a start, a stop, and a velocity that does not lead against the way from
one to the other.  Planning a leg lays two lanes out, and a step keeps to them, because an
axis that would come too far is put onto the leg's end.
-/

set_option autoImplicit false

namespace Adventure

open Word

variable {Allowed : Fault → Prop}

/-- The values of a byte. -/
abbrev IsByte (z : Int) : Prop := 0 ≤ z ∧ z ≤ 255

theorem isByte_toNat (byte : UInt8) : IsByte byte.toNat := by
  have less := byte.toNat_lt
  omega

namespace Leg

/-! ## Planning -/

/-- A velocity that does not lead against a difference, of 256 pixels at most. -/
structure Leads (diff velocity : Int) : Prop where
  onward : 0 ≤ diff → 0 ≤ velocity
  back : diff ≤ 0 → velocity ≤ 0
  slow : velocity.natAbs ≤ 16777216

theorem leads_zero (diff : Int) : Leads diff 0 :=
  ⟨fun _ => Int.le_refl 0, fun _ => Int.le_refl 0, Nat.zero_le _⟩

theorem leads_signed {size : Nat} (small : size ≤ 16777216) (diff : Int) :
    Leads diff (diff.sign * size) := by
  refine ⟨fun onward => ?_, fun back => ?_, Nat.le_trans (natAbs_signed_le _ _) small⟩
  · exact Int.mul_nonneg (Int.sign_nonneg_iff.mpr onward) (by omega)
  · exact Int.mul_nonpos_of_nonpos_of_nonneg (Int.sign_nonpos_iff.mpr back) (by omega)

theorem leads_fullSpeed {speed diff : Int} (slow : IsByte speed) (real : diff ≠ 0) :
    Leads diff (fullSpeed speed diff) := by
  unfold fullSpeed unit
  constructor <;> split <;> omega

/-- The velocity of an axis that follows the other one, which may stand still. -/
theorem fullSpeed_tdiv_eq {speed diff other : Int} (forward : 0 ≤ speed) (otherReal : other ≠ 0)
    (otherLe : other.natAbs ≤ 65535) :
    (fullSpeed speed other * diff).tdiv other = diff.sign * share speed diff other := by
  by_cases still : speed = 0
  · subst still
    simp [fullSpeed, share]
  · exact fullSpeed_tdiv (by omega) otherReal otherLe

/-- The axis that does not set the pace does not exceed its own speed. -/
theorem share_le_of_setsPace {speedX speedY diffX diffY : Int} (slowX : IsByte speedX)
    (slowY : IsByte speedY)
    (exceeds : ((diffX.sign * share speedY diffX diffY / unit).natAbs : Int) > speedX) :
    share speedX diffY diffX ≤ 16777216 := by
  by_cases still : speedX = 0
  · subst still
    simp [share]
  · have faster := lt_of_exceeds (by omega) exceeds
    have le := share_le_of_exceeds faster
    omega

section Plan

variable {speedX speedY diffX diffY : Int}

/-- A level leg: its width is covered as if the leg were one pixel high. -/
theorem plan_leads_level (slowX : IsByte speedX) (slowY : IsByte speedY)
    (xLe : diffX.natAbs ≤ 65535) :
    (plan speedX speedY diffX 0).Gives Allowed fun velocity =>
      Leads diffX velocity.x ∧ Leads 0 velocity.y := by
  have sidewaysLe : (fullSpeed speedY 0 * diffX).natAbs ≤ 65536 * 255 * 65535 :=
    natAbs_fullSpeed_mul_le (by omega) xLe
  have sideways : fullSpeed speedY 0 * diffX = diffX.sign * share speedY diffX 1 := by
    have follows : (fullSpeed speedY 1 * diffX).tdiv 1 = _ :=
      fullSpeed_tdiv_eq slowY.1 Int.one_ne_zero (by decide)
    rwa [Int.tdiv_one] at follows
  simp only [plan, fullSpeed_eq, if_true, Checked.gives_bind, Checked.gives_ite,
    Checked.gives_pure]
  rw [gives_mul64 (by omega), sideways]
  by_cases wide : diffX = 0
  · subst wide
    simp only [Int.sign_zero, Int.zero_mul, Int.zero_ediv, Int.natAbs_zero, if_true]
    rw [if_neg (by omega)]
    exact ⟨leads_zero _, leads_zero _⟩
  split
  · rw [gives_mul64 (by omega), gives_div64 wide (by omega), Int.mul_zero, Int.zero_tdiv]
    exact ⟨leads_fullSpeed slowX wide, leads_zero _⟩
  next within =>
    have less := lt_of_within wide within
    exact ⟨leads_signed (by omega) _, leads_zero _⟩

theorem plan_leads_high (slowX : IsByte speedX) (slowY : IsByte speedY) (high : diffY ≠ 0)
    (xLe : diffX.natAbs ≤ 65535) (yLe : diffY.natAbs ≤ 65535) :
    (plan speedX speedY diffX diffY).Gives Allowed fun velocity =>
      Leads diffX velocity.x ∧ Leads diffY velocity.y := by
  have sidewaysLe : (fullSpeed speedY diffY * diffX).natAbs ≤ 65536 * 255 * 65535 :=
    natAbs_fullSpeed_mul_le (by omega) xLe
  have upwardLe : (fullSpeed speedX diffX * diffY).natAbs ≤ 65536 * 255 * 65535 :=
    natAbs_fullSpeed_mul_le (by omega) yLe
  simp only [plan, fullSpeed_eq, if_neg high, Checked.gives_bind, Checked.gives_ite,
    Checked.gives_pure]
  rw [gives_mul64 (by omega), gives_div64 high (by omega), fullSpeed_tdiv_eq slowY.1 high yLe]
  by_cases wide : diffX = 0
  · subst wide
    simp only [Int.sign_zero, Int.zero_mul, Int.zero_ediv, Int.natAbs_zero]
    rw [if_neg (by omega)]
    exact ⟨leads_zero _, leads_fullSpeed slowY high⟩
  split
  next exceeds =>
    rw [gives_mul64 (by omega), gives_div64 wide (by omega), fullSpeed_tdiv_eq slowX.1 wide xLe]
    exact ⟨leads_fullSpeed slowX wide, leads_signed (share_le_of_setsPace slowX slowY exceeds) _⟩
  next within =>
    have less := lt_of_within wide within
    exact ⟨leads_signed (by omega) _, leads_fullSpeed slowY high⟩

/-- **A planned velocity leads along both axes**, whatever the speeds are. -/
theorem plan_leads (slowX : IsByte speedX) (slowY : IsByte speedY) (xLe : diffX.natAbs ≤ 65535)
    (yLe : diffY.natAbs ≤ 65535) :
    (plan speedX speedY diffX diffY).Gives Allowed fun velocity =>
      Leads diffX velocity.x ∧ Leads diffY velocity.y := by
  by_cases high : diffY = 0
  · subst high
    exact plan_leads_level slowX slowY xLe
  · exact plan_leads_high slowX slowY high xLe yLe

end Plan

/-! ## One axis -/

/-- One axis of a leg of the field: it lies between its ends, and its velocity does not lead
back. -/
structure Lane (start stop delta pos : Int) : Prop where
  startIn : InField start
  stopIn : InField stop
  leads : Leads (stop - start) delta
  between : start ≤ pos ∧ pos ≤ stop ∨ stop ≤ pos ∧ pos ≤ start

section Lane

variable {start stop delta pos scale : Int} {frac : UInt16}

theorem Lane.inField (lane : Lane start stop delta pos) : InField pos := by
  obtain ⟨⟨_, _⟩, ⟨_, _⟩, _, _⟩ := lane
  omega

/-- The units of a step lead where the velocity leads. -/
theorem Leads.units {diff : Int} (leads : Leads diff delta) (scaled : IsByte scale) :
    (delta / 256 * scale).natAbs ≤ 16711680 ∧ (0 ≤ diff → 0 ≤ delta / 256 * scale) ∧
      (diff ≤ 0 → delta / 256 * scale ≤ 0) := by
  obtain ⟨onward, back, slow⟩ := leads
  refine ⟨natAbs_units_le slow (by omega), fun ahead => ?_, fun behind => ?_⟩
  · have := onward ahead
    exact Int.mul_nonneg (by omega) scaled.1
  · have := back behind
    exact Int.mul_nonpos_of_nonpos_of_nonneg (by omega) scaled.1

/-- **A step along one axis keeps to its lane.** -/
theorem Lane.hold_stride_gives (lane : Lane start stop delta pos) (scaled : IsByte scale) :
    (hold start stop (stop - start).natAbs (stride pos frac delta scale).2).Gives Allowed
      fun moved => Lane start stop delta moved := by
  obtain ⟨⟨startLow, startHigh⟩, ⟨stopLow, stopHigh⟩, leads, between⟩ := lane
  obtain ⟨small, onward, back⟩ := leads.units scaled
  have total : _ = pos * 65536 + (frac.toNat : Int) + _ := stride_eq (by omega) small
  generalize delta / 256 * scale = units at *
  generalize (stride pos frac delta scale).1 = left at *
  generalize (stride pos frac delta scale).2 = reached at *
  have fraction := frac.toNat_lt
  have rest := left.toNat_lt
  rw [hold_gives (by omega) (by omega)]
  split
  · exact ⟨⟨startLow, startHigh⟩, ⟨stopLow, stopHigh⟩, leads, by omega⟩
  · exact ⟨⟨startLow, startHigh⟩, ⟨stopLow, stopHigh⟩, leads, by omega⟩

end Lane

/-! ## Both axes -/

/-- Both axes of an actor's leg keep to their lanes. -/
def OnLane (walk : WalkState) (pos : Point) : Prop :=
  Lane walk.legStart.x walk.legEnd.x walk.deltaX pos.x ∧
    Lane walk.legStart.y walk.legEnd.y walk.deltaY pos.y

namespace OnLane

variable {walk : WalkState} {pos : Point}

theorem inField (on : OnLane walk pos) : pos.InField := ⟨on.1.inField, on.2.inField⟩

theorem isOver_gives (on : OnLane walk pos) (lengthX lengthY : Int) :
    (isOver walk lengthX lengthY pos).Gives Allowed fun _ => True := by
  have startX := on.1.startIn
  have startY := on.2.startIn
  have posX := on.1.inField
  have posY := on.2.inField
  simp only [isOver, Checked.gives_bind, Checked.gives_ite, Checked.gives_pure]
  rw [gives_covered (by omega) (by omega), gives_covered (by omega) (by omega)]
  split <;> trivial

/-- **A step keeps to the lanes of the leg**, and changes nothing but the place. -/
theorem step_gives {actor : Actor} (on : OnLane actor.walk actor.pos)
    (scaleX : IsByte actor.scaleX) (scaleY : IsByte actor.scaleY) {Holds : Actor → Prop}
    (holds : ∀ pos fracX fracY, OnLane actor.walk pos →
      Holds
        { actor with pos := pos, walk := { actor.walk with fracX := fracX, fracY := fracY } }) :
    (step actor (actor.walk.legEnd.x - actor.walk.legStart.x).natAbs
      (actor.walk.legEnd.y - actor.walk.legStart.y).natAbs).Gives Allowed Holds := by
  simp only [step_eq, Checked.gives_bind, Checked.gives_pure]
  refine (on.1.hold_stride_gives scaleX).mono fun x xLane => ?_
  refine (on.2.hold_stride_gives scaleY).mono fun y yLane => ?_
  exact holds ⟨x, y⟩ _ _ ⟨xLane, yLane⟩

end OnLane

end Leg

end Adventure
