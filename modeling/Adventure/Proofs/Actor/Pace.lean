import Adventure.Actor.Leg
import Adventure.Proofs.Data.Checked
import Mathlib.Tactic.Linarith
import Mathlib.Tactic.Ring

/-!
# The pace of a leg

A leg is planned so that both axes reach its end together: one of them moves at full speed, and
the other one at its share.  Steps are counted in units of 256 parts of the velocity.  So an
axis whose share is less than a unit does not move at all when it should move forward, while
backward the rounding gives it a whole unit: it `Lags`.  Any other axis stays between the
ends of the leg and comes closer to the last one with every step (`hold_stride_gives`).
-/

set_option autoImplicit false

namespace Adventure.Leg

open Word

variable {Allowed : Fault → Prop}

/-! ## Planning -/

/-- Full speed in the direction of a difference. -/
def fullSpeed (speed diff : Int) : Int := if diff < 0 then -(speed * unit) else speed * unit

theorem fullSpeed_eq (speed diff : Int) :
    (if diff < 0 then -(speed * unit) else speed * unit) = fullSpeed speed diff := rfl

theorem natAbs_fullSpeed (speed diff : Int) :
    (fullSpeed speed diff).natAbs = 65536 * speed.natAbs := by
  unfold fullSpeed unit
  split <;> omega

theorem sign_fullSpeed {speed diff : Int} (fast : 1 ≤ speed) (real : diff ≠ 0) :
    (fullSpeed speed diff).sign = diff.sign := by
  unfold fullSpeed unit
  split
  · rw [Int.sign_eq_neg_one_of_neg (by omega), Int.sign_eq_neg_one_of_neg (by omega)]
  · rw [Int.sign_eq_one_of_pos (by omega), Int.sign_eq_one_of_pos (by omega)]

/-- The velocity, in absolute value, that covers `diff` while the other axis covers `other` at
full speed. -/
def share (speed diff other : Int) : Nat := 65536 * (speed.natAbs * diff.natAbs) / other.natAbs

/-- The velocity of an axis that follows the other one has the sign of its difference. -/
theorem fullSpeed_tdiv {speed diff other : Int} (fast : 1 ≤ speed) (otherReal : other ≠ 0)
    (otherLe : other.natAbs ≤ 65535) :
    (fullSpeed speed other * diff).tdiv other = diff.sign * share speed diff other := by
  have size : (fullSpeed speed other * diff).natAbs = 65536 * (speed.natAbs * diff.natAbs) := by
    rw [Int.natAbs_mul, natAbs_fullSpeed, Nat.mul_assoc]
  by_cases still : diff = 0
  · subst still
    simp
  · have positive : 1 ≤ speed.natAbs * diff.natAbs := Nat.mul_pos (by omega) (by omega)
    have sign : ((fullSpeed speed other * diff).tdiv other).sign = diff.sign := by
      rw [Int.sign_tdiv, if_neg (by omega), Int.sign_mul, sign_fullSpeed fast otherReal]
      rcases Int.lt_or_gt_of_ne otherReal with negative | above
      · rw [Int.sign_eq_neg_one_of_neg negative]
        ring
      · rw [Int.sign_eq_one_of_pos above]
        ring
    rw [← Int.sign_mul_natAbs ((fullSpeed speed other * diff).tdiv other), sign, Int.natAbs_tdiv,
      size]
    rfl

/-- The axis that follows is too slow to move forward: its velocity is less than a unit of the
steps that are taken. -/
def Lags (speed diff other : Int) : Prop :=
  0 < diff ∧ 256 * (speed.natAbs * diff.natAbs) < other.natAbs

/-- What a planned velocity along one axis is like. -/
structure Planned (diff velocity : Int) (lags : Prop) : Prop where
  sign : velocity.sign = diff.sign
  /-- A step moves the axis, unless there is nothing to cover or it lags behind. -/
  moves : velocity / 256 = 0 ↔ diff = 0 ∨ lags

theorem Planned.swift {start stop velocity : Int} {lags : Prop}
    (planned : Planned (stop - start) velocity lags) (free : ¬ lags) :
    velocity / 256 ≠ 0 ∨ start = stop := by
  by_cases idle : velocity / 256 = 0
  · have nothing : stop - start = 0 := (planned.moves.mp idle).resolve_right free
    exact .inr (by omega)
  · exact .inl idle

theorem Planned.stuck {speed start stop other velocity : Int}
    (planned : Planned (stop - start) velocity (Lags speed (stop - start) other))
    (lags : Lags speed (stop - start) other) : start ≠ stop ∧ velocity / 256 = 0 := by
  refine ⟨?_, planned.moves.mpr (.inr lags)⟩
  rintro rfl
  have forward := lags.1
  omega

theorem share_lt_iff {speed diff other : Int} (real : other ≠ 0) :
    share speed diff other < 256 ↔ 256 * (speed.natAbs * diff.natAbs) < other.natAbs := by
  rw [share, Nat.div_lt_iff_lt_mul (by omega)]
  omega

theorem share_pos {speed diff other : Int} (fast : 1 ≤ speed) (real : diff ≠ 0)
    (otherReal : other ≠ 0) (otherLe : other.natAbs ≤ 65535) : 1 ≤ share speed diff other := by
  have positive : 1 ≤ speed.natAbs * diff.natAbs := Nat.mul_pos (by omega) (by omega)
  exact (Nat.one_le_div_iff (by omega)).mpr (by omega)

/-- An axis that follows the other one. -/
theorem planned_follows {speed diff other : Int} (fast : 1 ≤ speed) (otherReal : other ≠ 0)
    (otherLe : other.natAbs ≤ 65535) :
    Planned diff (diff.sign * share speed diff other) (Lags speed diff other) := by
  have lagsIff : share speed diff other < 256 ↔ _ := share_lt_iff otherReal
  rcases Int.lt_trichotomy diff 0 with negative | rfl | above
  · have positive := share_pos fast (by omega : diff ≠ 0) otherReal otherLe
    rw [Int.sign_eq_neg_one_of_neg negative]
    refine ⟨?_, ?_⟩
    · rw [Int.sign_eq_neg_one_of_neg (by omega), Int.sign_eq_neg_one_of_neg negative]
    · unfold Lags
      omega
  · exact ⟨by simp, by simp⟩
  · have positive := share_pos fast (by omega : diff ≠ 0) otherReal otherLe
    rw [Int.sign_eq_one_of_pos above]
    refine ⟨?_, ?_⟩
    · rw [Int.sign_eq_one_of_pos (by omega), Int.sign_eq_one_of_pos above]
    · unfold Lags
      omega

/-- An axis at full speed. -/
theorem planned_fullSpeed {speed diff : Int} {lags : Prop} (fast : 1 ≤ speed) (real : diff ≠ 0)
    (swift : ¬ lags) : Planned diff (fullSpeed speed diff) lags := by
  refine ⟨sign_fullSpeed fast real, ?_⟩
  have moves : fullSpeed speed diff / 256 ≠ 0 := by
    have size := natAbs_fullSpeed speed diff
    omega
  simp [moves, real, swift]

/-- An axis with nothing to cover. -/
theorem planned_zero (lags : Prop) : Planned 0 0 lags := ⟨rfl, by simp⟩

/-- What the plan of a leg is like: neither axis exceeds its speed, and each of them moves in its
direction or lags behind. -/
structure Plan (speedX speedY diffX diffY : Int) (velocity : Velocity) : Prop where
  x : Planned diffX velocity.x (Lags speedY diffX diffY)
  y : Planned diffY velocity.y (Lags speedX diffY diffX)
  xLt : velocity.x.natAbs < (speedX.natAbs + 1) * 65536
  yLe : velocity.y.natAbs ≤ speedY.natAbs * 65536

section Plan

variable {speedX speedY diffX diffY : Int}

/-- When the width sets the pace, the height stays below its speed. -/
theorem share_le_of_exceeds
    (exceeds : speedX.natAbs * 65536 < share speedY diffX diffY) :
    share speedX diffY diffX ≤ speedY.natAbs * 65536 := by
  have covered : share speedY diffX diffY * diffY.natAbs ≤ 65536 * (speedY.natAbs * diffX.natAbs) :=
    Nat.div_mul_le_self _ _
  have more := Nat.mul_le_mul_right diffY.natAbs (Nat.le_of_lt exceeds)
  refine Nat.div_le_of_le_mul ?_
  calc 65536 * (speedX.natAbs * diffY.natAbs) = speedX.natAbs * 65536 * diffY.natAbs := by ring
    _ ≤ share speedY diffX diffY * diffY.natAbs := more
    _ ≤ 65536 * (speedY.natAbs * diffX.natAbs) := covered
    _ = diffX.natAbs * (speedY.natAbs * 65536) := by ring

/-- When the height sets the pace, it does not lag behind. -/
theorem not_lags_of_share_lt (fastX : 1 ≤ speedX) (fastY : 1 ≤ speedY) (high : diffY ≠ 0)
    (within : share speedY diffX diffY < (speedX.natAbs + 1) * 65536) :
    ¬ Lags speedX diffY diffX := by
  rintro ⟨_, lags⟩
  rw [share, Nat.div_lt_iff_lt_mul (Int.natAbs_pos.mpr high)] at within
  have wider : diffX.natAbs ≤ speedY.natAbs * diffX.natAbs :=
    Nat.le_mul_of_pos_left _ (by omega)
  have narrower : (speedX.natAbs + 1) * 65536 * diffY.natAbs ≤
      65536 * (256 * (speedX.natAbs * diffY.natAbs)) := by
    have one : diffY.natAbs ≤ speedX.natAbs * diffY.natAbs := Nat.le_mul_of_pos_left _ (by omega)
    calc (speedX.natAbs + 1) * 65536 * diffY.natAbs
        = 65536 * (speedX.natAbs * diffY.natAbs + diffY.natAbs) := by ring
      _ ≤ 65536 * (256 * (speedX.natAbs * diffY.natAbs)) := Nat.mul_le_mul_left _ (by omega)
  omega

theorem natAbs_fullSpeed_mul_le {speed diff other : Int} (slow : speed.natAbs ≤ 255)
    (otherLe : other.natAbs ≤ 65535) :
    (fullSpeed speed diff * other).natAbs ≤ 65536 * 255 * 65535 := by
  rw [Int.natAbs_mul, natAbs_fullSpeed]
  exact Nat.mul_le_mul (Nat.mul_le_mul_left _ slow) otherLe

/-- A velocity whose whole pixels exceed a speed is greater than it. -/
theorem lt_of_exceeds {diff speed : Int} {size : Nat} (fast : 1 ≤ speed)
    (exceeds : ((diff.sign * size / unit).natAbs : Int) > speed) :
    speed.natAbs * 65536 < size := by
  unfold unit at exceeds
  rcases Int.lt_trichotomy diff 0 with negative | rfl | above
  · rw [Int.sign_eq_neg_one_of_neg negative] at exceeds
    omega
  · simp only [Int.sign_zero, Int.zero_mul] at exceeds
    omega
  · rw [Int.sign_eq_one_of_pos above] at exceeds
    omega

/-- A velocity whose whole pixels do not exceed a speed is at most a pixel greater. -/
theorem lt_of_within {diff speed : Int} {size : Nat} (real : diff ≠ 0)
    (within : ¬ ((diff.sign * size / unit).natAbs : Int) > speed) :
    size < (speed.natAbs + 1) * 65536 := by
  unfold unit at within
  rcases Int.lt_or_gt_of_ne real with negative | above
  · rw [Int.sign_eq_neg_one_of_neg negative] at within
    omega
  · rw [Int.sign_eq_one_of_pos above] at within
    omega

theorem natAbs_signed_le (diff : Int) (size : Nat) : (diff.sign * size).natAbs ≤ size := by
  rcases Int.lt_trichotomy diff 0 with negative | rfl | above
  · rw [Int.sign_eq_neg_one_of_neg negative]
    omega
  · simp
  · rw [Int.sign_eq_one_of_pos above]
    omega

/-- A level leg is walked at full speed, or at once when it is short. -/
theorem plan_gives_level (fastX : 1 ≤ speedX ∧ speedX ≤ 255) (fastY : 1 ≤ speedY ∧ speedY ≤ 255)
    (wide : diffX ≠ 0) (xLe : diffX.natAbs ≤ 65535) :
    (plan speedX speedY diffX 0).Gives Allowed (Plan speedX speedY diffX 0) := by
  have swift : ¬ Lags speedY diffX 0 := by
    rintro ⟨_, lags⟩
    exact absurd lags (Nat.not_lt_zero _)
  have sidewaysLe : (fullSpeed speedY 0 * diffX).natAbs ≤ 65536 * 255 * 65535 :=
    natAbs_fullSpeed_mul_le (by omega) xLe
  -- the width is covered as if the leg were one pixel high
  have sideways : fullSpeed speedY 0 * diffX = diffX.sign * share speedY diffX 1 := by
    have follows : (fullSpeed speedY 1 * diffX).tdiv 1 = _ :=
      fullSpeed_tdiv fastY.1 Int.one_ne_zero (by decide)
    rwa [Int.tdiv_one] at follows
  have slow : ¬ Lags speedY diffX 1 := by
    rintro ⟨_, lags⟩
    have positive : 1 ≤ speedY.natAbs * diffX.natAbs := Nat.mul_pos (by omega) (by omega)
    omega
  simp only [plan, fullSpeed_eq, if_true, if_neg wide, Checked.gives_bind, Checked.gives_ite,
    Checked.gives_pure]
  rw [gives_mul64 (by omega), sideways]
  split
  · rw [gives_mul64 (by omega), gives_div64 wide (by omega), Int.mul_zero, Int.zero_tdiv]
    refine ⟨planned_fullSpeed fastX.1 wide swift, planned_zero _, ?_, Nat.zero_le _⟩
    rw [natAbs_fullSpeed]
    omega
  next within =>
    have follows : Planned diffX _ (Lags speedY diffX 1) :=
      planned_follows fastY.1 Int.one_ne_zero (by decide)
    refine ⟨⟨follows.sign, ?_⟩, planned_zero _, ?_, Nat.zero_le _⟩
    · rw [follows.moves]
      simp [swift, slow]
    · exact Nat.lt_of_le_of_lt (natAbs_signed_le _ _) (lt_of_within wide within)

/-- A leg with a height is walked at the vertical speed, or at the horizontal one when that would
be exceeded. -/
theorem plan_gives_high (fastX : 1 ≤ speedX ∧ speedX ≤ 255) (fastY : 1 ≤ speedY ∧ speedY ≤ 255)
    (high : diffY ≠ 0) (xLe : diffX.natAbs ≤ 65535) (yLe : diffY.natAbs ≤ 65535) :
    (plan speedX speedY diffX diffY).Gives Allowed (Plan speedX speedY diffX diffY) := by
  have sidewaysLe : (fullSpeed speedY diffY * diffX).natAbs ≤ 65536 * 255 * 65535 :=
    natAbs_fullSpeed_mul_le (by omega) xLe
  have upwardLe : (fullSpeed speedX diffX * diffY).natAbs ≤ 65536 * 255 * 65535 :=
    natAbs_fullSpeed_mul_le (by omega) yLe
  simp only [plan, fullSpeed_eq, if_neg high, Checked.gives_bind, Checked.gives_ite,
    Checked.gives_pure]
  rw [gives_mul64 (by omega), gives_div64 high (by omega), fullSpeed_tdiv fastY.1 high yLe]
  split
  next exceeds =>
    have faster := lt_of_exceeds fastX.1 exceeds
    have wide : diffX ≠ 0 := by
      rintro rfl
      simp [share] at faster
    rw [gives_mul64 (by omega), if_neg wide, gives_div64 wide (by omega),
      fullSpeed_tdiv fastX.1 wide xLe]
    have swift : ¬ Lags speedY diffX diffY := by
      rintro ⟨_, lags⟩
      have slow := (share_lt_iff high).mpr lags
      omega
    refine ⟨planned_fullSpeed fastX.1 wide swift, planned_follows fastX.1 wide xLe, ?_, ?_⟩
    · rw [natAbs_fullSpeed]
      omega
    · exact Nat.le_trans (natAbs_signed_le _ _) (share_le_of_exceeds faster)
  next within =>
    have less : share speedY diffX diffY < (speedX.natAbs + 1) * 65536 := by
      by_cases level : diffX = 0
      · simp [level, share]
      · exact lt_of_within level within
    have swift := not_lags_of_share_lt fastX.1 fastY.1 high less
    refine ⟨planned_follows fastY.1 high yLe, planned_fullSpeed fastY.1 high swift, ?_, ?_⟩
    · exact Nat.lt_of_le_of_lt (natAbs_signed_le _ _) less
    · rw [natAbs_fullSpeed, Nat.mul_comm]

/-- **A planned leg exceeds no speed, and its axes move in their directions** or lag behind. -/
theorem plan_gives (fastX : 1 ≤ speedX ∧ speedX ≤ 255) (fastY : 1 ≤ speedY ∧ speedY ≤ 255)
    (xLe : diffX.natAbs ≤ 65535) (yLe : diffY.natAbs ≤ 65535) (away : diffX ≠ 0 ∨ diffY ≠ 0) :
    (plan speedX speedY diffX diffY).Gives Allowed (Plan speedX speedY diffX diffY) := by
  by_cases high : diffY = 0
  · subst high
    exact plan_gives_level fastX fastY (by omega) xLe
  · exact plan_gives_high fastX fastY high xLe yLe

end Plan

/-! ## One axis of a step -/

/-- An axis of a leg on the way: it lies between the leg's ends, and its velocity leads from the
start to the end. -/
structure Axis (start stop delta pos : Int) : Prop where
  startFits : Fits16 start
  stopFits : Fits16 stop
  sign : delta.sign = (stop - start).sign
  slow : delta.natAbs ≤ 16777216
  between : start ≤ pos ∧ pos ≤ stop ∨ stop ≤ pos ∧ pos ≤ start

/-- How many units an axis has ahead of it until its pixel is the last one. -/
def ahead (start stop pos : Int) (frac : UInt16) : Nat :=
  if pos = stop then 0
  else if start ≤ stop then (stop * 65536 - (pos * 65536 + frac.toNat)).toNat
  else (pos * 65536 + frac.toNat - (stop * 65536 + 65535)).toNat

/-- What a step along one axis does: it brings the axis closer to its end, unless the velocity is
less than a unit of the step. -/
structure Strides (start stop delta pos : Int) (frac : UInt16) (moved : Int) (left : UInt16) :
    Prop where
  closer : delta / 256 ≠ 0 ∨ start = stop →
    ahead start stop moved left ≤ ahead start stop pos frac - 1
  still : delta / 256 = 0 → moved = pos

section Axis

variable {start stop delta pos scale : Int} {frac : UInt16}

/-- A step is the velocity's units times the scale. -/
theorem stride_eq (posFits : Fits16 pos) (small : (delta / 256 * scale).natAbs ≤ 16711680) :
    (stride pos frac delta scale).2 * 65536 + (stride pos frac delta scale).1.toNat =
      pos * 65536 + frac.toNat + delta / 256 * scale := by
  have fraction := frac.toNat_lt
  simp only [stride, unit]
  generalize delta / 256 * scale = units at small
  rw [wrap32_eq (by omega), UInt16.toNat_ofNat']
  omega

theorem hold_gives {length moved : Int} {Holds : Int → Prop} (startFits : Fits16 start)
    (near : moved.natAbs ≤ 65536) :
    (hold start stop length moved).Gives Allowed Holds ↔
      Holds (if length < (moved - start).natAbs then stop else moved) := by
  simp only [hold, covered, Checked.gives_bind, Checked.gives_pure]
  rw [gives_sub32 (by omega), gives_abs32 (by omega)]

theorem natAbs_units_le (slow : delta.natAbs ≤ 16777216) (scaled : scale.natAbs ≤ 255) :
    (delta / 256 * scale).natAbs ≤ 16711680 := by
  rw [Int.natAbs_mul]
  exact Nat.mul_le_mul (by omega : (delta / 256).natAbs ≤ 65536) scaled

/-- The units of a step have the sign of the velocity's units. -/
theorem units_bounds (slow : delta.natAbs ≤ 16777216) (scaled : 1 ≤ scale ∧ scale ≤ 255) :
    (delta / 256 * scale).natAbs ≤ 16711680 ∧ (delta / 256 = 0 → delta / 256 * scale = 0) ∧
      (0 < delta / 256 → 0 < delta / 256 * scale) ∧
      (delta / 256 < 0 → delta / 256 * scale < 0) := by
  have scalePos : 0 < scale := by omega
  refine ⟨natAbs_units_le slow (by omega), fun zero => ?_, fun above => Int.mul_pos above scalePos,
    fun below => Int.mul_neg_of_neg_of_pos below scalePos⟩
  rw [zero, Int.zero_mul]

/-- The velocity of an axis leads from its start to its end. -/
theorem Axis.direction (axis : Axis start stop delta pos) :
    (start < stop → 0 < delta) ∧ (start = stop → delta = 0) ∧ (stop < start → delta < 0) := by
  have sign := axis.sign
  refine ⟨fun forward => ?_, fun same => ?_, fun backward => ?_⟩
  · rw [Int.sign_eq_one_of_pos (by omega : 0 < stop - start)] at sign
    exact Int.sign_eq_one_iff_pos.mp sign
  · rw [same, Int.sub_self] at sign
    exact Int.sign_eq_zero_iff_zero.mp sign
  · rw [Int.sign_eq_neg_one_of_neg (by omega : stop - start < 0)] at sign
    exact Int.sign_eq_neg_one_iff_neg.mp sign

/-- **A step along one axis stays between the leg's ends** and comes closer to the last one,
unless the velocity is less than a unit of the step. -/
theorem hold_stride_gives (axis : Axis start stop delta pos) (scaled : 1 ≤ scale ∧ scale ≤ 255) :
    (hold start stop (stop - start).natAbs (stride pos frac delta scale).2).Gives Allowed
      fun moved => Axis start stop delta moved ∧
        Strides start stop delta pos frac moved (stride pos frac delta scale).1 := by
  obtain ⟨forward, same, backward⟩ := axis.direction
  obtain ⟨startFits, stopFits, sign, slow, between⟩ := axis
  obtain ⟨small, zero, above, below⟩ := units_bounds slow scaled
  have total : _ = pos * 65536 + (frac.toNat : Int) + _ := stride_eq (by omega) small
  generalize delta / 256 * scale = units at *
  generalize (stride pos frac delta scale).1 = left at *
  generalize (stride pos frac delta scale).2 = reached at *
  have fraction := frac.toNat_lt
  have rest := left.toNat_lt
  rw [hold_gives startFits (by omega)]
  -- an axis only moves toward its end
  have onward : (start < stop → pos ≤ reached) ∧ (start = stop → reached = pos) ∧
      (stop < start → reached ≤ pos) := by omega
  split
  next beyond =>
    refine ⟨⟨startFits, stopFits, sign, slow, by omega⟩, fun _ => ?_, fun idle => by omega⟩
    rw [ahead, if_pos rfl]
    exact Nat.zero_le _
  next within =>
    refine ⟨⟨startFits, stopFits, sign, slow, by omega⟩, fun moves => ?_, fun idle => by omega⟩
    unfold ahead
    repeat' split
    all_goals omega

end Axis

end Adventure.Leg
