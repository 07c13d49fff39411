import Adventure.Proofs.Data.Checked
import Adventure.Room.Basic
import Mathlib.Tactic.Linarith
import Mathlib.Tactic.Ring

/-!
# Faults of geometry

Whether a box holds a point, and how an actor is scaled there, is computed in words.  None of
these computations searches for anything, so they never use up a bound.  And as long as all
corners and points fit words of 16 bits, as room data stores them, no result leaves its word.
The one delicate place is the foot of a perpendicular: it is a quotient of a product that
could grow beyond all words, did its factors not cancel (`foot_product_le`).
-/

set_option autoImplicit false

namespace Adventure

variable {Allowed : Fault → Prop}

open Word

/-! ## Computations that search nothing -/

theorem Segment.closest_prompt (start stop p : Point) : (Segment.closest start stop p).Prompt := by
  simp [Segment.closest, Segment.foot, Segment.footWide, Segment.footHigh]

theorem Outline.contains_prompt (outline : Outline) (p : Point) : (outline.contains p).Prompt := by
  simp [Outline.contains, Outline.nearLine, Outline.insideEdges, Point.distSq, Point.innerSide,
    Segment.closest_prompt, Checked.andThen]

theorem ScaleRamp.scaleAt_prompt (ramp : ScaleRamp) (x y : Int) : (ramp.scaleAt x y).Prompt := by
  simp [ScaleRamp.scaleAt, ScaleRamp.along]

@[simp] theorem Room.pointInBox_prompt (room : Room) (p : Point) (id : Option BoxId) :
    (room.pointInBox p id).Prompt := by
  unfold Room.pointInBox
  split
  · exact Outline.contains_prompt _ p
  · trivial

theorem Room.boxScale_prompt (room : Room) (id : Option BoxId) (p : Point) :
    (room.boxScale id p).Prompt := by
  unfold Room.boxScale
  repeat' split
  all_goals first | trivial | exact ScaleRamp.scaleAt_prompt _ _ _

/-! ## Words of 16 bits -/

/-- Both coordinates fit a word of 16 bits. -/
def Point.Narrow (p : Point) : Prop := Fits16 p.x ∧ Fits16 p.y

namespace Segment

/-! ## The foot of a perpendicular -/

/-- The product of which the foot is a quotient, in absolute values: the larger parts of the
sum are quotients themselves, so that they and the factors cancel. -/
theorem foot_product_le {a b s t p q long short : Nat} (sFits : s ≤ 32768) (tFits : t ≤ 32768)
    (pFits : p ≤ 32768) (qFits : q ≤ 32768) (first : a * long ≤ s * short)
    (second : b * short ≤ p * long) :
    (a + b + t + q) * (long * short) ≤ 65536 * (long * long + short * short) := by
  have ofA : a * (long * short) ≤ 32768 * (short * short) :=
    calc a * (long * short) = a * long * short := by ring
      _ ≤ s * short * short := Nat.mul_le_mul_right _ first
      _ = s * (short * short) := by ring
      _ ≤ 32768 * (short * short) := Nat.mul_le_mul_right _ sFits
  have ofB : b * (long * short) ≤ 32768 * (long * long) :=
    calc b * (long * short) = b * short * long := by ring
      _ ≤ p * long * long := Nat.mul_le_mul_right _ second
      _ = p * (long * long) := by ring
      _ ≤ 32768 * (long * long) := Nat.mul_le_mul_right _ pFits
  have ofRest : (t + q) * (long * short) ≤ 32768 * (2 * (long * short)) :=
    calc (t + q) * (long * short) ≤ 65536 * (long * short) :=
          Nat.mul_le_mul_right _ (by omega)
      _ = 32768 * (2 * (long * short)) := by ring
  have squares : 2 * (long * short) ≤ long * long + short * short := by
    nlinarith [sq_nonneg ((long : Int) - short)]
  calc (a + b + t + q) * (long * short)
      = a * (long * short) + b * (long * short) + (t + q) * (long * short) := by ring
    _ ≤ 65536 * (long * long + short * short) := by omega

/-- A quotient by the longer side of a multiple of the shorter one is no larger than the factor. -/
theorem natAbs_tdiv_le (factor : Int) {long short : Int} (longer : short.natAbs ≤ long.natAbs) :
    ((factor * short).tdiv long).natAbs ≤ factor.natAbs := by
  rw [Int.natAbs_tdiv, Int.natAbs_mul]
  exact Nat.div_le_of_le_mul (by rw [Nat.mul_comm]; exact Nat.mul_le_mul_right _ longer)

theorem natAbs_sum_of_squares (long short : Int) : (long * long + short * short).natAbs =
    long.natAbs * long.natAbs + short.natAbs * short.natAbs := by
  have same : long * long + short * short =
      ((long.natAbs * long.natAbs + short.natAbs * short.natAbs : Nat) : Int) := by
    rw [Nat.cast_add, Int.natAbs_mul_self, Int.natAbs_mul_self]
  rw [same, Int.natAbs_natCast]

/-- What keeps the foot of a perpendicular in its words.  The segment runs `long` along its
longer axis and `short` along the other one; `a`, `b` and the foot `c` are the quotients that
come up. -/
structure FootBounds (across long short q a b c : Int) : Prop where
  first : a.natAbs ≤ 32768
  second : b.natAbs ≤ 2147450880
  product : ((a + b - across + q) * (long * short)).natAbs ≤ 562932773683200
  foot : c.natAbs ≤ 65536

theorem foot_bounds {along across long short p q : Int} (alongFits : Fits16 along)
    (acrossFits : Fits16 across) (pFits : Fits16 p) (qFits : Fits16 q)
    (longer : short.natAbs ≤ long.natAbs) (bounded : long.natAbs ≤ 65535) :
    FootBounds across long short q ((along * short).tdiv long) ((p * long).tdiv short)
      ((((along * short).tdiv long + (p * long).tdiv short - across + q) * (long * short)).tdiv
        (long * long + short * short)) := by
  have first := natAbs_tdiv_le along longer
  have aProduct : ((along * short).tdiv long).natAbs * long.natAbs ≤
      along.natAbs * short.natAbs := by
    rw [Int.natAbs_tdiv, Int.natAbs_mul]
    exact Nat.div_mul_le_self _ _
  have bProduct : ((p * long).tdiv short).natAbs * short.natAbs ≤ p.natAbs * long.natAbs := by
    rw [Int.natAbs_tdiv, Int.natAbs_mul]
    exact Nat.div_mul_le_self _ _
  have second : ((p * long).tdiv short).natAbs ≤ 32768 * 65535 := by
    refine Nat.le_trans (Int.natAbs_tdiv_le_natAbs _ _) ?_
    rw [Int.natAbs_mul]
    exact Nat.mul_le_mul (by omega) bounded
  generalize (along * short).tdiv long = a at *
  generalize (p * long).tdiv short = b at *
  have product : ((a + b - across + q) * (long * short)).natAbs ≤
      65536 * (long * long + short * short).natAbs := by
    have sum : (a + b - across + q).natAbs ≤ a.natAbs + b.natAbs + across.natAbs + q.natAbs := by
      omega
    have le := foot_product_le (by omega : along.natAbs ≤ 32768) (by omega : across.natAbs ≤ 32768)
      (by omega : p.natAbs ≤ 32768) (by omega : q.natAbs ≤ 32768) aProduct bProduct
    rw [Int.natAbs_mul, Int.natAbs_mul, natAbs_sum_of_squares]
    exact Nat.le_trans (Nat.mul_le_mul_right _ sum) le
  have squares : (long * long + short * short).natAbs ≤ 2 * (65535 * 65535) := by
    rw [natAbs_sum_of_squares]
    have longSquare := Nat.mul_le_mul bounded bounded
    have shortSquare := Nat.mul_le_mul (Nat.le_trans longer bounded) (Nat.le_trans longer bounded)
    omega
  refine ⟨by omega, by omega, by omega, ?_⟩
  rw [Int.natAbs_tdiv]
  exact Nat.div_le_of_le_mul (by rw [Nat.mul_comm]; exact product)

theorem natAbs_mul_le {a b : Int} {m n : Nat} (aLe : a.natAbs ≤ m) (bLe : b.natAbs ≤ n) :
    (a * b).natAbs ≤ m * n := by
  rw [Int.natAbs_mul]
  exact Nat.mul_le_mul aLe bLe

theorem sum_of_squares_ne_zero {long : Int} (real : long ≠ 0) (short : Int) :
    long * long + short * short ≠ 0 := by
  have longSquare := mul_self_pos.mpr real
  have shortSquare := mul_self_nonneg short
  omega

/-- The foot on a slanted segment, along its longer axis and across it; the products by `one` and
by `other` are taken in this order. -/
def footOn (along across long short one other dist p q : Int) : Checked (Int × Int) := do
  let a ← div64 (← mul64 along short) long
  let b ← div64 (← mul64 p long) short
  let total ← add64 (← sub64 (← add64 a b) across) q
  let c ← div64 (← mul64 (← mul64 total one) other) dist
  let rest ← div64 (← mul64 c short) long
  let beside ← add64 (← sub64 rest a) across
  pure (c, beside)

theorem gives_footWide {start p : Point} {dx dy dist : Int} {Holds : Point → Prop} :
    (footWide start dx dy dist p).Gives Allowed Holds ↔
      (footOn start.x start.y dx dy dy dx dist p.x p.y).Gives Allowed fun foot =>
        Holds ⟨wrap32 foot.1, wrap32 foot.2⟩ := by
  simp only [footWide, footOn, Checked.gives_bind, Checked.gives_pure]

theorem gives_footHigh {start p : Point} {dx dy dist : Int} {Holds : Point → Prop} :
    (footHigh start dx dy dist p).Gives Allowed Holds ↔
      (footOn start.y start.x dy dx dy dx dist p.y p.x).Gives Allowed fun foot =>
        Holds ⟨wrap32 foot.2, wrap32 foot.1⟩ := by
  simp only [footHigh, footOn, Checked.gives_bind, Checked.gives_pure]

theorem beside_fits {rest a across : Int} (restLe : rest.natAbs ≤ 65536) (aLe : a.natAbs ≤ 32768)
    (acrossFits : Fits16 across) :
    Fits64 (rest - a) ∧ Fits64 (rest - a + across) ∧ (rest - a + across).natAbs ≤ 131072 := by
  omega

/-- Where a line lies across its longer axis when it has come to `c` along it. -/
def lineAt (along across long short c : Int) : Int :=
  (c * short).tdiv long - (along * short).tdiv long + across

/-- Where the foot of the perpendicular from a point lies along the longer axis. -/
def dropAt (along across long short p q : Int) : Int :=
  (((along * short).tdiv long + (p * long).tdiv short - across + q) * (long * short)).tdiv
    (long * long + short * short)

/-- **The foot on a slanted segment is not far from it**, and no step on the way leaves its
word. -/
theorem footOn_gives {along across long short one other p q : Int} (alongFits : Fits16 along)
    (acrossFits : Fits16 across) (pFits : Fits16 p) (qFits : Fits16 q) (slanted : short ≠ 0)
    (longer : short.natAbs ≤ long.natAbs) (bounded : long.natAbs ≤ 65535)
    (oneLe : one.natAbs ≤ 65535) (order : one * other = long * short) :
    (footOn along across long short one other (long * long + short * short) p q).Gives Allowed
      fun foot => foot = (dropAt along across long short p q,
          lineAt along across long short (dropAt along across long short p q)) ∧
        foot.1.natAbs ≤ 131072 ∧ foot.2.natAbs ≤ 131072 := by
  have real : long ≠ 0 := by omega
  have shortLe : short.natAbs ≤ 65535 := by omega
  have first := natAbs_mul_le (by omega : along.natAbs ≤ 32768) shortLe
  have second := natAbs_mul_le (by omega : p.natAbs ≤ 32768) bounded
  have bounds := foot_bounds alongFits acrossFits pFits qFits longer bounded
  simp only [footOn, dropAt, lineAt, Checked.gives_bind, Checked.gives_pure]
  rw [gives_mul64 (by omega), gives_div64 real (by omega), gives_mul64 (by omega),
    gives_div64 slanted (by omega)]
  generalize (along * short).tdiv long = a at *
  generalize (p * long).tdiv short = b at *
  obtain ⟨aLe, bLe, product, footLe⟩ := bounds
  rw [gives_add64 (by omega), gives_sub64 (by omega), gives_add64 (by omega)]
  have totalLe : (a + b - across + q).natAbs ≤ 2147549184 := by omega
  generalize a + b - across + q = total at *
  have third := natAbs_mul_le totalLe oneLe
  rw [← order, ← Int.mul_assoc] at product footLe ⊢
  rw [gives_mul64 (by omega), gives_mul64 (by omega),
    gives_div64 (sum_of_squares_ne_zero real short) (by omega)]
  generalize (total * one * other).tdiv _ = c at *
  have fourth := natAbs_mul_le footLe shortLe
  have rest := natAbs_tdiv_le c longer
  obtain ⟨less, sum, besideLe⟩ := beside_fits (Nat.le_trans rest footLe) aLe acrossFits
  rw [gives_mul64 (by omega), gives_div64 real (by omega), gives_sub64 less, gives_add64 sum]
  exact ⟨rfl, Nat.le_trans footLe (by decide), besideLe⟩

/-- The foot of the perpendicular to a whole line, in whole numbers of any size. -/
def plainFoot (start : Point) (dx dy : Int) (p : Point) : Point :=
  if dx = 0 then ⟨start.x, p.y⟩
  else if dy = 0 then ⟨p.x, start.y⟩
  else if dx.natAbs > dy.natAbs then
    let c := dropAt start.x start.y dx dy p.x p.y
    ⟨c, lineAt start.x start.y dx dy c⟩
  else
    let c := dropAt start.y start.x dy dx p.y p.x
    ⟨lineAt start.y start.x dy dx c, c⟩

theorem foot_gives {start p : Point} {dx dy : Int} (startFits : start.Narrow) (pFits : p.Narrow)
    (dxLe : dx.natAbs ≤ 65535) (dyLe : dy.natAbs ≤ 65535) :
    (foot start dx dy p).Gives Allowed fun q =>
      q = plainFoot start dx dy p ∧ q.x.natAbs ≤ 131072 ∧ q.y.natAbs ≤ 131072 := by
  obtain ⟨sx, sy⟩ := startFits
  obtain ⟨px, py⟩ := pFits
  unfold foot plainFoot
  split
  · simp only [Checked.gives_pure, true_and]
    omega
  next upright =>
    split
    · simp only [Checked.gives_pure, true_and]
      omega
    next slanted =>
      have squares : (dx * dx + dy * dy).natAbs ≤ 2 * (65535 * 65535) := by
        have xSquare := natAbs_mul_le dxLe dxLe
        have ySquare := natAbs_mul_le dyLe dyLe
        omega
      rw [Checked.gives_bind, gives_add64 (by omega)]
      split
      next wide =>
        rw [gives_footWide]
        refine (footOn_gives sx sy px py slanted (by omega) dxLe dyLe
          (Int.mul_comm dy dx)).mono ?_
        rintro _ ⟨rfl, xLe, yLe⟩
        rw [wrap32_eq (by omega), wrap32_eq (by omega)]
        exact ⟨rfl, xLe, yLe⟩
      next high =>
        rw [gives_footHigh, Int.add_comm]
        refine (footOn_gives sy sx py px upright (by omega) dyLe dyLe rfl).mono ?_
        rintro _ ⟨rfl, yLe, xLe⟩
        rw [wrap32_eq (by omega), wrap32_eq (by omega)]
        exact ⟨rfl, xLe, yLe⟩

/-- The projection of a point onto a segment, in whole numbers of any size. -/
def projection (start stop p : Point) : Point :=
  let dx := stop.x - start.x
  let dy := stop.y - start.y
  let foot := plainFoot start dx dy p
  if dy.natAbs < dx.natAbs then holdBetween Point.x (decide (dx > 0)) start stop foot
  else holdBetween Point.y (decide (dy > 0)) start stop foot

theorem projection_wide {start stop p : Point}
    (wide : (stop.y - start.y).natAbs < (stop.x - start.x).natAbs) : projection start stop p =
      holdBetween Point.x (decide (stop.x - start.x > 0)) start stop
        (plainFoot start (stop.x - start.x) (stop.y - start.y) p) := if_pos wide

theorem projection_high {start stop p : Point}
    (high : ¬ (stop.y - start.y).natAbs < (stop.x - start.x).natAbs) : projection start stop p =
      holdBetween Point.y (decide (stop.y - start.y > 0)) start stop
        (plainFoot start (stop.x - start.x) (stop.y - start.y) p) := if_neg high

/-- **The projection in words is the projection in whole numbers.** -/
theorem closest_gives {start stop p : Point} (startFits : start.Narrow) (stopFits : stop.Narrow)
    (pFits : p.Narrow) :
    (closest start stop p).Gives Allowed fun q =>
      q = projection start stop p ∧ q.x.natAbs ≤ 131072 ∧ q.y.natAbs ≤ 131072 := by
  obtain ⟨sx, sy⟩ := startFits
  obtain ⟨tx, ty⟩ := stopFits
  simp only [closest, Checked.gives_bind, Checked.gives_ite, Checked.gives_pure]
  rw [gives_sub32 (by omega), gives_sub32 (by omega)]
  refine (foot_gives ⟨sx, sy⟩ pFits (by omega) (by omega)).mono ?_
  rintro _ ⟨rfl, footLe⟩
  have held : ∀ along forward,
      let held := holdBetween along forward start stop
        (plainFoot start (stop.x - start.x) (stop.y - start.y) p)
      held.x.natAbs ≤ 131072 ∧ held.y.natAbs ≤ 131072 := by
    intro along forward
    have ofStart : start.x.natAbs ≤ 131072 ∧ start.y.natAbs ≤ 131072 := by omega
    have ofStop : stop.x.natAbs ≤ 131072 ∧ stop.y.natAbs ≤ 131072 := by omega
    unfold holdBetween
    repeat' split
    all_goals assumption
  split
  next wide => exact ⟨(projection_wide wide).symm, held _ _⟩
  next high => exact ⟨(projection_high high).symm, held _ _⟩

end Segment

/-! ## Outlines -/

theorem Point.innerSide_gives {start stop p : Point} (startFits : start.Narrow)
    (stopFits : stop.Narrow) (pFits : p.Narrow) :
    (innerSide start stop p).Gives Allowed fun _ => True := by
  obtain ⟨sx, sy⟩ := startFits
  obtain ⟨tx, ty⟩ := stopFits
  obtain ⟨px, py⟩ := pFits
  simp only [innerSide, Checked.gives_bind, Checked.gives_pure]
  rw [gives_sub32 (by omega), gives_sub32 (by omega), gives_sub32 (by omega),
    gives_sub32 (by omega)]
  trivial

theorem Checked.andThen_gives {first second : Checked Bool}
    (one : first.Gives Allowed fun _ => True) (two : second.Gives Allowed fun _ => True) :
    (first.andThen second).Gives Allowed fun _ => True := by
  simp only [andThen, gives_bind, gives_ite, gives_pure]
  refine one.mono fun value _ => ?_
  split
  · exact two
  · trivial

namespace Outline

/-- All corners fit words of 16 bits. -/
structure Narrow (outline : Outline) : Prop where
  ul : outline.ul.Narrow
  ur : outline.ur.Narrow
  lr : outline.lr.Narrow
  ll : outline.ll.Narrow

variable {outline : Outline} {p : Point}

theorem nearLine_gives (fits : outline.Narrow) (pFits : p.Narrow) :
    (outline.nearLine p).Gives Allowed fun _ => True := by
  simp only [nearLine, Checked.gives_bind, Checked.gives_pure]
  refine (Segment.closest_gives fits.ul fits.lr pFits).mono ?_
  rintro q ⟨-, qLe⟩
  obtain ⟨px, py⟩ := pFits
  simp only [Point.distSq, Checked.gives_bind, Checked.gives_pure]
  rw [gives_sub32 (by omega), gives_sub32 (by omega)]
  trivial

/-- **Whether an outline holds a point is found without a fault** when all coordinates fit words
of 16 bits. -/
theorem contains_gives (fits : outline.Narrow) (pFits : p.Narrow) :
    (outline.contains p).Gives Allowed fun _ => True := by
  have inside : (outline.insideEdges p).Gives Allowed fun _ => True :=
    Checked.andThen_gives (Point.innerSide_gives fits.ul fits.ur pFits) <|
      Checked.andThen_gives (Point.innerSide_gives fits.ur fits.lr pFits) <|
        Checked.andThen_gives (Point.innerSide_gives fits.lr fits.ll pFits)
          (Point.innerSide_gives fits.ll fits.ul pFits)
  simp only [contains, Checked.gives_ite, Checked.gives_bind, Checked.gives_pure]
  split
  · trivial
  · split
    · refine (nearLine_gives fits pFits).mono fun onLine _ => ?_
      split
      · trivial
      · exact inside
    · exact inside

end Outline

/-! ## Scales -/

namespace ScaleRamp

/-- The range of the words in which ramps are stored, signed or not. -/
abbrev InRange (z : Int) : Prop := -32768 ≤ z ∧ z ≤ 65535

/-- All values of a ramp are in range. -/
structure Narrow (ramp : ScaleRamp) : Prop where
  x1 : InRange ramp.x1
  y1 : InRange ramp.y1
  scale1 : InRange ramp.scale1
  x2 : InRange ramp.x2
  y2 : InRange ramp.y2
  scale2 : InRange ramp.scale2

/-- The ramp along one axis, in whole numbers of any size. -/
def plainAlong (scale1 scale2 start stop position : Int) : Int :=
  ((scale2 - scale1) * (position - start)).tdiv (stop - start) + scale1

theorem along_gives {scale1 scale2 start stop position : Int} (fits1 : InRange scale1)
    (fits2 : InRange scale2) (startFits : InRange start) (stopFits : InRange stop)
    (long : start ≠ stop) (positionFits : Fits32 position) :
    (along scale1 scale2 start stop position).Gives Allowed fun scale =>
      scale = plainAlong scale1 scale2 start stop position ∧ scale.natAbs ≤ 300000000000000 := by
  have product := Segment.natAbs_mul_le (by omega : (scale2 - scale1).natAbs ≤ 98303)
    (by omega : (position - start).natAbs ≤ 2147549183)
  simp only [along, Checked.gives_bind]
  rw [gives_sub32 (by omega), gives_sub64 (by omega), gives_sub32 (by omega),
    gives_mul64 (by omega), gives_div64 (by omega) (by omega)]
  have smaller := Int.natAbs_tdiv_le_natAbs ((scale2 - scale1) * (position - start)) (stop - start)
  rw [gives_add64 (by omega)]
  exact ⟨rfl, by omega⟩

theorem toNat_clampByte (z : Int) : ((clampByte z).toNat : Int) = max 1 (min z 255) := by
  have small : (max 1 (min z 255)).toNat < 2 ^ 8 := by omega
  rw [clampByte, UInt8.toNat_ofNat_of_lt' small]
  omega

theorem one_le_clampByte (z : Int) : 1 ≤ clampByte z := by
  have value := toNat_clampByte z
  rw [UInt8.le_iff_toNat_le]
  change 1 ≤ _
  omega

/-- A scale is found without a fault as long as the ramp is in range, and it is never zero. -/
theorem scaleAt_gives {ramp : ScaleRamp} {x y : Int} (fits : ramp.Narrow) (xFits : Fits32 x)
    (yFits : Fits32 y) : (ramp.scaleAt x y).Gives Allowed fun scale => 1 ≤ scale := by
  have byHeight : ramp.y1 ≠ ramp.y2 →
      (along ramp.scale1 ramp.scale2 ramp.y1 ramp.y2 (max y 0)).Gives Allowed fun scale =>
        scale.natAbs ≤ 300000000000000 :=
    fun high => (along_gives fits.scale1 fits.scale2 fits.y1 fits.y2 high (by omega)).mono
      fun _ bounded => bounded.2
  have byWidth : ramp.x1 ≠ ramp.x2 →
      (along ramp.scale1 ramp.scale2 ramp.x1 ramp.x2 x).Gives Allowed fun scale =>
        scale.natAbs ≤ 300000000000000 :=
    fun wide => (along_gives fits.scale1 fits.scale2 fits.x1 fits.x2 wide xFits).mono
      fun _ bounded => bounded.2
  unfold scaleAt
  split
  · exact (by decide : (1 : UInt8) ≤ 255)
  · simp only [Checked.gives_bind, Checked.gives_ite, Checked.gives_pure]
    split
    · split
      · exact one_le_clampByte _
      next wide => exact (byWidth wide).mono fun _ _ => one_le_clampByte _
    next high =>
      refine (byHeight high).mono fun height heightLe => ?_
      split
      · exact one_le_clampByte _
      next wide =>
        refine (byWidth wide).mono fun width widthLe => ?_
        rw [gives_add64 (by omega)]
        exact one_le_clampByte _

end ScaleRamp

/-! ## Rooms -/

namespace Room

/-- The corners of all boxes fit words of 16 bits, and the ramps are in range. -/
structure Narrow (room : Room) : Prop where
  boxes : ∀ box ∈ room.boxes, box.outline.Narrow
  ramps : ∀ ramp ∈ room.ramps.cells, ramp.Narrow

variable {room : Room} {p : Point} {id : Option BoxId}

theorem mem_of_box? {box : WalkBox} (found : room.box? id = some box) : box ∈ room.boxes := by
  cases id with
  | none => cases found
  | some id => exact List.mem_of_getElem? found

theorem pointInBox_gives (fits : room.Narrow) (pFits : p.Narrow) :
    (room.pointInBox p id).Gives Allowed fun _ => True := by
  unfold pointInBox outline?
  cases found : room.box? id with
  | none => trivial
  | some box => exact Outline.contains_gives (fits.boxes box (mem_of_box? found)) pFits

/-- **The scale at any place of any box is found without a fault and is never zero**, as long as all
ramps are in range. -/
theorem boxScale_positive (ramps : ∀ ramp ∈ room.ramps.cells, ramp.Narrow) (xFits : Fits32 p.x)
    (yFits : Fits32 p.y) : (room.boxScale id p).Gives Allowed fun scale => 1 ≤ scale := by
  unfold boxScale
  split
  · exact (by decide : (1 : UInt8) ≤ 255)
  · split
    · exact ScaleRamp.one_le_clampByte _
    · next slot _ =>
      split
      next ramp found =>
        refine ScaleRamp.scaleAt_gives (ramps ramp ?_) xFits yFits
        unfold ramp? at found
        split at found
        · exact List.mem_of_getElem? found
        · cases found
      next => exact (by decide : (1 : UInt8) ≤ 255)

theorem boxScale_gives (fits : room.Narrow) (pFits : p.Narrow) :
    (room.boxScale id p).Gives Allowed fun _ => True := by
  obtain ⟨px, py⟩ := pFits
  exact (boxScale_positive fits.ramps (by omega) (by omega)).mono fun _ _ => trivial

end Room

end Adventure
