import Adventure.Proofs.Geometry.Nearest
import Mathlib.Tactic.LinearCombination

/-!
# Projecting a projected point again

The foot of a perpendicular is computed with quotients that round toward zero, so the foot that
is dropped from a foot need not be the same pixel.  The two roundings of the second computation
take away less than one pixel together (`refoot_beside`), because twice the product of the sides
of a segment is at most the sum of their squares.  So the second foot is at most one pixel off
along either axis.  On a segment that runs along an axis or along a diagonal nothing is rounded,
and it is the same pixel.
-/

set_option autoImplicit false

namespace Adventure

variable {Allowed : Fault → Prop}

open Word

/-- Two numbers that are at most one apart. -/
abbrev Beside (a b : Int) : Prop := a - b ≤ 1 ∧ b - a ≤ 1

/-- Two points that are at most one pixel apart along either axis. -/
structure Point.Beside (p q : Point) : Prop where
  x : Adventure.Beside p.x q.x
  y : Adventure.Beside p.y q.y

theorem Point.Beside.refl (p : Point) : p.Beside p :=
  ⟨⟨by omega, by omega⟩, ⟨by omega, by omega⟩⟩

/-! ## Rounding twice -/

/-- What rounding takes away from a quotient, in units of the foot. -/
theorem rest_bounds {long short c : Int} (up : 0 ≤ c) (real : long ≠ 0) (slanted : short ≠ 0) :
    0 ≤ long * (c * long).tmod short ∧
      long * (c * long).tmod short < (long * short).natAbs := by
  have size : ((c * long).tmod short).natAbs < short.natAbs := by
    rw [Int.natAbs_tmod]
    exact Nat.mod_lt _ (Int.natAbs_pos.mpr slanted)
  constructor
  · rcases Int.le_total 0 long with forth | back
    · exact Int.mul_nonneg forth (Int.tmod_nonneg _ (Int.mul_nonneg up forth))
    · have rest : 0 ≤ (-(c * long)).tmod short := Int.tmod_nonneg _ (by nlinarith)
      rw [Int.neg_tmod] at rest
      nlinarith
  · have product : (long * (c * long).tmod short).natAbs < (long * short).natAbs := by
      rw [Int.natAbs_mul, Int.natAbs_mul]
      exact Nat.mul_lt_mul_of_pos_left size (Int.natAbs_pos.mpr real)
    omega

/-- Where the foot of the perpendicular lies, along the longer axis, that is dropped from a point
at `c` on the line itself. -/
def refoot (long short c : Int) : Int :=
  (((c * long).tdiv short + (c * short).tdiv long) * (long * short)).tdiv
    (long * long + short * short)

theorem refoot_neg (long short c : Int) : refoot long short (-c) = -refoot long short c := by
  simp only [refoot, Int.neg_mul, Int.neg_tdiv, ← Int.neg_add]

theorem refoot_product (long short c : Int) :
    ((c * long).tdiv short + (c * short).tdiv long) * (long * short) =
      c * (long * long + short * short) -
        (long * (c * long).tmod short + short * (c * short).tmod long) := by
  have first := Int.mul_tdiv_add_tmod (c * long) short
  have second := Int.mul_tdiv_add_tmod (c * short) long
  linear_combination long * first + short * second

theorem refoot_beside_of_nonneg {long short c : Int} (up : 0 ≤ c) (real : long ≠ 0)
    (slanted : short ≠ 0) : Beside (refoot long short c) c := by
  obtain ⟨firstUp, firstLt⟩ := rest_bounds up real slanted
  obtain ⟨secondUp, secondLt⟩ := rest_bounds up slanted real
  rw [Int.mul_comm short long] at secondLt
  have less : 2 * (long * short) ≤ long * long + short * short := by
    nlinarith [sq_nonneg (long - short)]
  have more : -(2 * (long * short)) ≤ long * long + short * short := by
    nlinarith [sq_nonneg (long + short)]
  have restLt : long * (c * long).tmod short + short * (c * short).tmod long <
      long * long + short * short := by omega
  have restUp : 0 ≤ long * (c * long).tmod short + short * (c * short).tmod long := by omega
  rcases Int.lt_or_eq_of_le up with pos | rfl
  · rw [refoot, refoot_product]
    generalize long * (c * long).tmod short + short * (c * short).tmod long = rest at *
    generalize long * long + short * short = dist at *
    have distPos : 0 < dist := by omega
    have nonneg : 0 ≤ c * dist - rest := by nlinarith
    rw [Int.tdiv_eq_ediv_of_nonneg nonneg]
    have low : c - 1 ≤ (c * dist - rest) / dist := by
      rw [Int.le_ediv_iff_mul_le distPos]
      nlinarith
    have high : (c * dist - rest) / dist < c + 1 := by
      rw [Int.ediv_lt_iff_lt_mul distPos]
      nlinarith
    omega
  · simp [refoot]

theorem refoot_beside {long short : Int} (real : long ≠ 0) (slanted : short ≠ 0) (c : Int) :
    Beside (refoot long short c) c := by
  rcases Int.le_total 0 c with up | down
  · exact refoot_beside_of_nonneg up real slanted
  · have mirrored := refoot_beside_of_nonneg (by omega : 0 ≤ -c) real slanted
    rw [refoot_neg] at mirrored
    omega

theorem refoot_eq_of_diagonal {long short : Int} (real : long ≠ 0)
    (diagonal : long.natAbs = short.natAbs) (c : Int) : refoot long short c = c := by
  have first : (c * long).tmod short = 0 := by
    rcases Int.natAbs_eq_natAbs_iff.mp diagonal with rfl | rfl <;> simp
  have second : (c * short).tmod long = 0 := by
    rcases Int.natAbs_eq_natAbs_iff.mp diagonal with rfl | rfl <;> simp
  rw [refoot, refoot_product, first, second]
  simp only [Int.mul_zero, Int.add_zero, Int.sub_zero]
  exact Int.mul_tdiv_cancel _ (Segment.sum_of_squares_ne_zero real short)

/-- Quotients by the same number are at most one apart when the dividends are no further apart than
the divisor is from zero. -/
theorem tdiv_beside {a b d : Int} (real : d ≠ 0) (near : (a - b).natAbs ≤ d.natAbs) :
    Beside (a.tdiv d) (b.tdiv d) := by
  have ordered {a b d : Int} (pos : 0 < d) (le : b ≤ a) (near : a ≤ b + d * 1) :
      Beside (a.tdiv d) (b.tdiv d) := by
    have first := Int.tdiv_le_tdiv pos le
    have last := Int.tdiv_le_tdiv pos near
    have step := tdiv_step_le (a := b) pos (by decide : (0 : Int) ≤ 1)
    omega
  have forth {a b d : Int} (pos : 0 < d) (near : (a - b).natAbs ≤ d.natAbs) :
      Beside (a.tdiv d) (b.tdiv d) := by
    rcases Int.le_total b a with le | le
    · exact ordered pos le (by omega)
    · exact (ordered pos le (by omega)).symm
  rcases Int.lt_or_gt_of_ne real with neg | pos
  · have mirrored := @forth a b (-d) (by omega) (by omega)
    rw [Int.tdiv_neg, Int.tdiv_neg] at mirrored
    omega
  · exact forth pos near

/-- Whole steps carry over to a quotient rounded toward zero, up to one. -/
theorem tdiv_add_mul_beside {d : Int} (real : d ≠ 0) (a n : Int) :
    Beside ((a + d * n).tdiv d) (a.tdiv d + n) := by
  have divides : d ∣ a + d * n ↔ d ∣ a := Int.dvd_add_left (Int.dvd_mul_right d n)
  have sign : d.sign = 1 ∨ d.sign = -1 := by
    rcases Int.lt_or_gt_of_ne real with neg | pos
    · exact .inr (Int.sign_eq_neg_one_of_neg neg)
    · exact .inl (Int.sign_eq_one_of_pos pos)
  rw [Int.tdiv_eq_ediv, Int.tdiv_eq_ediv, Int.add_mul_ediv_left _ _ real]
  simp only [divides]
  split <;> split <;> omega

namespace Segment

/-! ## Points on a line -/

theorem lineAt_start (along across long short : Int) :
    lineAt along across long short along = across := by
  unfold lineAt
  omega

theorem lineAt_stop {long : Int} (real : long ≠ 0) (along across short : Int) :
    Beside (lineAt along across long short (along + long)) (across + short) := by
  have steps := tdiv_add_mul_beside real (along * short) short
  rw [lineAt, Int.add_mul]
  omega

theorem lineAt_beside {long short c d : Int} (real : long ≠ 0)
    (longer : short.natAbs ≤ long.natAbs) (beside : Beside c d) (along across : Int) :
    Beside (lineAt along across long short c) (lineAt along across long short d) := by
  have near : (c * short - d * short).natAbs ≤ long.natAbs := by
    rw [← Int.sub_mul, Int.natAbs_mul]
    calc (c - d).natAbs * short.natAbs ≤ 1 * short.natAbs :=
          Nat.mul_le_mul_right _ (by omega)
      _ ≤ long.natAbs := by omega
  have quotients := tdiv_beside real near
  unfold lineAt
  omega

/-- The foot that is dropped from a point of the line is beside it, and on a diagonal it is that
point. -/
theorem dropAt_again {along across long short c y : Int} (real : long ≠ 0) (slanted : short ≠ 0)
    (onLine : y = lineAt along across long short c) :
    Beside (dropAt along across long short c y) c ∧
      (long.natAbs = short.natAbs → dropAt along across long short c y = c) := by
  have total : (along * short).tdiv long + (c * long).tdiv short - across + y =
      (c * long).tdiv short + (c * short).tdiv long := by
    unfold lineAt at onLine
    omega
  have again : dropAt along across long short c y = refoot long short c := by
    rw [dropAt, total]
    rfl
  rw [again]
  exact ⟨refoot_beside real slanted c, fun diagonal => refoot_eq_of_diagonal real diagonal c⟩

variable {start stop p q : Point} {dx dy : Int}

/-- The point lies where the line through `start` does, for all the rounding across its longer
axis. -/
structure OnLine (start : Point) (dx dy : Int) (q : Point) : Prop where
  wide : dy.natAbs < dx.natAbs → q.y = lineAt start.x start.y dx dy q.x
  high : dx.natAbs ≤ dy.natAbs → q.x = lineAt start.y start.x dy dx q.y

/-- A direction along an axis or along a diagonal; nothing is rounded on a line that has it. -/
def IsEven (dx dy : Int) : Prop := dx = 0 ∨ dy = 0 ∨ dx.natAbs = dy.natAbs

instance (dx dy : Int) : Decidable (IsEven dx dy) := inferInstanceAs (Decidable (_ ∨ _ ∨ _))

/-- What a point of a line is projected to: a point of the line at most one pixel farther, and the
same one on an even line. -/
structure Refooted (start : Point) (dx dy : Int) (q foot : Point) : Prop extends
    OnLine start dx dy foot where
  besideX : dy.natAbs < dx.natAbs → Beside foot.x q.x
  besideY : dx.natAbs ≤ dy.natAbs → Beside foot.y q.y
  same : IsEven dx dy → foot = q

theorem Refooted.refl (onLine : OnLine start dx dy q) : Refooted start dx dy q q :=
  { onLine with
    besideX := fun _ => ⟨by omega, by omega⟩
    besideY := fun _ => ⟨by omega, by omega⟩
    same := fun _ => rfl }

/-- **The foot that is dropped from a point of a line is at most one pixel off.** -/
theorem plainFoot_again (onLine : OnLine start dx dy q) :
    Refooted start dx dy q (plainFoot start dx dy q) := by
  by_cases upright : dx = 0
  · have place := onLine.high (by omega)
    rw [upright, lineAt_level] at place
    rw [plainFoot, if_pos upright, ← place]
    exact .refl onLine
  by_cases level : dy = 0
  · have place := onLine.wide (by omega)
    rw [level, lineAt_level] at place
    rw [plainFoot, if_neg upright, if_pos level, ← place]
    exact .refl onLine
  by_cases wide : dx.natAbs > dy.natAbs
  · obtain ⟨beside, -⟩ := dropAt_again upright level (onLine.wide wide)
    simp only [plainFoot, if_neg upright, if_neg level, if_pos wide]
    exact
      { wide := fun _ => rfl
        high := fun high => absurd high (by omega)
        besideX := fun _ => beside
        besideY := fun high => absurd high (by omega)
        same := by
          rintro (none_ | none_ | diagonal)
          · exact absurd none_ upright
          · exact absurd none_ level
          · omega }
  · have high : dx.natAbs ≤ dy.natAbs := Nat.not_lt.mp wide
    obtain ⟨beside, same⟩ := dropAt_again level upright (onLine.high high)
    simp only [plainFoot, if_neg upright, if_neg level, if_neg wide]
    exact
      { wide := fun wider => absurd wider wide
        high := fun _ => rfl
        besideX := fun wider => absurd wider wide
        besideY := fun _ => beside
        same := by
          rintro (none_ | none_ | diagonal)
          · exact absurd none_ upright
          · exact absurd none_ level
          · rw [same diagonal.symm, ← onLine.high high] }

/-! ## Points of a segment -/

/-- The point lies on the line of the segment, between its ends. -/
structure OnSegment (start stop q : Point) : Prop extends
    OnLine start (stop.x - start.x) (stop.y - start.y) q where
  betweenX : (stop.y - start.y).natAbs < (stop.x - start.x).natAbs → Between start.x stop.x q.x
  betweenY : (stop.x - start.x).natAbs ≤ (stop.y - start.y).natAbs → Between start.y stop.y q.y

/-- A point held between two ends is one of them, or it was between them. -/
theorem holdBetween_cases (along : Point → Int) {forward : Bool}
    (direction : forward = true ↔ along stop - along start > 0) (q : Point) :
    (holdBetween along forward start stop q = start ∨
      holdBetween along forward start stop q = stop) ∨
    holdBetween along forward start stop q = q ∧
      Between (along start) (along stop) (along q) := by
  unfold holdBetween
  cases forward
  · simp only [Bool.false_eq_true, if_false]
    split
    · exact .inl (.inl rfl)
    · split
      · exact .inl (.inr rfl)
      · exact .inr ⟨rfl, by omega⟩
  · simp only [if_true]
    split
    · exact .inl (.inl rfl)
    · split
      · exact .inl (.inr rfl)
      · exact .inr ⟨rfl, by omega⟩

/-- The nearest point of a segment is an end of it, or a foot on it. -/
theorem closest_cases (startFits : start.Narrow) (stopFits : stop.Narrow) (pFits : p.Narrow) :
    (closest start stop p).Gives Allowed fun q =>
      (q = start ∨ q = stop) ∨ OnSegment start stop q := by
  refine (closest_gives startFits stopFits pFits).mono ?_
  rintro _ ⟨rfl, -⟩
  have onLine : OnLine start (stop.x - start.x) (stop.y - start.y)
      (plainFoot start (stop.x - start.x) (stop.y - start.y) p) :=
    ⟨plainFoot_wide, plainFoot_high⟩
  by_cases wide : (stop.y - start.y).natAbs < (stop.x - start.x).natAbs
  · rw [projection_wide wide]
    refine (holdBetween_cases Point.x decide_eq_true_iff _).imp_right ?_
    rintro ⟨same, between⟩
    rw [same]
    exact ⟨onLine, fun _ => between, fun high => absurd wide (by omega)⟩
  · rw [projection_high wide]
    refine (holdBetween_cases Point.y decide_eq_true_iff _).imp_right ?_
    rintro ⟨same, between⟩
    rw [same]
    exact ⟨onLine, fun wider => absurd wider wide, fun _ => between⟩

theorem holdBetween_of_between {along : Point → Int} {forward : Bool}
    (direction : forward = true ↔ along stop - along start > 0)
    (between : Between (along start) (along stop) (along q)) :
    holdBetween along forward start stop q = q := by
  unfold holdBetween
  cases forward
  · have back : ¬ along stop - along start > 0 := fun forth => by cases direction.mpr forth
    rw [if_neg Bool.false_ne_true, if_neg (by omega), if_neg (by omega)]
  · have forth := direction.mp rfl
    rw [if_pos rfl, if_neg (by omega), if_neg (by omega)]

/-- Holding a point beside one that lies between the ends leaves it beside that one, when the ends
do not lie aside. -/
theorem holdBetween_beside (along across : Point → Int) {forward : Bool} {near : Point}
    (direction : forward = true ↔ along stop - along start > 0)
    (between : Between (along start) (along stop) (along q))
    (beside : Adventure.Beside (along near) (along q))
    (aside : Adventure.Beside (across near) (across q))
    (first : along q = along start → across start = across q)
    (last : along q = along stop → Adventure.Beside (across stop) (across q)) :
    Adventure.Beside (along (holdBetween along forward start stop near)) (along q) ∧
      Adventure.Beside (across (holdBetween along forward start stop near)) (across q) := by
  unfold holdBetween
  cases forward
  · have back : ¬ along stop - along start > 0 := fun forth => by cases direction.mpr forth
    rw [if_neg Bool.false_ne_true]
    split
    · have := first (by omega)
      omega
    · split
      · have := last (by omega)
        omega
      · exact ⟨beside, aside⟩
  · have forth := direction.mp rfl
    rw [if_pos rfl]
    split
    · have := first (by omega)
      omega
    · split
      · have := last (by omega)
        omega
      · exact ⟨beside, aside⟩

/-- A foot of the line at most one pixel off a point of the segment stays so when it is held
between the ends. -/
theorem held_beside (along across : Point → Int) {forward : Bool} {foot : Point}
    (direction : forward = true ↔ along stop - along start > 0)
    (real : along stop - along start ≠ 0)
    (longer : (across stop - across start).natAbs ≤ (along stop - along start).natAbs)
    (between : Between (along start) (along stop) (along q))
    (line : across q = lineAt (along start) (across start) (along stop - along start)
      (across stop - across start) (along q))
    (footLine : across foot = lineAt (along start) (across start) (along stop - along start)
      (across stop - across start) (along foot))
    (beside : Adventure.Beside (along foot) (along q)) :
    Adventure.Beside (along (holdBetween along forward start stop foot)) (along q) ∧
      Adventure.Beside (across (holdBetween along forward start stop foot)) (across q) := by
  have aside : Adventure.Beside (across foot) (across q) := by
    rw [footLine, line]
    exact lineAt_beside real longer beside _ _
  refine holdBetween_beside along across direction between beside aside ?_ ?_
  · intro atStart
    rw [line, atStart, lineAt_start]
  · intro atStop
    have last := lineAt_stop real (along start) (across start) (across stop - across start)
    rw [show along start + (along stop - along start) = along stop by omega] at last
    rw [line, atStop]
    omega

/-- **A point of a segment is projected onto it at most one pixel off**, and onto an even segment
where it is. -/
theorem closest_again (startFits : start.Narrow) (stopFits : stop.Narrow) (qFits : q.Narrow)
    (on : OnSegment start stop q) :
    (closest start stop q).Gives Allowed fun again =>
      again.Beside q ∧ (IsEven (stop.x - start.x) (stop.y - start.y) → again = q) := by
  refine (closest_gives startFits stopFits qFits).mono ?_
  rintro _ ⟨rfl, -⟩
  have refooted := plainFoot_again on.toOnLine
  by_cases wide : (stop.y - start.y).natAbs < (stop.x - start.x).natAbs
  · rw [projection_wide wide]
    have between := on.betweenX wide
    obtain ⟨x, y⟩ := held_beside Point.x Point.y decide_eq_true_iff (by omega) (by omega) between
      (on.wide wide) (refooted.wide wide) (refooted.besideX wide)
    refine ⟨⟨x, y⟩, fun even => ?_⟩
    rw [refooted.same even]
    exact holdBetween_of_between decide_eq_true_iff between
  · rw [projection_high wide]
    have high : (stop.x - start.x).natAbs ≤ (stop.y - start.y).natAbs := by omega
    have between := on.betweenY high
    by_cases even : IsEven (stop.x - start.x) (stop.y - start.y)
    · rw [refooted.same even, holdBetween_of_between decide_eq_true_iff between]
      exact ⟨.refl q, fun _ => rfl⟩
    · have real : stop.y - start.y ≠ 0 := fun level => even (.inr (.inl level))
      obtain ⟨y, x⟩ := held_beside Point.y Point.x decide_eq_true_iff real high between
        (on.high high) (refooted.high high) (refooted.besideY high)
      exact ⟨⟨x, y⟩, fun isEven => absurd isEven even⟩

end Segment

end Adventure
