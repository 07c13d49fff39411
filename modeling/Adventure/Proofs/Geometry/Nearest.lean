import Adventure.Proofs.Geometry.Faults

/-!
# Where nearest points lie

The point of a segment nearest to another one is computed with quotients that round toward
zero, and may lie a pixel off the segment.  It never lies outside the rectangle that the ends
of the segment span, though: along the longer axis it is held between the ends, and across it
the rounding takes away at most what the slope allows (`tdiv_step_le`).  So the nearest point
of an outline is between its corners, and whoever is far from all corners along one axis is
as far from every nearest point.
-/

set_option autoImplicit false

namespace Adventure

variable {Allowed : Fault → Prop}

open Word

/-- A number between two others, which may come in either order. -/
abbrev Between (a b z : Int) : Prop := min a b ≤ z ∧ z ≤ max a b

/-! ## Rounding toward zero -/

/-- Whole steps carry over to a quotient rounded toward zero, except that one may get lost
when the sign changes. -/
theorem tdiv_step_le {a d n : Int} (pos : 0 < d) (up : 0 ≤ n) :
    (a + d * n).tdiv d ≤ a.tdiv d + n := by
  have divides : d ∣ a + d * n ↔ d ∣ a := Int.dvd_add_left (Int.dvd_mul_right d n)
  have product : 0 ≤ d * n := Int.mul_nonneg (Int.le_of_lt pos) up
  rw [Int.tdiv_eq_ediv, Int.tdiv_eq_ediv, Int.add_mul_ediv_left _ _ (by omega),
    Int.sign_eq_one_of_pos pos]
  simp only [divides]
  split <;> split <;> omega

/-- The case in which the way and the rise go up. -/
theorem rise_of_pos {along short long c : Int} (pos : 0 < long) (up : 0 ≤ short)
    (low : along ≤ c) (high : c ≤ along + long) :
    0 ≤ (c * short).tdiv long - (along * short).tdiv long ∧
      (c * short).tdiv long - (along * short).tdiv long ≤ short := by
  have first := Int.tdiv_le_tdiv pos (Int.mul_le_mul_of_nonneg_right low up)
  have last := Int.tdiv_le_tdiv pos (Int.mul_le_mul_of_nonneg_right high up)
  rw [Int.add_mul] at last
  have step := tdiv_step_le (a := along * short) pos up
  omega

/-- On the way from `first` to `last`, a line that rises by `short` all the way rises no more
than that. -/
theorem rise_between {first last short c : Int} (apart : last - first ≠ 0)
    (between : Between first last c) :
    Between 0 short ((c * short).tdiv (last - first) - (first * short).tdiv (last - first)) := by
  obtain ⟨low, high⟩ := between
  obtain ⟨long, rfl⟩ : ∃ long, last = first + long := ⟨last - first, by omega⟩
  rw [add_sub_cancel_left] at apart ⊢
  -- A way down is the way up from its other end, a fall is the rise of the mirrored line.
  rcases Int.lt_or_gt_of_ne apart with back | forth
  · rcases Int.le_total 0 short with up | down
    · have rise := rise_of_pos (by omega : 0 < -long) up (by omega : c ≤ first) (by omega)
      rw [Int.tdiv_neg, Int.tdiv_neg] at rise
      omega
    · have rise := rise_of_pos (by omega : 0 < -long) (by omega : 0 ≤ -short)
        (by omega : c ≤ first) (by omega)
      rw [Int.mul_neg, Int.mul_neg, Int.neg_tdiv_neg, Int.neg_tdiv_neg] at rise
      omega
  · rcases Int.le_total 0 short with up | down
    · have rise := rise_of_pos forth up (by omega : first ≤ c) (by omega)
      omega
    · have rise := rise_of_pos forth (by omega : 0 ≤ -short) (by omega : first ≤ c) (by omega)
      rw [Int.mul_neg, Int.mul_neg, Int.neg_tdiv, Int.neg_tdiv] at rise
      omega

/-! ## Segments -/

namespace Segment

variable {start stop p : Point} {dx dy : Int}

theorem lineAt_level (along across long c : Int) : lineAt along across long 0 c = across := by
  simp only [lineAt, Int.mul_zero, Int.zero_tdiv]
  omega

/-- Across the longer axis, the foot of a perpendicular is where the line is, for all the
rounding. -/
theorem plainFoot_wide (wide : dy.natAbs < dx.natAbs) : (plainFoot start dx dy p).y =
    lineAt start.x start.y dx dy (plainFoot start dx dy p).x := by
  unfold plainFoot
  rw [if_neg (by omega)]
  split
  next level => rw [level, lineAt_level]
  next => rfl

theorem plainFoot_high (high : dx.natAbs ≤ dy.natAbs) : (plainFoot start dx dy p).x =
    lineAt start.y start.x dy dx (plainFoot start dx dy p).y := by
  unfold plainFoot
  split
  next upright => rw [upright, lineAt_level]
  next =>
    have notWide : ¬ dx.natAbs > dy.natAbs := Nat.not_lt.mpr high
    simp only [if_neg (by omega : ¬ dy = 0), if_neg notWide]

/-- **The nearest point of a segment lies in the rectangle that its ends span.** -/
theorem closest_between (startFits : start.Narrow) (stopFits : stop.Narrow) (pFits : p.Narrow) :
    (closest start stop p).Gives Allowed fun q =>
      Between start.x stop.x q.x ∧ Between start.y stop.y q.y := by
  refine (closest_gives startFits stopFits pFits).mono ?_
  rintro _ ⟨rfl, -⟩
  -- A foot past an end is replaced by that end, so only a foot between the ends is left.
  have held : ∀ along forward q, (along stop - along start > 0 ↔ forward = true) →
      (Between (along start) (along stop) (along q) →
        Between start.x stop.x q.x ∧ Between start.y stop.y q.y) →
      Between start.x stop.x (holdBetween along forward start stop q).x ∧
        Between start.y stop.y (holdBetween along forward start stop q).y := by
    intro along forward q direction inside
    unfold holdBetween
    cases forward
    · simp only [Bool.false_eq_true, if_false]
      split
      · omega
      · split <;> omega
    · simp only [if_true]
      split
      · omega
      · split <;> omega
  by_cases wide : (stop.y - start.y).natAbs < (stop.x - start.x).natAbs
  · rw [projection_wide wide]
    refine held Point.x _ _ decide_eq_true_iff.symm fun between => ⟨between, ?_⟩
    have rise : Between 0 (stop.y - start.y) _ := rise_between (by omega) between
    rw [plainFoot_wide wide, lineAt]
    omega
  · rw [projection_high wide]
    refine held Point.y _ _ decide_eq_true_iff.symm fun between => ⟨?_, between⟩
    rw [plainFoot_high (Nat.not_lt.mp wide), lineAt]
    by_cases level : stop.y - start.y = 0
    · rw [level, Int.tdiv_zero, Int.tdiv_zero]
      omega
    · have rise : Between 0 (stop.x - start.x) _ := rise_between level between
      omega

end Segment

/-! ## Outlines -/

theorem Point.distSq_eq {p q : Point} (xFits : Fits32 (p.x - q.x)) (yFits : Fits32 (p.y - q.y)) :
    p.distSq q = .ok (addCapped (squareCapped (p.x - q.x)) (squareCapped (p.y - q.y))) := by
  simp only [distSq, sub32, int32, if_pos xFits, if_pos yFits]
  rfl

/-- Farther away along one axis is farther away. -/
theorem Word.lt_addCapped {a b : Int} {t : Nat} (small : t ≤ 65534)
    (far : t < a.natAbs ∨ t < b.natAbs) : t * t < addCapped (squareCapped a) (squareCapped b) := by
  have square : ∀ {n : Nat}, t < n → t * t < min (n * n) greatestUnsigned32 := by
    intro n more
    have first : (t + 1) * (t + 1) ≤ n * n := Nat.mul_le_mul more more
    have most : t * t ≤ 65534 * 65534 := Nat.mul_le_mul small small
    have split : (t + 1) * (t + 1) = t * t + 2 * t + 1 := by ring
    unfold greatestUnsigned32
    omega
  unfold addCapped squareCapped
  rcases far with far | far
  · have := square far
    omega
  · have := square far
    omega

theorem Point.eq_of_coordinates {p q : Point} (x : p.x = q.x) (y : p.y = q.y) : p = q := by
  cases p
  cases q
  exact (Point.mk.injEq ..).mpr ⟨x, y⟩

/-- Only a point itself is at no distance from it. -/
theorem Word.addCapped_eq_zero {a b : Int}
    (zero : addCapped (squareCapped a) (squareCapped b) = 0) : a = 0 ∧ b = 0 := by
  have near : ¬ (0 < a.natAbs ∨ 0 < b.natAbs) := by
    intro far
    have := Word.lt_addCapped (by decide : 0 ≤ 65534) far
    omega
  omega

namespace Outline

variable {outline : Outline} {p q : Point}

/-- A point that is beyond the corners of an outline in no direction. -/
structure Spans (outline : Outline) (q : Point) : Prop where
  left : ∃ corner ∈ outline.corners, corner.x ≤ q.x
  right : ∃ corner ∈ outline.corners, q.x ≤ corner.x
  above : ∃ corner ∈ outline.corners, corner.y ≤ q.y
  below : ∃ corner ∈ outline.corners, q.y ≤ corner.y

theorem spans_of_beyondCorners (within : outline.beyondCorners p = false) : outline.Spans p := by
  simp only [beyondCorners, Bool.or_eq_false_iff, List.all_eq_false, decide_eq_true_eq,
    Int.not_lt] at within
  obtain ⟨⟨⟨right, left⟩, below⟩, above⟩ := within
  exact ⟨right, left, below, above⟩

/-- Between two corners, along both axes. -/
theorem spans_of_between {one two : Point} (oneIn : one ∈ outline.corners)
    (twoIn : two ∈ outline.corners) (x : Between one.x two.x q.x) (y : Between one.y two.y q.y) :
    outline.Spans q := by
  have both : ∀ along : Point → Int, Between (along one) (along two) (along q) →
      (∃ corner ∈ outline.corners, along corner ≤ along q) ∧
        ∃ corner ∈ outline.corners, along q ≤ along corner := by
    rintro along ⟨low, high⟩
    constructor
    · rcases min_le_iff.mp low with low | low
      · exact ⟨one, oneIn, low⟩
      · exact ⟨two, twoIn, low⟩
    · rcases le_max_iff.mp high with high | high
      · exact ⟨one, oneIn, high⟩
      · exact ⟨two, twoIn, high⟩
  exact ⟨(both Point.x x).1, (both Point.x x).2, (both Point.y y).1, (both Point.y y).2⟩

theorem Narrow.corner (fits : outline.Narrow) : ∀ corner ∈ outline.corners, corner.Narrow := by
  simp only [corners, List.forall_mem_cons, List.not_mem_nil, false_implies, implies_true, and_true]
  exact ⟨fits.ul, fits.ur, fits.lr, fits.ll⟩

theorem corners_of_edges : ∀ edge ∈ outline.edges,
    edge.1 ∈ outline.corners ∧ edge.2 ∈ outline.corners := by
  simp [edges, corners]

/-- A range that holds all corners holds whatever lies between them. -/
theorem Spans.within {low high : Int} (spans : outline.Spans q)
    (corners : ∀ corner ∈ outline.corners,
      (low ≤ corner.x ∧ corner.x ≤ high) ∧ low ≤ corner.y ∧ corner.y ≤ high) :
    (low ≤ q.x ∧ q.x ≤ high) ∧ low ≤ q.y ∧ q.y ≤ high := by
  obtain ⟨⟨left, leftIn, _⟩, ⟨right, rightIn, _⟩, ⟨top, topIn, _⟩, bottom, bottomIn, _⟩ := spans
  have leftFits := (corners left leftIn).1
  have rightFits := (corners right rightIn).1
  have topFits := (corners top topIn).2
  have bottomFits := (corners bottom bottomIn).2
  omega

theorem Spans.narrow (spans : outline.Spans q) (fits : outline.Narrow) : q.Narrow :=
  spans.within fits.corner

/-- **An outline holds only points that are beyond its corners in no direction.** -/
theorem contains_spans (fits : outline.Narrow) (pFits : p.Narrow) :
    (outline.contains p).Gives Allowed fun inside => inside = true → outline.Spans p := by
  by_cases beyond : outline.beyondCorners p = true
  · rw [contains, if_pos beyond]
    rintro ⟨⟩
  · exact (contains_gives fits pFits).mono fun _ _ _ =>
      spans_of_beyondCorners (Bool.not_eq_true _ ▸ beyond)

/-- What the search for the nearest point has found: nothing near enough, or a point between
the corners with its distance. -/
def Found (outline : Outline) (p : Point) (best : Point × Nat) : Prop :=
  best = (p, farAway) ∨ outline.Spans best.1 ∧ p.distSq best.1 = .ok best.2

theorem nearer_found (fits : outline.Narrow) (pFits : p.Narrow) {best : Point × Nat}
    (found : outline.Found p best) {edge : Point × Point} (edgeIn : edge ∈ outline.edges) :
    (nearer p best edge).Gives Allowed (outline.Found p) := by
  obtain ⟨firstIn, secondIn⟩ := corners_of_edges edge edgeIn
  simp only [nearer, Checked.gives_bind, Checked.gives_pure]
  refine (Segment.closest_between (fits.corner _ firstIn) (fits.corner _ secondIn) pFits).mono ?_
  rintro q ⟨x, y⟩
  have spans := spans_of_between firstIn secondIn x y
  obtain ⟨qx, qy⟩ := spans.narrow fits
  obtain ⟨px, py⟩ := pFits
  have distance := Point.distSq_eq (p := p) (q := q) (by omega) (by omega)
  rw [distance]
  change outline.Found p (if _ then _ else _)
  split
  · exact .inr ⟨spans, distance⟩
  · exact found

/-- The nearest point of an outline is found without a fault, and it is between the corners. -/
theorem closest_found (fits : outline.Narrow) (pFits : p.Narrow) :
    (outline.closest p).Gives Allowed (outline.Found p) := by
  have search : ∀ edges : List (Point × Point), (∀ edge ∈ edges, edge ∈ outline.edges) →
      ∀ best, outline.Found p best →
        (edges.foldlM (nearer p) best).Gives Allowed (outline.Found p) := by
    intro edges
    induction edges with
    | nil => exact fun _ _ found => found
    | cons edge rest ih =>
      intro inside best found
      rw [List.foldlM_cons, Checked.gives_bind]
      refine (nearer_found fits pFits found (inside edge List.mem_cons_self)).mono ?_
      exact fun _ found =>
        ih (fun edge member => inside edge (List.mem_cons_of_mem _ member)) _ found
  exact search _ (fun _ member => member) _ (.inl rfl)

/-- What the search for the nearest point has found among some edges: a point of one of them, and
none of them has a nearer one. -/
structure Searched (p : Point) (seen : List (Point × Point)) (best : Point × Nat) : Prop where
  origin : best = (p, farAway) ∨
    ∃ edge ∈ seen, Segment.closest edge.1 edge.2 p = .ok best.1 ∧ p.distSq best.1 = .ok best.2
  least : ∀ edge ∈ seen, ∀ candidate distance, Segment.closest edge.1 edge.2 p = .ok candidate →
    p.distSq candidate = .ok distance → best.2 ≤ distance

theorem nearer_searched {seen : List (Point × Point)} {best : Point × Nat}
    (searched : Searched p seen best) (edge : Point × Point) :
    (nearer p best edge).Gives (fun _ => True) (Searched p (seen ++ [edge])) := by
  simp only [nearer, Checked.gives_bind, Checked.gives_pure]
  refine Checked.gives_anything.and_ok.mono ?_
  rintro candidate ⟨closest, -⟩
  refine Checked.gives_anything.and_ok.mono ?_
  rintro distance ⟨measured, -⟩
  -- only this edge can have a nearer point than those seen before
  have among {limit : Nat} (before : limit ≤ best.2) (here : limit ≤ distance) :
      ∀ other ∈ seen ++ [edge], ∀ point apart, Segment.closest other.1 other.2 p = .ok point →
        p.distSq point = .ok apart → limit ≤ apart := by
    intro other member point apart found far
    rcases List.mem_append.mp member with member | member
    · exact Nat.le_trans before (searched.least other member point apart found far)
    · obtain rfl := List.mem_singleton.mp member
      cases closest.symm.trans found
      cases measured.symm.trans far
      exact here
  split
  next less =>
    exact ⟨.inr ⟨edge, List.mem_append_right _ List.mem_cons_self, closest, measured⟩,
      among (Nat.le_of_lt less) (Nat.le_refl _)⟩
  next more =>
    refine ⟨searched.origin.imp_right ?_, among (Nat.le_refl _) (by omega)⟩
    rintro ⟨other, member, found⟩
    exact ⟨other, List.mem_append_left _ member, found⟩

/-- The search over all edges finds the nearest of their nearest points. -/
theorem closest_searched : (outline.closest p).Gives (fun _ => True)
    (Searched p outline.edges) := by
  have search : ∀ rest seen best, Searched p seen best →
      (List.foldlM (nearer p) best rest).Gives (fun _ => True) (Searched p (seen ++ rest)) := by
    intro rest
    induction rest with
    | nil =>
      intro seen best searched
      rw [List.append_nil]
      exact searched
    | cons edge rest ih =>
      intro seen best searched
      rw [List.foldlM_cons, Checked.gives_bind, ← List.singleton_append, ← List.append_assoc]
      exact (nearer_searched searched edge).mono fun best searched => ih _ best searched
  refine search outline.edges [] (p, farAway) ⟨.inl rfl, ?_⟩
  exact fun _ member => absurd member List.not_mem_nil

/-- A point that is found at no distance is the point itself. -/
theorem Found.eq_of_zero (fits : outline.Narrow) (pFits : p.Narrow)
    (found : outline.Found p (q, 0)) : q = p := by
  rcases found with same | ⟨spans, distance⟩
  · cases same
  · obtain ⟨qx, qy⟩ := spans.narrow fits
    obtain ⟨px, py⟩ := pFits
    rw [Point.distSq_eq (by omega) (by omega)] at distance
    obtain ⟨x, y⟩ := Word.addCapped_eq_zero (Except.ok.inj distance)
    dsimp only at x y
    exact Point.eq_of_coordinates (by omega) (by omega)

/-- An outline is rejected only when all points between its corners are farther away than the
threshold, along one axis. -/
theorem quickReject_gives {threshold : Nat} (small : threshold ≤ 65534) (pFits : p.Narrow) :
    (outline.quickReject p threshold).Gives Allowed fun rejected => rejected = true →
      ∀ q, outline.Spans q →
        threshold < (p.x - q.x).natAbs ∨ threshold < (p.y - q.y).natAbs := by
  obtain ⟨px, py⟩ := pFits
  have all (along : Point → Int) (past : Int → Prop) [DecidablePred past]
      (beyond : outline.corners.all (fun corner => decide (past (along corner))) = true) :
      ∀ corner ∈ outline.corners, past (along corner) :=
    fun corner member => of_decide_eq_true (List.all_eq_true.mp beyond corner member)
  simp only [quickReject, Checked.gives_bind, Checked.gives_ite, Checked.gives_pure]
  rw [gives_sub32 (by omega), add32, gives_int32 (by omega), gives_sub32 (by omega), add32,
    gives_int32 (by omega)]
  split
  next beyond =>
    intro _ q spans
    obtain ⟨corner, member, right⟩ := spans.right
    have := all Point.x (p.x - threshold > ·) beyond corner member
    omega
  next =>
    split
    next beyond =>
      intro _ q spans
      obtain ⟨corner, member, left⟩ := spans.left
      have := all Point.x (p.x + threshold < ·) beyond corner member
      omega
    next =>
      split
      next beyond =>
        intro _ q spans
        obtain ⟨corner, member, below⟩ := spans.below
        have := all Point.y (p.y - threshold > ·) beyond corner member
        omega
      next =>
        intro beyond q spans
        obtain ⟨corner, member, above⟩ := spans.above
        have := all Point.y (p.y + threshold < ·) beyond corner member
        omega

/-- An outline that neither holds a point nor comes nearer to it than a squared distance. -/
structure Keeps (outline : Outline) (limit : Nat) (p : Point) : Prop where
  outside : outline.contains p = .ok false
  apart : ∃ q distance, outline.closest p = .ok (q, distance) ∧ limit ≤ distance

theorem Keeps.mono {limit less : Nat} (keeps : outline.Keeps limit p) (le : less ≤ limit) :
    outline.Keeps less p := by
  obtain ⟨outside, q, distance, nearest, far⟩ := keeps
  exact ⟨outside, q, distance, nearest, Nat.le_trans le far⟩

theorem Keeps.le_distance {limit distance : Nat} (keeps : outline.Keeps limit p)
    (closest : outline.closest p = .ok (q, distance)) : limit ≤ distance := by
  obtain ⟨_, _, _, found, far⟩ := keeps
  cases closest.symm.trans found
  exact far

/-- **The rejection by corners is safe.**  An outline that is rejected does not hold the point, and
its nearest point is farther away than the threshold. -/
theorem quickReject_keeps {threshold : Nat} (small : threshold ≤ 4000) (fits : outline.Narrow)
    (pFits : p.Narrow) :
    (outline.quickReject p threshold).Gives Allowed fun rejected => rejected = true →
      outline.Keeps (threshold * threshold + 1) p := by
  refine (quickReject_gives (by omega) pFits).mono fun rejected far isRejected => ?_
  have distant := far isRejected
  obtain ⟨inside, contains, spans⟩ :=
    Checked.gives_false_iff.mp (contains_spans fits pFits)
  obtain ⟨⟨q, distance⟩, closest, found⟩ :=
    Checked.gives_false_iff.mp (closest_found fits pFits)
  refine ⟨?_, q, distance, closest, ?_⟩
  · cases inside with
    | false => exact contains
    | true =>
      have := distant p (spans rfl)
      omega
  · rcases found with none_ | ⟨between, measured⟩
    · cases none_
      have square : threshold * threshold ≤ 4000 * 4000 := Nat.mul_le_mul small small
      have limit : farAway = 16777215 := rfl
      omega
    · obtain ⟨qx, qy⟩ := between.narrow fits
      obtain ⟨px, py⟩ := pFits
      rw [Point.distSq_eq (by omega) (by omega)] at measured
      have same : _ = distance := Except.ok.inj measured
      rw [← same]
      exact Word.lt_addCapped (by omega) (distant q between)

end Outline

end Adventure
