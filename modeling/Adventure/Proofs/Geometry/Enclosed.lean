import Adventure.Proofs.Geometry.Convex

/-!
# Points inside all edges

A point on the inner side of every edge of a strictly convex outline is beyond its corners in no
direction.  The diagonal from `ul` to `lr` cuts the outline into two triangles, and the point is on
the inner side of all three edges of one of them; there it is a mean of the three corners, weighted
by the areas that it forms with the opposite edges.  So the rejections by corners change no answer:
such an outline holds exactly the points on the inner side of its four edges, and it is never
rejected for a point that it holds.
-/

set_option autoImplicit false

namespace Adventure

variable {Allowed : Fault → Prop}

/-! ## Triangles -/

namespace Point

/-- Twice the area of a triangle; it is negative when the corners are listed counter-clockwise. -/
def area (one two three : Point) : Int :=
  (three.y - one.y) * (two.x - one.x) - (two.y - one.y) * (three.x - one.x)

variable {one two three p : Point}

theorem area_swap (one two three : Point) : area two one three = -area one two three := by
  unfold area
  ring

/-- A point cuts a triangle into three. -/
theorem area_sum (one two three p : Point) :
    area two three p + area three one p + area one two p = area one two three := by
  unfold area
  ring

/-- A point is the mean of three corners, weighted by the areas it forms with the opposite
edges. -/
theorem area_mean_x (one two three p : Point) :
    area two three p * one.x + area three one p * two.x + area one two p * three.x =
      area one two three * p.x := by
  unfold area
  ring

theorem area_mean_y (one two three p : Point) :
    area two three p * one.y + area three one p * two.y + area one two p * three.y =
      area one two three * p.y := by
  unfold area
  ring

/-- The inner side of an edge, as the area that a point forms with it. -/
theorem innerSide_area (oneFits : one.Narrow) (twoFits : two.Narrow) (pFits : p.Narrow) :
    (innerSide one two p).Gives Allowed (· = decide (0 ≤ area one two p)) := by
  refine (innerSide_value oneFits twoFits pFits).mono fun inside same => ?_
  rw [same, area]
  exact decide_eq_decide.mpr Int.sub_nonneg.symm

/-- The point lies on the inner side of the three edges of a triangle listed clockwise. -/
structure InTriangle (one two three p : Point) : Prop where
  real : 0 < area one two three
  first : 0 ≤ area one two p
  second : 0 ≤ area two three p
  third : 0 ≤ area three one p

end Point

/-- A weighted mean of three numbers is not below all of them. -/
theorem exists_le_mean {a b c u v w z : Int} (uUp : 0 ≤ u) (vUp : 0 ≤ v) (wUp : 0 ≤ w)
    (real : 0 < u + v + w) (mean : u * a + v * b + w * c = (u + v + w) * z) :
    a ≤ z ∨ b ≤ z ∨ c ≤ z := by
  by_contra above
  simp only [not_or, Int.not_le] at above
  obtain ⟨aAbove, bAbove, cAbove⟩ := above
  have first : u * (z + 1) ≤ u * a := Int.mul_le_mul_of_nonneg_left aAbove uUp
  have second : v * (z + 1) ≤ v * b := Int.mul_le_mul_of_nonneg_left bAbove vUp
  have third : w * (z + 1) ≤ w * c := Int.mul_le_mul_of_nonneg_left cAbove wUp
  linarith

/-- A weighted mean of three numbers is not above all of them. -/
theorem exists_ge_mean {a b c u v w z : Int} (uUp : 0 ≤ u) (vUp : 0 ≤ v) (wUp : 0 ≤ w)
    (real : 0 < u + v + w) (mean : u * a + v * b + w * c = (u + v + w) * z) :
    z ≤ a ∨ z ≤ b ∨ z ≤ c := by
  have mirrored : -a ≤ -z ∨ -b ≤ -z ∨ -c ≤ -z :=
    exists_le_mean uUp vUp wUp real (by simp only [Int.mul_neg]; linarith)
  simpa only [Int.neg_le_neg_iff] using mirrored

namespace Outline

variable {outline : Outline} {one two three p : Point}

/-- A point of a triangle between corners is beyond the corners in no direction. -/
theorem spans_of_inTriangle (oneIn : one ∈ outline.corners) (twoIn : two ∈ outline.corners)
    (threeIn : three ∈ outline.corners) (inside : Point.InTriangle one two three p) :
    outline.Spans p := by
  obtain ⟨real, first, second, third⟩ := inside
  have sum := Point.area_sum one two three p
  have pick {Near : Point → Prop} (near : Near one ∨ Near two ∨ Near three) :
      ∃ corner ∈ outline.corners, Near corner := by
    rcases near with near | near | near
    · exact ⟨one, oneIn, near⟩
    · exact ⟨two, twoIn, near⟩
    · exact ⟨three, threeIn, near⟩
  have along := Point.area_mean_x one two three p
  have across := Point.area_mean_y one two three p
  rw [← sum] at real along across
  exact {
    left := pick (exists_le_mean second third first real along)
    right := pick (exists_ge_mean second third first real along)
    above := pick (exists_le_mean second third first real across)
    below := pick (exists_ge_mean second third first real across) }

/-! ## Strictly convex outlines -/

/-- The point lies on the inner side of all edges. -/
def Encloses (outline : Outline) (p : Point) : Prop :=
  ∀ edge ∈ outline.edges, 0 ≤ Point.area edge.1 edge.2 p

instance (outline : Outline) (p : Point) : Decidable (outline.Encloses p) :=
  inferInstanceAs (Decidable (∀ edge ∈ outline.edges, 0 ≤ Point.area edge.1 edge.2 p))

theorem TurnsIn.area_pos (turns : TurnsIn one two three) : 0 < Point.area one two three :=
  Int.sub_pos.mpr turns

/-- An enclosed point lies in one of the two triangles that the diagonal from `ul` to `lr` cuts
off. -/
theorem Encloses.inTriangle (strict : outline.StrictlyConvex) (encloses : outline.Encloses p) :
    Point.InTriangle outline.ul outline.ur outline.lr p ∨
      Point.InTriangle outline.lr outline.ll outline.ul p := by
  have atUr : TurnsIn outline.ul outline.ur outline.lr := strict outline (by simp [rotations])
  have atLl : TurnsIn outline.lr outline.ll outline.ul :=
    strict outline.rotate.rotate (by simp [rotations])
  have inner {start stop : Point} (edge : (start, stop) ∈ outline.edges) :
      0 ≤ Point.area start stop p := encloses _ edge
  rcases Int.le_total 0 (Point.area outline.lr outline.ul p) with upper | lower
  · exact .inl ⟨atUr.area_pos, inner (by simp [edges]), inner (by simp [edges]), upper⟩
  · have other : 0 ≤ Point.area outline.ul outline.lr p := by
      rw [Point.area_swap]
      omega
    exact .inr ⟨atLl.area_pos, inner (by simp [edges]), inner (by simp [edges]), other⟩

/-- **A point on the inner side of all edges is beyond the corners in no direction.** -/
theorem Encloses.spans (strict : outline.StrictlyConvex) (encloses : outline.Encloses p) :
    outline.Spans p := by
  rcases encloses.inTriangle strict with upper | lower
  · exact spans_of_inTriangle (by simp [corners]) (by simp [corners]) (by simp [corners]) upper
  · exact spans_of_inTriangle (by simp [corners]) (by simp [corners]) (by simp [corners]) lower

/-- A line makes no strict turn. -/
theorem StrictlyConvex.isLine_eq_false (strict : outline.StrictlyConvex) :
    outline.isLine = false := by
  have atUr : TurnsIn outline.ul outline.ur outline.lr := strict outline (by simp [rotations])
  have atUl : TurnsIn outline.ll outline.ul outline.ur :=
    strict outline.rotate.rotate.rotate (by simp [rotations])
  have apart {one two three : Point} (turns : TurnsIn one two three) : one ≠ two := by
    rintro rfl
    simp [TurnsIn] at turns
  simp [isLine, apart atUr, (apart atUl).symm]

theorem insideEdges_value (fits : outline.Narrow) (pFits : p.Narrow) :
    (outline.insideEdges p).Gives Allowed (· = decide (outline.Encloses p)) := by
  have both {first second : Checked Bool} {One Two : Prop} [Decidable One] [Decidable Two]
      (one : first.Gives Allowed (· = decide One)) (two : second.Gives Allowed (· = decide Two)) :
      (first.andThen second).Gives Allowed (· = decide (One ∧ Two)) := by
    simp only [Checked.andThen, Checked.gives_bind, Checked.gives_ite, Checked.gives_pure]
    refine one.mono fun value same => ?_
    by_cases holds : One
    · simpa [same, holds] using two
    · simp [same, holds]
  have sides : (outline.insideEdges p).Gives Allowed _ :=
    both (Point.innerSide_area fits.ul fits.ur pFits) <|
      both (Point.innerSide_area fits.ur fits.lr pFits) <|
        both (Point.innerSide_area fits.lr fits.ll pFits) <|
          Point.innerSide_area fits.ll fits.ul pFits
  refine sides.mono fun inside same => ?_
  rw [same]
  exact decide_eq_decide.mpr (by simp [Encloses, edges])

/-- **The rejection by corners is a shortcut.**  A strictly convex outline holds the points on the
inner side of its edges. -/
theorem contains_eq_insideEdges (fits : outline.Narrow) (strict : outline.StrictlyConvex)
    (pFits : p.Narrow) : outline.contains p = outline.insideEdges p := by
  by_cases beyond : outline.beyondCorners p = true
  · obtain ⟨inside, tested, same⟩ :=
      Checked.gives_false_iff.mp (insideEdges_value (p := p) fits pFits)
    have outside : ¬ outline.Encloses p := by
      intro encloses
      rw [beyondCorners_of_spans (encloses.spans strict)] at beyond
      cases beyond
    rw [contains, if_pos beyond, tested, same, decide_eq_false outside]
    rfl
  · rw [contains, if_neg beyond, strict.isLine_eq_false]
    rfl

/-- **The rejections are pure shortcuts.**  For every strictly convex outline with corners in words
of 16 bits, listed clockwise, and every point in such words: containment has a value, and it says
that all four edge tests hold; an outline that holds the point is rejected at no threshold up to
80. -/
theorem rejections_shortcut (fits : outline.Narrow) (strict : outline.StrictlyConvex)
    (pFits : p.Narrow) :
    (∃ inside, outline.contains p = .ok inside ∧ outline.insideEdges p = .ok inside ∧
      (inside = true ↔
        ∀ edge ∈ outline.edges, Point.innerSide edge.1 edge.2 p = .ok true)) ∧
    ∀ threshold : Nat, threshold ≤ 80 → outline.contains p = .ok true →
      outline.quickReject p threshold = .ok false := by
  constructor
  · obtain ⟨inside, tested, same⟩ :=
      Checked.gives_false_iff.mp (insideEdges_value (p := p) fits pFits)
    refine ⟨inside, (contains_eq_insideEdges fits strict pFits).trans tested, tested, ?_⟩
    rw [same, decide_eq_true_iff, Encloses]
    refine forall₂_congr fun edge member => ?_
    obtain ⟨startIn, stopIn⟩ := corners_of_edges edge member
    obtain ⟨side, found, value⟩ := Checked.gives_false_iff.mp
      (Point.innerSide_area (fits.corner _ startIn) (fits.corner _ stopIn) pFits)
    rw [found, value, Except.ok.injEq, decide_eq_true_iff]
  · intro threshold small holds
    have spans : outline.Spans p := by
      obtain ⟨inside, found, spans⟩ := Checked.gives_false_iff.mp (contains_spans fits pFits)
      exact spans (Except.ok.inj (found.symm.trans holds))
    have gives : (outline.quickReject p threshold).Gives (fun _ => False) _ :=
      quickReject_gives (by omega) pFits
    obtain ⟨rejected, found, far⟩ := Checked.gives_false_iff.mp gives
    cases rejected with
    | false => exact found
    | true =>
      -- a rejection would put the point at a distance from itself
      have := far rfl p spans
      omega

/-- A trapezoid, and a point just inside its slanted left edge. -/
theorem rejections_shortcut_slanted :
    let slanted : Outline := ⟨⟨20, 0⟩, ⟨80, 0⟩, ⟨100, 50⟩, ⟨0, 50⟩⟩
    let beside : Point := ⟨17, 10⟩
    slanted.Narrow ∧ slanted.StrictlyConvex ∧ beside.Narrow ∧ slanted.contains beside = .ok true ∧
      (∃ inside, slanted.contains beside = .ok inside ∧ slanted.insideEdges beside = .ok inside ∧
        (inside = true ↔
          ∀ edge ∈ slanted.edges, Point.innerSide edge.1 edge.2 beside = .ok true)) ∧
      ∀ threshold : Nat, threshold ≤ 80 → slanted.contains beside = .ok true →
        slanted.quickReject beside threshold = .ok false := by
  intro slanted beside
  have fits : slanted.Narrow :=
    ⟨⟨by decide, by decide⟩, ⟨by decide, by decide⟩, ⟨by decide, by decide⟩,
      ⟨by decide, by decide⟩⟩
  have strict : slanted.StrictlyConvex := by decide
  have pFits : beside.Narrow := ⟨by decide, by decide⟩
  exact ⟨fits, strict, pFits, rfl, rejections_shortcut fits strict pFits⟩

end Outline

end Adventure
