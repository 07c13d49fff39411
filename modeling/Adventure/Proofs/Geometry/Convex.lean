import Adventure.Proofs.Geometry.Nearest

/-!
# Convex outlines

An outline that is listed clockwise and turns to the inner side at every corner has all its
corners on the inner side of every edge.  Such an outline holds whatever lies on its edges along
the axes, its corners included.
-/

set_option autoImplicit false

namespace Adventure

variable {Allowed : Fault → Prop}

open Word

/-- The side of an edge on which a point lies, when all coordinates fit words of 16 bits. -/
theorem Point.innerSide_value {start stop p : Point} (startFits : start.Narrow)
    (stopFits : stop.Narrow) (pFits : p.Narrow) :
    (innerSide start stop p).Gives Allowed fun inside =>
      inside = decide ((stop.y - start.y) * (p.x - start.x) ≤
        (p.y - start.y) * (stop.x - start.x)) := by
  obtain ⟨sx, sy⟩ := startFits
  obtain ⟨tx, ty⟩ := stopFits
  obtain ⟨px, py⟩ := pFits
  simp only [innerSide, Checked.gives_bind, Checked.gives_pure]
  rw [gives_sub32 (by omega), gives_sub32 (by omega), gives_sub32 (by omega),
    gives_sub32 (by omega)]

theorem Checked.andThen_true {first second : Checked Bool}
    (one : first.Gives Allowed (· = true)) (two : second.Gives Allowed (· = true)) :
    (first.andThen second).Gives Allowed (· = true) := by
  simp only [andThen, gives_bind, gives_ite]
  refine one.mono fun value holds => ?_
  rw [if_pos holds]
  exact two

theorem Between.swap {a b z : Int} (between : Between a b z) : Between b a z := by
  rwa [Between, min_comm, max_comm]

/-- A factor keeps a number between two others, though it may swap them. -/
theorem Between.mul_right {a b z : Int} (between : Between a b z) (factor : Int) :
    Between (a * factor) (b * factor) (z * factor) := by
  wlog ordered : a ≤ b generalizing a b
  · exact (this between.swap (by omega)).swap
  rw [Between, min_eq_left ordered, max_eq_right ordered] at between
  obtain ⟨low, high⟩ := between
  rcases Int.le_total 0 factor with up | down
  · exact ⟨min_le_of_left_le (Int.mul_le_mul_of_nonneg_right low up),
      le_max_of_le_right (Int.mul_le_mul_of_nonneg_right high up)⟩
  · exact ⟨min_le_of_right_le (Int.mul_le_mul_of_nonpos_right high down),
      le_max_of_le_left (Int.mul_le_mul_of_nonpos_right low down)⟩

/-! ## Points of an edge along an axis -/

namespace Point

variable {edge : Point × Point} {p : Point}

/-- The point lies on a vertical edge: on its line, between its ends. -/
structure OnUpright (edge : Point × Point) (p : Point) : Prop where
  start : edge.1.x = p.x
  stop : edge.2.x = p.x
  between : Between edge.1.y edge.2.y p.y

/-- The point lies on a horizontal edge: on its line, between its ends. -/
structure OnLevel (edge : Point × Point) (p : Point) : Prop where
  start : edge.1.y = p.y
  stop : edge.2.y = p.y
  between : Between edge.1.x edge.2.x p.x

end Point

namespace Outline

variable {outline : Outline} {p q : Point}

/-- A convex outline that is listed clockwise: no corner lies on the outer side of an edge. -/
def Convex (outline : Outline) : Prop :=
  ∀ edge ∈ outline.edges, ∀ corner ∈ outline.corners,
    (edge.2.y - edge.1.y) * (corner.x - edge.1.x) ≤ (corner.y - edge.1.y) * (edge.2.x - edge.1.x)

instance (outline : Outline) : Decidable outline.Convex :=
  inferInstanceAs (Decidable (∀ edge ∈ outline.edges, ∀ corner ∈ outline.corners, _))

theorem beyondCorners_of_spans (spans : outline.Spans p) : outline.beyondCorners p = false := by
  simp only [beyondCorners, Bool.or_eq_false_iff, List.all_eq_false, decide_eq_true_eq, Int.not_lt]
  exact ⟨⟨⟨spans.left, spans.right⟩, spans.above⟩, spans.below⟩

/-- A point that is beyond the corners in no direction and on the inner side of every edge is
inside. -/
theorem contains_of_inner (fits : outline.Narrow) (spans : outline.Spans p)
    (inner : ∀ edge ∈ outline.edges,
      (edge.2.y - edge.1.y) * (p.x - edge.1.x) ≤ (p.y - edge.1.y) * (edge.2.x - edge.1.x)) :
    outline.contains p = .ok true := by
  have pFits := spans.narrow fits
  have side {start stop : Point} (edge : (start, stop) ∈ outline.edges) :
      (Point.innerSide start stop p).Gives (fun _ => False) (· = true) := by
    obtain ⟨startIn, stopIn⟩ := corners_of_edges _ edge
    refine (Point.innerSide_value (fits.corner _ startIn) (fits.corner _ stopIn) pFits).mono ?_
    rintro _ rfl
    exact decide_eq_true (inner _ edge)
  have inside : (outline.insideEdges p).Gives (fun _ => False) (· = true) :=
    Checked.andThen_true (side (by simp [edges])) <|
      Checked.andThen_true (side (by simp [edges])) <|
        Checked.andThen_true (side (by simp [edges])) (side (by simp [edges]))
  have held : (outline.contains p).Gives (fun _ => False) (· = true) := by
    simp only [contains, beyondCorners_of_spans spans, Bool.false_eq_true, if_false,
      Checked.gives_bind, Checked.gives_ite, Checked.gives_pure]
    split
    · refine (nearLine_gives fits pFits).mono fun onLine _ => ?_
      split
      · trivial
      · exact inside
    · exact inside
  obtain ⟨_, found, rfl⟩ := Checked.gives_false_iff.mp held
  exact found

/-- **A convex outline holds its corners.** -/
theorem contains_corner (fits : outline.Narrow) (convex : outline.Convex) {corner : Point}
    (member : corner ∈ outline.corners) : outline.contains corner = .ok true :=
  contains_of_inner fits
    ⟨⟨corner, member, Int.le_refl _⟩, ⟨corner, member, Int.le_refl _⟩,
      ⟨corner, member, Int.le_refl _⟩, ⟨corner, member, Int.le_refl _⟩⟩
    fun edge edgeIn => convex edge edgeIn corner member

/-- **A convex outline holds the points of its upright edges.** -/
theorem contains_of_onUpright (fits : outline.Narrow) (convex : outline.Convex)
    {edge : Point × Point} (member : edge ∈ outline.edges) (on : p.OnUpright edge) :
    outline.contains p = .ok true := by
  obtain ⟨startIn, stopIn⟩ := corners_of_edges edge member
  obtain ⟨start, stop, between⟩ := on
  refine contains_of_inner fits (spans_of_between startIn stopIn ?_ between) ?_
  · rw [start, stop]
    omega
  · intro side sideIn
    have first := convex side sideIn edge.1 startIn
    have last := convex side sideIn edge.2 stopIn
    rw [start] at first
    rw [stop] at last
    -- going along the edge the right side changes steadily, the left side does not
    have steady := (between.mul_right (side.2.x - side.1.x)).1
    simp only [Int.sub_mul] at first last ⊢
    omega

/-- **A convex outline holds the points of its level edges.** -/
theorem contains_of_onLevel (fits : outline.Narrow) (convex : outline.Convex)
    {edge : Point × Point} (member : edge ∈ outline.edges) (on : p.OnLevel edge) :
    outline.contains p = .ok true := by
  obtain ⟨startIn, stopIn⟩ := corners_of_edges edge member
  obtain ⟨start, stop, between⟩ := on
  refine contains_of_inner fits (spans_of_between startIn stopIn between ?_) ?_
  · rw [start, stop]
    omega
  · intro side sideIn
    have first := convex side sideIn edge.1 startIn
    have last := convex side sideIn edge.2 stopIn
    rw [start] at first
    rw [stop] at last
    have steady := (between.mul_right (side.2.y - side.1.y)).2
    rw [Int.mul_sub, Int.mul_comm (side.2.y - side.1.y)] at first last ⊢
    omega

/-! ## Strict turns -/

/-- Three corners that follow each other make a strict turn to the inner side. -/
def TurnsIn (one two three : Point) : Prop :=
  (two.y - one.y) * (three.x - one.x) < (three.y - one.y) * (two.x - one.x)

instance (one two three : Point) : Decidable (TurnsIn one two three) :=
  inferInstanceAs (Decidable ((two.y - one.y) * (three.x - one.x) <
    (three.y - one.y) * (two.x - one.x)))

theorem TurnsIn.next {one two three : Point} (turns : TurnsIn one two three) :
    TurnsIn two three one := by
  unfold TurnsIn at *
  linarith

/-- A strictly convex outline that is listed clockwise: every three corners that follow each other
make a strict turn to the inner side. -/
def StrictlyConvex (outline : Outline) : Prop :=
  ∀ turned ∈ outline.rotations, TurnsIn turned.ul turned.ur turned.lr

instance (outline : Outline) : Decidable outline.StrictlyConvex :=
  inferInstanceAs (Decidable (∀ turned ∈ outline.rotations, _))

/-- The corners that are not on an edge follow it or come before it, and there the outline turns
to the inner side. -/
theorem StrictlyConvex.convex (strict : outline.StrictlyConvex) : outline.Convex := by
  simp only [StrictlyConvex, rotations, rotate, List.forall_mem_cons, List.not_mem_nil,
    false_implies, implies_true, and_true] at strict
  obtain ⟨atUr, atLr, atLl, atUl⟩ := strict
  have ends (start stop : Point) :
      (stop.y - start.y) * (start.x - start.x) ≤ (start.y - start.y) * (stop.x - start.x) ∧
        (stop.y - start.y) * (stop.x - start.x) ≤ (stop.y - start.y) * (stop.x - start.x) := by
    simp
  simp only [Convex, edges, corners, List.forall_mem_cons, List.not_mem_nil, false_implies,
    implies_true, and_true]
  refine ⟨⟨(ends _ _).1, (ends _ _).2, Int.le_of_lt atUr, Int.le_of_lt atUl.next⟩,
    ⟨Int.le_of_lt atUr.next, (ends _ _).1, (ends _ _).2, Int.le_of_lt atLr⟩,
    ⟨Int.le_of_lt atLl, Int.le_of_lt atLr.next, (ends _ _).1, (ends _ _).2⟩,
    ⟨(ends _ _).2, Int.le_of_lt atUl, Int.le_of_lt atLl.next, (ends _ _).1⟩⟩

end Outline

end Adventure
