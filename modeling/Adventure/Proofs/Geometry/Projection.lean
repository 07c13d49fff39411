import Adventure.Proofs.Geometry.Reprojection

/-!
# Projections in whole numbers

A projection is computed in words of 64 bits and cast to words of 32 bits at the end.  As long as
all coordinates fit words of 16 bits, nobody notices: no step leaves its word and no cast drops a
bit, so the projection is what the same formula gives in whole numbers of any size.  It lies in
the rectangle that the ends of the segment span, and on a segment along an axis it is nearer than
any other pixel of the segment.

The search for the nearest point of an outline compares squared distances that are cut off.  As
long as one of the projections is nearer than the distance that stands for "far away", what the
search answers is that projection with its true distance.
-/

set_option autoImplicit false

namespace Adventure

variable {Allowed : Fault → Prop}

open Word

/-! ## Distances -/

/-- The squared distance between two points, in whole numbers of any size. -/
def Point.sqDist (p q : Point) : Int := (p.x - q.x) * (p.x - q.x) + (p.y - q.y) * (p.y - q.y)

theorem square_lt {a b : Int} (less : a.natAbs < b.natAbs) : a * a < b * b := by
  rw [← Int.natAbs_mul_self, ← Int.natAbs_mul_self]
  exact Int.ofNat_lt.mpr (Nat.mul_self_lt_mul_self less)

/-- Cutting off only makes a distance smaller. -/
theorem Word.addCapped_le (a b : Int) :
    (addCapped (squareCapped a) (squareCapped b) : Int) ≤ a * a + b * b := by
  rw [← Int.natAbs_mul_self, ← Int.natAbs_mul_self]
  unfold addCapped squareCapped
  omega

/-- A distance below the greatest word has not been cut off. -/
theorem Word.addCapped_eq {a b : Int}
    (less : addCapped (squareCapped a) (squareCapped b) < greatestUnsigned32) :
    (addCapped (squareCapped a) (squareCapped b) : Int) = a * a + b * b := by
  rw [← Int.natAbs_mul_self, ← Int.natAbs_mul_self]
  unfold addCapped squareCapped at *
  omega

/-! ## Segments -/

namespace Segment

variable {start stop p q : Point}

/-- The point lies in the rectangle that the ends of a segment span.  If the segment runs along an
axis, the rectangle is the segment. -/
structure InRectangle (start stop q : Point) : Prop where
  x : Between start.x stop.x q.x
  y : Between start.y stop.y q.y

/-- Along its axis, a point that is held between two ends comes nearer to where it was than any
other value between them. -/
theorem holdBetween_nearest (along : Point → Int) {forward : Bool}
    (direction : forward = true ↔ along stop - along start > 0) (q : Point) {z : Int}
    (between : Between (along start) (along stop) z) :
    z ≠ along (holdBetween along forward start stop q) →
      (along q - along (holdBetween along forward start stop q)).natAbs < (along q - z).natAbs := by
  unfold holdBetween
  cases forward
  · have back : ¬ along stop - along start > 0 := fun forth => by cases direction.mpr forth
    rw [if_neg Bool.false_ne_true]
    split
    · omega
    · split <;> omega
  · have forth := direction.mp rfl
    rw [if_pos rfl]
    split
    · omega
    · split <;> omega

/-- On an upright segment only the height of a point counts. -/
theorem projection_upright (upright : start.x = stop.x) (p : Point) : projection start stop p =
    holdBetween Point.y (decide (stop.y - start.y > 0)) start stop ⟨start.x, p.y⟩ := by
  have none_ : stop.x - start.x = 0 := by omega
  rw [projection_high (by omega), plainFoot, if_pos none_]

/-- On a level segment only the place of a point from left to right counts. -/
theorem projection_level (level : start.y = stop.y) (wide : start.x ≠ stop.x) (p : Point) :
    projection start stop p =
      holdBetween Point.x (decide (stop.x - start.x > 0)) start stop ⟨p.x, start.y⟩ := by
  have none_ : stop.y - start.y = 0 := by omega
  have real : ¬ stop.x - start.x = 0 := by omega
  rw [projection_wide (by omega), plainFoot, if_neg real, if_pos none_]

/-- **On a segment along an axis the projection is nearer than any other point.** -/
theorem projection_nearest (even : start.x = stop.x ∨ start.y = stop.y) {r : Point}
    (inside : InRectangle start stop (projection start stop p))
    (rInside : InRectangle start stop r) (other : r ≠ projection start stop p) :
    p.sqDist (projection start stop p) < p.sqDist r := by
  by_cases upright : start.x = stop.x
  · have sameX : r.x = (projection start stop p).x := by
      have := inside.x
      have := rInside.x
      omega
    have less := holdBetween_nearest Point.y decide_eq_true_iff ⟨start.x, p.y⟩ rInside.y
    rw [← projection_upright upright p] at less
    have nearer := square_lt (less fun sameY => other (Point.eq_of_coordinates sameX sameY))
    rw [Point.sqDist, Point.sqDist, sameX]
    exact Int.add_lt_add_left nearer _
  · have level : start.y = stop.y := even.resolve_left upright
    have sameY : r.y = (projection start stop p).y := by
      have := inside.y
      have := rInside.y
      omega
    have less := holdBetween_nearest Point.x decide_eq_true_iff ⟨p.x, start.y⟩ rInside.x
    rw [← projection_level level upright p] at less
    have nearer := square_lt (less fun sameX => other (Point.eq_of_coordinates sameX sameY))
    rw [Point.sqDist, Point.sqDist, sameY]
    exact Int.add_lt_add_right nearer _

end Segment

/-! ## Outlines -/

namespace Outline

variable {outline : Outline} {p q : Point} {distance : Nat}

/-- The nearest point of an outline, with its true distance: it is the projection onto an edge, and
no other edge has a nearer one. -/
structure NearestOn (outline : Outline) (p q : Point) (distance : Nat) : Prop where
  spans : outline.Spans q
  measured : (distance : Int) = p.sqDist q
  onEdge : ∃ edge ∈ outline.edges, Segment.closest edge.1 edge.2 p = .ok q
  least : ∀ edge ∈ outline.edges, ∃ foot, Segment.closest edge.1 edge.2 p = .ok foot ∧
    (distance : Int) ≤ p.sqDist foot

/-- **What the search for the nearest point answers can be relied on** unless it is "far away". -/
theorem closest_nearestOn (fits : outline.Narrow) (pFits : p.Narrow) :
    (outline.closest p).Gives Allowed fun best =>
      best.2 < farAway → outline.NearestOn p best.1 best.2 := by
  refine ((closest_found fits pFits).and_value closest_searched).mono ?_
  rintro ⟨q, distance⟩ ⟨found, searched⟩ near
  dsimp only at *
  have inside : outline.Spans q ∧ p.distSq q = .ok distance := by
    rcases found with far | found
    · cases far
      exact absurd near (Nat.lt_irrefl _)
    · exact found
  obtain ⟨spans, measured⟩ := inside
  have measure {foot : Point} (spans : outline.Spans foot) : p.distSq foot =
      .ok (addCapped (squareCapped (p.x - foot.x)) (squareCapped (p.y - foot.y))) := by
    obtain ⟨fx, fy⟩ := spans.narrow fits
    obtain ⟨px, py⟩ := pFits
    exact Point.distSq_eq (by omega) (by omega)
  refine ⟨spans, ?_, ?_, ?_⟩
  · obtain rfl := Except.ok.inj ((measure spans).symm.trans measured)
    exact addCapped_eq (Nat.lt_trans near (by decide))
  · rcases searched.origin with far | ⟨edge, member, onEdge, -⟩
    · cases far
      exact absurd near (Nat.lt_irrefl _)
    · exact ⟨edge, member, onEdge⟩
  · intro edge member
    obtain ⟨startIn, stopIn⟩ := corners_of_edges edge member
    obtain ⟨foot, onEdge, x, y⟩ := Checked.gives_false_iff.mp
      (Segment.closest_between (fits.corner _ startIn) (fits.corner _ stopIn) pFits)
    have least := searched.least edge member foot _ onEdge
      (measure (spans_of_between startIn stopIn x y))
    exact ⟨foot, onEdge, Int.le_trans (Int.ofNat_le.mpr least) (addCapped_le _ _)⟩

end Outline

/-- **Projections are exact, and the distances of outlines are sound.**  For coordinates in words of
16 bits: the projection onto a segment is computed without a fault, it is the same as in whole
numbers of any size, and it lies in the rectangle of the segment; on a segment along an axis it
is nearer than any other point.  The nearest point of an outline, unless it is "far away", lies
between the corners, at the distance that is told, and no edge has a nearer projection; an outline
is rejected at a threshold up to 80 only if it is farther away than that. -/
theorem projections_sound {start stop p : Point} {outline : Outline} (startFits : start.Narrow)
    (stopFits : stop.Narrow) (fits : outline.Narrow) (pFits : p.Narrow) :
    (Segment.closest start stop p = .ok (Segment.projection start stop p) ∧
      Segment.InRectangle start stop (Segment.projection start stop p) ∧
      (start.x = stop.x ∨ start.y = stop.y → ∀ r, Segment.InRectangle start stop r →
        r ≠ Segment.projection start stop p →
        p.sqDist (Segment.projection start stop p) < p.sqDist r)) ∧
    ∃ q distance, outline.closest p = .ok (q, distance) ∧
      (distance < Outline.farAway → outline.NearestOn p q distance) ∧
      ∀ threshold : Nat, threshold ≤ 80 → ∃ rejected,
        outline.quickReject p threshold = .ok rejected ∧
        (rejected = true → threshold * threshold < distance) := by
  constructor
  · obtain ⟨_, found, rfl, -⟩ :=
      Checked.gives_false_iff.mp (Segment.closest_gives startFits stopFits pFits)
    have between : (Segment.closest start stop p).Gives (fun _ => False) _ :=
      Segment.closest_between startFits stopFits pFits
    rw [found] at between
    have inside : Segment.InRectangle start stop (Segment.projection start stop p) :=
      ⟨between.1, between.2⟩
    exact ⟨found, inside, fun even _ rInside other =>
      Segment.projection_nearest even inside rInside other⟩
  · obtain ⟨⟨q, distance⟩, found, nearest⟩ :=
      Checked.gives_false_iff.mp (Outline.closest_nearestOn fits pFits)
    refine ⟨q, distance, found, nearest, fun threshold small => ?_⟩
    have keeps : (outline.quickReject p threshold).Gives (fun _ => False) _ :=
      Outline.quickReject_keeps (by omega) fits pFits
    obtain ⟨rejected, tested, keeps⟩ := Checked.gives_false_iff.mp keeps
    exact ⟨rejected, tested, fun isRejected => (keeps isRejected).le_distance found⟩

/-- A point above a box that slants down to the right, and the slanted upper edge of that box. -/
theorem projections_sound_slope :
    let start : Point := ⟨0, 0⟩
    let stop : Point := ⟨100, 40⟩
    let slanted : Outline := ⟨start, stop, ⟨100, 60⟩, ⟨0, 20⟩⟩
    let above : Point := ⟨120, -60⟩
    (start.Narrow ∧ stop.Narrow ∧ slanted.Narrow ∧ above.Narrow) ∧
      Segment.closest start stop above = .ok ⟨82, 32⟩ ∧
      Segment.InRectangle start stop ⟨82, 32⟩ ∧
      slanted.closest above = .ok (⟨82, 32⟩, 9908) ∧ slanted.NearestOn above ⟨82, 32⟩ 9908 ∧
      slanted.quickReject above (59 : Nat) = .ok true ∧ 59 * 59 < 9908 := by
  intro start stop slanted above
  have startFits : start.Narrow := ⟨by decide, by decide⟩
  have stopFits : stop.Narrow := ⟨by decide, by decide⟩
  have fits : slanted.Narrow :=
    ⟨startFits, stopFits, ⟨by decide, by decide⟩, ⟨by decide, by decide⟩⟩
  have pFits : above.Narrow := ⟨by decide, by decide⟩
  have answer : slanted.closest above = .ok (⟨82, 32⟩, 9908) := by decide
  have rejection : slanted.quickReject above (59 : Nat) = .ok true := by decide
  obtain ⟨⟨projected, inside, -⟩, q, distance, found, nearest, far⟩ :=
    projections_sound startFits stopFits fits pFits
  cases found.symm.trans answer
  obtain ⟨rejected, tested, farther⟩ := far 59 (by decide)
  cases tested.symm.trans rejection
  exact ⟨⟨startFits, stopFits, fits, pFits⟩, projected, inside, answer, nearest (by decide),
    rejection, farther rfl⟩

end Adventure
