import Adventure.Proofs.Geometry.Convex
import Adventure.Proofs.Geometry.Reprojection
import Adventure.Proofs.Room.NearestBox

/-!
# Snapping a snapped point again

A point that is snapped into a box is the nearest point of an edge, and rounded when the edge
slants.  Snapping it again mostly leaves it alone: a corner of a convex box is inside, and on an
edge along an axis or along a diagonal it is its own nearest point.  Inside any other edge it may
be rounded a second time.  Then its own box is still at most a pixel away, so whatever box is
nearest, the point does not go farther than that.
-/

set_option autoImplicit false

namespace Adventure

variable {Allowed : Fault → Prop}

open Word

/-! ## Distances of a pixel -/

theorem Point.Beside.distSq_le {p q : Point} (beside : q.Beside p) :
    addCapped (squareCapped (p.x - q.x)) (squareCapped (p.y - q.y)) ≤ 2 := by
  have square : ∀ d : Int, d.natAbs ≤ 1 → squareCapped d ≤ 1 := by
    intro d small
    have product : d.natAbs * d.natAbs ≤ 1 * 1 := Nat.mul_le_mul small small
    unfold squareCapped
    omega
  have x := square (p.x - q.x) (by have := beside.x; omega)
  have y := square (p.y - q.y) (by have := beside.y; omega)
  unfold addCapped
  omega

theorem Point.beside_of_distSq_le {p q : Point}
    (near : addCapped (squareCapped (p.x - q.x)) (squareCapped (p.y - q.y)) ≤ 2) :
    q.Beside p := by
  have square : ∀ d : Int, squareCapped d ≤ 2 → d.natAbs ≤ 1 := by
    intro d small
    by_contra large
    have product : 2 * 2 ≤ d.natAbs * d.natAbs := Nat.mul_le_mul (by omega) (by omega)
    unfold squareCapped greatestUnsigned32 at small
    omega
  unfold addCapped greatestUnsigned32 at near
  have x := square (p.x - q.x) (by omega)
  have y := square (p.y - q.y) (by omega)
  exact ⟨by omega, by omega⟩

/-! ## The nearest edge -/

namespace Outline

variable {outline : Outline} {p q : Point}

/-- The point is the projection of another one onto a slanted edge and no corner, so that it has
been rounded. -/
structure Rounded (outline : Outline) (p q : Point) : Prop where
  offCorners : q ∉ outline.corners
  slanted : ∃ edge ∈ outline.edges,
    ¬ Segment.IsEven (edge.2.x - edge.1.x) (edge.2.y - edge.1.y) ∧
      Segment.closest edge.1 edge.2 p = .ok q

/-- A point inside an edge that is projected onto the outline again comes out beside itself, and
where it was if the edge is even. -/
theorem closest_of_onSegment (fits : outline.Narrow) (qFits : q.Narrow) {edge : Point × Point}
    (member : edge ∈ outline.edges) (on : Segment.OnSegment edge.1 edge.2 q) :
    ∃ again distance, outline.closest q = .ok (again, distance) ∧ distance ≤ 2 ∧
      (Segment.IsEven (edge.2.x - edge.1.x) (edge.2.y - edge.1.y) → distance = 0) := by
  obtain ⟨startIn, stopIn⟩ := corners_of_edges _ member
  obtain ⟨foot, onEdge, beside, same⟩ := Checked.gives_false_iff.mp
    (Segment.closest_again (fits.corner _ startIn) (fits.corner _ stopIn) qFits on)
  obtain ⟨⟨again, distance⟩, found, -⟩ := Checked.gives_false_iff.mp (closest_found fits qFits)
  have searched : (outline.closest q).Gives (fun _ => True) _ := closest_searched
  rw [found] at searched
  have xBeside := beside.x
  have yBeside := beside.y
  obtain ⟨qx, qy⟩ := qFits
  have least := searched.least edge member foot _ onEdge
    (Point.distSq_eq (by omega) (by omega))
  refine ⟨again, distance, found, Nat.le_trans least beside.distSq_le, fun even => ?_⟩
  rw [same even, Int.sub_self, Int.sub_self] at least
  exact Nat.le_zero.mp least

/-- **The nearest point of a convex outline is near it in turn**: the outline holds it or comes
within a pixel of it, and leaves it where it is unless it has been rounded. -/
theorem closest_again (fits : outline.Narrow) (convex : outline.Convex) (pFits : p.Narrow)
    (qFits : q.Narrow) {distance : Nat} (closest : outline.closest p = .ok (q, distance))
    (near : distance < farAway) :
    outline.contains q = .ok true ∨ ∃ again apart, outline.closest q = .ok (again, apart) ∧
      apart ≤ 2 ∧ (¬ outline.Rounded p q → apart = 0) := by
  have searched : (outline.closest p).Gives (fun _ => True) _ := closest_searched
  rw [closest] at searched
  rcases searched.origin with far | ⟨edge, member, onEdge, -⟩
  · cases far
    exact absurd near (Nat.lt_irrefl _)
  dsimp only at onEdge
  by_cases corner : q ∈ outline.corners
  · exact .inl (contains_corner fits convex corner)
  obtain ⟨startIn, stopIn⟩ := corners_of_edges _ member
  have place : (Segment.closest edge.1 edge.2 p).Gives (fun _ => False) _ :=
    Segment.closest_cases (fits.corner _ startIn) (fits.corner _ stopIn) pFits
  rw [onEdge] at place
  have on : Segment.OnSegment edge.1 edge.2 q := by
    rcases place with (atStart | atStop) | on
    · exact absurd (atStart ▸ startIn) corner
    · exact absurd (atStop ▸ stopIn) corner
    · exact on
  obtain ⟨again, apart, found, small, zero⟩ := closest_of_onSegment fits qFits member on
  refine .inr ⟨again, apart, found, small, fun plain => zero ?_⟩
  by_contra slanted
  exact plain ⟨corner, edge, member, slanted, onEdge⟩

end Outline

namespace Room

variable {room : Room} {p q : Point} {first : BoxId} {isPlayer : Bool} {snapped : Snapped}
  {box : WalkBox} {index : Nat}

/-- A point that touches a box is left where it is. -/
theorem Nearest.stays (nearest : room.Nearest p first isPlayer snapped)
    (enters : room.Enters first isPlayer box index) (touches : Touches p box) :
    snapped.pos = p := by
  cases nearest with
  | touching => rfl
  | near _ _ apart _ least =>
    exact absurd touches (not_touches_of_keeps ((least _ _ enters).mono apart))
  | nowhere none_ =>
    exact absurd touches (not_touches_of_keeps ((none_ _ _ enters).mono (by decide)))

/-- A point that has a box beside it is left beside where it is. -/
theorem Nearest.beside (fits : ∀ box ∈ room.boxes, box.outline.Narrow) (pFits : p.Narrow)
    (nearest : room.Nearest p first isPlayer snapped)
    (enters : room.Enters first isPlayer box index) {distance : Nat}
    (closest : box.outline.closest p = .ok (q, distance)) (small : distance ≤ 2) :
    snapped.pos.Beside p := by
  cases nearest with
  | touching => exact .refl p
  | @near other otherIndex place apart enters' closest' _ inReach least _ =>
    have nearer := (least _ _ enters).le_distance closest
    have otherFits := fits _ (List.mem_of_getElem? enters'.found)
    have found : (other.outline.closest p).Gives (fun _ => False) _ :=
      Outline.closest_found otherFits pFits
    rw [closest'] at found
    rcases found with far | ⟨spans, measured⟩
    · cases far
      exact absurd inReach (by decide)
    · obtain ⟨qx, qy⟩ := spans.narrow otherFits
      obtain ⟨px, py⟩ := pFits
      rw [Point.distSq_eq (by omega) (by omega)] at measured
      have size : addCapped (squareCapped (p.x - place.x)) (squareCapped (p.y - place.y)) = apart :=
        Except.ok.inj measured
      have beside : place.Beside p := Point.beside_of_distSq_le (by omega)
      exact beside
  | nowhere none_ =>
    have far := (none_ _ _ enters).le_distance closest
    omega

/-- **Snapping a snapped point again leaves it where it is, or beside that.**  It moves only when
it has been rounded onto a slanted edge of its box, off the corners. -/
theorem snap_again (fits : ∀ box ∈ room.boxes, box.outline.Narrow)
    (convex : ∀ box ∈ room.boxes, box.outline.Convex) (pFits : p.Narrow) (first : BoxId)
    (isPlayer : Bool) :
    ∃ snapped again, room.snap p first isPlayer = .ok snapped ∧
      room.snap snapped.pos first isPlayer = .ok again ∧
      (again.pos = snapped.pos ∨
        again.pos.Beside snapped.pos ∧
          ∃ box index, room.Enters first isPlayer box index ∧
            snapped.box = some (UInt8.ofNat index) ∧ box.outline.Rounded p snapped.pos) := by
  obtain ⟨snapped, found, nearest⟩ :=
    Checked.gives_false_iff.mp (snap_gives fits pFits first isPlayer)
  have posFits := nearest.narrow fits pFits
  obtain ⟨again, foundAgain, nearestAgain⟩ :=
    Checked.gives_false_iff.mp (snap_gives fits posFits first isPlayer)
  refine ⟨snapped, again, found, foundAgain, ?_⟩
  cases nearest with
  | touching enters touches => exact .inl (nearestAgain.stays enters touches)
  | nowhere =>
    cases found.symm.trans foundAgain
    exact .inl rfl
  | @near box index q distance enters closest _ inReach =>
    have member := List.mem_of_getElem? enters.found
    have near : distance < Outline.farAway := Nat.lt_trans inReach (by decide)
    rcases Outline.closest_again (fits _ member) (convex _ member) pFits posFits closest near with
      inside | ⟨next, apart, closestAgain, small, zero⟩
    · exact .inl (nearestAgain.stays enters (.inl inside))
    · by_cases rounded : box.outline.Rounded p q
      · exact .inr ⟨nearestAgain.beside fits posFits enters closestAgain small,
          box, index, enters, rfl, rounded⟩
      · have touches : Touches q box := .inr ⟨next, zero rounded ▸ closestAgain⟩
        exact .inl (nearestAgain.stays enters touches)

/-- Between the upper slope and the lower one a point is rounded twice, and comes out a pixel
away. -/
theorem snap_again_slopes :
    ((∀ box ∈ slopes.boxes, box.outline.Narrow) ∧ (∀ box ∈ slopes.boxes, box.outline.Convex) ∧
        Point.Narrow ⟨60, 95⟩) ∧
      slopes.snap ⟨60, 95⟩ 0 true = .ok ⟨⟨43, 137⟩, some 2⟩ ∧
      slopes.snap ⟨43, 137⟩ 0 true = .ok ⟨⟨42, 136⟩, some 2⟩ ∧
      Point.Beside ⟨42, 136⟩ ⟨43, 137⟩ ∧
      ∃ box index, slopes.Enters 0 true box index ∧ some 2 = some (UInt8.ofNat index) ∧
        box.outline.Rounded ⟨60, 95⟩ ⟨43, 137⟩ := by
  have pFits : Point.Narrow ⟨60, 95⟩ := ⟨by decide, by decide⟩
  have convex : ∀ box ∈ slopes.boxes, box.outline.Convex := by decide
  have once : slopes.snap ⟨60, 95⟩ 0 true = .ok ⟨⟨43, 137⟩, some 2⟩ := by decide
  have twice : slopes.snap ⟨43, 137⟩ 0 true = .ok ⟨⟨42, 136⟩, some 2⟩ := by decide
  obtain ⟨snapped, again, found, foundAgain, stays | ⟨beside, rounded⟩⟩ :=
    snap_again slopes_narrow convex pFits 0 true
  · cases found.symm.trans once
    cases foundAgain.symm.trans twice
    exact absurd stays (by decide)
  · cases found.symm.trans once
    cases foundAgain.symm.trans twice
    exact ⟨⟨slopes_narrow, convex, pFits⟩, once, twice, beside, rounded⟩

/-- At the left end of the upper slope a snapped point moves on into the corner. -/
theorem slopes_snap_on :
    slopes.boxes.length ≤ 256 ∧
      (∀ box ∈ slopes.boxes, box.outline.Narrow ∧ box.outline.Convex) ∧ Point.Narrow ⟨2, -2⟩ ∧
      ∃ snapped again, slopes.snap ⟨2, -2⟩ 0 false = .ok snapped ∧
        slopes.snap snapped.pos 0 false = .ok again ∧ again.pos ≠ snapped.pos :=
  ⟨by decide, fun box member => ⟨slopes_narrow box member, by revert box; decide⟩,
    ⟨by decide, by decide⟩, ⟨⟨1, 0⟩, some 0⟩, ⟨⟨0, 0⟩, some 0⟩, by decide, by decide, by decide⟩

end Room

end Adventure
