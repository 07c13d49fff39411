import Adventure.Geometry.Segment

/-!
# Outlines of walk boxes

An outline is a quadrilateral given by its corners, listed clockwise from the
upper left.  Containment is decided by the four edges, after a cheap test against
the corners; an outline whose opposite corners coincide is a walk line, and then
points close to the line count as contained.
-/

set_option autoImplicit false

namespace Adventure

/-- Four corners, clockwise from the upper left. -/
structure Outline where
  ul : Point
  ur : Point
  lr : Point
  ll : Point
  deriving DecidableEq, Repr, Inhabited

namespace Outline

/-- The squared distance up to which a point counts as lying on a walk line. -/
def lineTolerance : Nat := 4

/-- The distance that stands for "no edge was near enough". -/
def farAway : Nat := 0xFFFFFF

/-- The outline read from its next corner on. -/
def rotate (o : Outline) : Outline := ⟨o.ur, o.lr, o.ll, o.ul⟩

/-- The outline read from each of its corners in turn. -/
def rotations (o : Outline) : List Outline :=
  [o, o.rotate, o.rotate.rotate, o.rotate.rotate.rotate]

/-- The corners in order. -/
def corners (o : Outline) : List Point := [o.ul, o.ur, o.lr, o.ll]

/-- The edges in order, each from one corner to the next. -/
def edges (o : Outline) : List (Point × Point) :=
  [(o.ul, o.ur), (o.ur, o.lr), (o.lr, o.ll), (o.ll, o.ul)]

/-- Whether two pairs of neighbouring corners coincide, so that the box is a line. -/
def isLine (o : Outline) : Bool :=
  (o.ul == o.ur && o.lr == o.ll) || (o.ul == o.ll && o.ur == o.lr)

/-- Whether `p` lies beyond every corner in one of the four directions. -/
def beyondCorners (o : Outline) (p : Point) : Bool :=
  o.corners.all (fun c => decide (p.x < c.x)) || o.corners.all (fun c => decide (p.x > c.x)) ||
    o.corners.all (fun c => decide (p.y < c.y)) || o.corners.all (fun c => decide (p.y > c.y))

/-- Whether `p` lies within the tolerance of the line from `ul` to `lr`. -/
def nearLine (o : Outline) (p : Point) : Checked Bool := do
  let nearest ← Segment.closest o.ul o.lr p
  let distance ← p.distSq nearest
  pure (decide (distance ≤ lineTolerance))

/-- Whether `p` lies on the inner side of all four edges. -/
def insideEdges (o : Outline) (p : Point) : Checked Bool :=
  (Point.innerSide o.ul o.ur p).andThen <|
    (Point.innerSide o.ur o.lr p).andThen <|
      (Point.innerSide o.lr o.ll p).andThen <| Point.innerSide o.ll o.ul p

/-- Whether the outline holds a point. -/
def contains (o : Outline) (p : Point) : Checked Bool :=
  if o.beyondCorners p then pure false
  else do
    let onLine ← if o.isLine then o.nearLine p else pure false
    if onLine then pure true else o.insideEdges p

/-- Keeps the nearer of a candidate so far and the projection onto one more edge. -/
def nearer (p : Point) (best : Point × Nat) (edge : Point × Point) : Checked (Point × Nat) := do
  let candidate ← Segment.closest edge.1 edge.2 p
  let distance ← p.distSq candidate
  pure (if distance < best.2 then (candidate, distance) else best)

/-- The point of the outline nearest to `p`, with its squared distance. -/
def closest (o : Outline) (p : Point) : Checked (Point × Nat) :=
  o.edges.foldlM (nearer p) (p, farAway)

/-- Whether `p` is farther than `threshold` pixels from every corner along some axis. -/
def quickReject (o : Outline) (p : Point) (threshold : Int) : Checked Bool := do
  let left ← Word.sub32 p.x threshold
  if o.corners.all (fun c => decide (left > c.x)) then pure true
  else
    let right ← Word.add32 p.x threshold
    if o.corners.all (fun c => decide (right < c.x)) then pure true
    else
      let top ← Word.sub32 p.y threshold
      if o.corners.all (fun c => decide (top > c.y)) then pure true
      else
        let bottom ← Word.add32 p.y threshold
        pure (o.corners.all fun c => decide (bottom < c.y))

end Outline

end Adventure
