import Adventure.Data.Checked

/-!
# Points of a room

A point is a pair of pixel coordinates, `x` to the right and `y` downward.
Distances are compared by their squares, cut off at the greatest unsigned word.
-/

set_option autoImplicit false

namespace Adventure

/-- A pixel of a room. -/
structure Point where
  x : Int
  y : Int
  deriving DecidableEq, Repr, Inhabited

namespace Point

/-- The squared distance between two points, cut off at the greatest unsigned word. -/
def distSq (p q : Point) : Checked Nat := do
  let dx ← Word.sub32 p.x q.x
  let dy ← Word.sub32 p.y q.y
  pure (Word.addCapped (Word.squareCapped dx) (Word.squareCapped dy))

/-- Whether `p` lies on the inner side of the edge from `start` to `stop`, for an
outline listed clockwise on a screen whose `y` axis points down.  Points on the
edge's line count as inside. -/
def innerSide (start stop p : Point) : Checked Bool := do
  let edgeY ← Word.sub32 stop.y start.y
  let overX ← Word.sub32 p.x start.x
  let overY ← Word.sub32 p.y start.y
  let edgeX ← Word.sub32 stop.x start.x
  pure (decide (edgeY * overX ≤ overY * edgeX))

end Point

end Adventure
