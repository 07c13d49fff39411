import Adventure.Geometry.Point

/-!
# Projection onto a segment

The nearest point of a segment is computed with divisions that round toward zero,
so on a slanted segment it may sit a pixel off the true foot of the perpendicular.
The result is then held between the end points along the segment's longer axis.
-/

set_option autoImplicit false

namespace Adventure.Segment

/-- The projection onto the whole line of a slanted segment that is wider than high. -/
def footWide (start : Point) (dx dy dist : Int) (p : Point) : Checked Point := do
  let a ← Word.div64 (← Word.mul64 start.x dy) dx
  let b ← Word.div64 (← Word.mul64 p.x dx) dy
  let total ← Word.add64 (← Word.sub64 (← Word.add64 a b) start.y) p.y
  let c ← Word.div64 (← Word.mul64 (← Word.mul64 total dy) dx) dist
  let rise ← Word.div64 (← Word.mul64 c dy) dx
  let y ← Word.add64 (← Word.sub64 rise a) start.y
  pure ⟨Word.wrap32 c, Word.wrap32 y⟩

/-- The projection onto the whole line of a slanted segment that is at least as high as wide. -/
def footHigh (start : Point) (dx dy dist : Int) (p : Point) : Checked Point := do
  let a ← Word.div64 (← Word.mul64 start.y dx) dy
  let b ← Word.div64 (← Word.mul64 p.y dy) dx
  let total ← Word.add64 (← Word.sub64 (← Word.add64 a b) start.x) p.x
  let c ← Word.div64 (← Word.mul64 (← Word.mul64 total dy) dx) dist
  let run ← Word.div64 (← Word.mul64 c dx) dy
  let x ← Word.add64 (← Word.sub64 run a) start.x
  pure ⟨Word.wrap32 x, Word.wrap32 c⟩

/-- The projection of `p` onto the whole line through `start` in direction `(dx, dy)`. -/
def foot (start : Point) (dx dy : Int) (p : Point) : Checked Point :=
  if dx = 0 then pure ⟨start.x, p.y⟩
  else if dy = 0 then pure ⟨p.x, start.y⟩
  else do
    let dist ← Word.add64 (dx * dx) (dy * dy)
    if dx.natAbs > dy.natAbs then footWide start dx dy dist p else footHigh start dx dy dist p

/-- Replaces a point past an end of the segment, along one axis, by that end. -/
def holdBetween (along : Point → Int) (forward : Bool) (start stop q : Point) : Point :=
  if forward then
    if along q < along start then start else if along q > along stop then stop else q
  else
    if along q > along start then start else if along q < along stop then stop else q

/-- The point of the segment from `start` to `stop` nearest to `p`. -/
def closest (start stop p : Point) : Checked Point := do
  let dx ← Word.sub32 stop.x start.x
  let dy ← Word.sub32 stop.y start.y
  let q ← foot start dx dy p
  if dy.natAbs < dx.natAbs then pure (holdBetween Point.x (decide (dx > 0)) start stop q)
  else pure (holdBetween Point.y (decide (dy > 0)) start stop q)

end Adventure.Segment
