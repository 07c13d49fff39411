import Adventure.Actor.Basic
import Adventure.Geometry.Span
import Adventure.Room.Basic

/-!
# Crossing from one box into the next

On the way from a box to its neighbour an actor first walks to a point of the
border they share.  The border is looked for edge pair by edge pair, the first box
turning fastest.  When the neighbour is the last box of the way, the point is
chosen where the straight line to the destination crosses the border; if that line
stays inside the border, no intermediate point is needed at all.
-/

set_option autoImplicit false

namespace Adventure

/-- A stretch of border that two edges share. -/
inductive Border where
  /-- Both edges lie on the vertical line at `x`. -/
  | vertical (x : Int) (first second : Span)
  /-- Both edges lie on the horizontal line at `y`. -/
  | horizontal (y : Int) (first second : Span)
  deriving DecidableEq, Repr

namespace Border

/-- The border shared by the upper edges of two outlines on a vertical line. -/
def vertical? (a b : Outline) : Option Border :=
  if a.ul.x = a.ur.x ∧ a.ul.x = b.ul.x ∧ a.ul.x = b.ur.x then
    let first := Span.between a.ul.y a.ur.y
    let second := Span.between b.ul.y b.ur.y
    if first.overlaps second then some (vertical a.ul.x first second) else none
  else none

/-- The border shared by the upper edges of two outlines on a horizontal line. -/
def horizontal? (a b : Outline) : Option Border :=
  if a.ul.y = a.ur.y ∧ a.ul.y = b.ul.y ∧ a.ul.y = b.ur.y then
    let first := Span.between a.ul.x a.ur.x
    let second := Span.between b.ul.x b.ur.x
    if first.overlaps second then some (horizontal a.ul.y first second) else none
  else none

/-- The border shared by the upper edges of two outlines. -/
def ofUpperEdges? (pair : Outline × Outline) : Option Border :=
  match vertical? pair.1 pair.2 with
  | some border => some border
  | none => horizontal? pair.1 pair.2

/-- All pairs of readings of two outlines, the first outline turning fastest. -/
def readings (a b : Outline) : List (Outline × Outline) :=
  b.rotations.flatMap fun second => a.rotations.map fun first => (first, second)

/-- The first border that two outlines share. -/
def between? (a b : Outline) : Option Border := (readings a b).findSome? ofUpperEdges?

end Border

/-- How to get from one box into the next. -/
inductive Crossing where
  /-- The destination can be walked to in a straight line. -/
  | arrived
  /-- Walk to this point of the shared border first. -/
  | via (point : Point)
  /-- The boxes share no border. -/
  | notAdjacent
  deriving DecidableEq, Repr

namespace Crossing

/-- Where the straight line from `pos` to `dest` meets the vertical line at `x`.  A
step that rounds to zero on a falling or level line counts as one pixel up. -/
def meetVertical (pos dest : Point) (x : Int) : Checked Int := do
  let diffX ← Word.sub32 dest.x pos.x
  let rise ← Word.sub32 dest.y pos.y
  let reach ← Word.sub32 x pos.x
  let diffY ← Word.mul64 rise reach
  if diffX = 0 then pure pos.y
  else
    let quotient ← Word.div64 diffY diffX
    let step :=
      if quotient = 0 ∧ (diffY ≤ 0 ∨ diffX ≤ 0) ∧ (diffY ≥ 0 ∨ diffX ≥ 0) then -1 else quotient
    Word.add32 pos.y (Word.wrap32 step)

/-- Where the straight line from `pos` to `dest` meets the horizontal line at `y`. -/
def meetHorizontal (pos dest : Point) (y : Int) : Checked Int := do
  let diffX ← Word.sub32 dest.x pos.x
  let diffY ← Word.sub32 dest.y pos.y
  let reach ← Word.sub32 y pos.y
  if diffY = 0 then pure pos.x
  else
    let step ← Word.div64 (← Word.mul64 diffX reach) diffY
    Word.add32 pos.x (Word.wrap32 step)

/-- The value moved into the second edge's span, then into the first's. -/
def hold (first second : Span) (value : Int) : Int := first.clamp (second.clamp value)

/-- The crossing at a given border; `final` when the second box is the last one. -/
def at_ (border : Border) (pos dest : Point) (final : Bool) : Checked Crossing :=
  match border with
  | .vertical x first second => do
    let target ← if final then meetVertical pos dest x else pure pos.y
    let held := hold first second target
    pure (if held = target ∧ final then arrived else via ⟨x, held⟩)
  | .horizontal y first second => do
    let target ← if final then meetHorizontal pos dest y else pure pos.x
    let held := hold first second target
    pure (if held = target ∧ final then arrived else via ⟨held, y⟩)

/-- How an actor gets from `source` into `target` on its way to the box `final`. -/
def find (room : Room) (actor : Actor) (source target : BoxId) (final : Option BoxId) :
    Checked Crossing :=
  match room.outline? (some source), room.outline? (some target) with
  | some first, some second =>
    match Border.between? first second with
    | some border => at_ border actor.pos actor.walk.dest (final == some target)
    | none => pure notAdjacent
  | _, _ => pure notAdjacent

end Crossing

end Adventure
