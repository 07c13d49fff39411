import Adventure.Actor.Basic

/-!
# Legs of a walk

A leg is a straight way from one point to another.  It is planned once, as a
velocity for each axis in units of 1/65536 pixel, and then walked step by step.  A
step moves each axis by its velocity times the actor's scale, and an axis that has
come too far is put onto the leg's end.
-/

set_option autoImplicit false

namespace Adventure.Leg

/-- The units of a pixel in which velocities and fractions are counted. -/
def unit : Int := 65536

/-- A velocity along both axes. -/
structure Velocity where
  x : Int
  y : Int
  deriving DecidableEq, Repr

/-- The velocity of the leg over `(diffX, diffY)`.  The vertical speed sets the pace
unless the horizontal one would then be exceeded. -/
def plan (speedX speedY diffX diffY : Int) : Checked Velocity := do
  let paceY := if diffY < 0 then -(speedY * unit) else speedY * unit
  let sideways ← Word.mul64 paceY diffX
  let byHeight : Velocity ←
    if diffY = 0 then pure ⟨sideways, 0⟩ else do pure ⟨← Word.div64 sideways diffY, paceY⟩
  if ((byHeight.x / unit).natAbs : Int) > speedX then
    let paceX := if diffX < 0 then -(speedX * unit) else speedX * unit
    let upward ← Word.mul64 paceX diffY
    if diffX = 0 then pure ⟨0, upward⟩ else do pure ⟨paceX, ← Word.div64 upward diffX⟩
  else pure byHeight

/-- One axis after a step: its fraction and its whole pixels. -/
def stride (pos : Int) (frac : UInt16) (delta scale : Int) : UInt16 × Int :=
  let total := pos * unit + frac.toNat + delta / 256 * scale
  (UInt16.ofNat (total % unit).toNat, Word.wrap32 (total / unit))

/-- The distance of a coordinate from the leg's start. -/
def covered (start pos : Int) : Checked Int := do Word.abs32 (← Word.sub32 pos start)

/-- A coordinate that has come farther than the leg is long is put onto the leg's end. -/
def hold (start stop length pos : Int) : Checked Int := do
  pure (if length < (← covered start pos) then stop else pos)

/-- Whether an actor stands at least as far from the leg's start as its end does. -/
def isOver (walk : WalkState) (lengthX lengthY : Int) (pos : Point) : Checked Bool := do
  if lengthX ≤ (← covered walk.legStart.x pos.x) then
    pure (decide (lengthY ≤ (← covered walk.legStart.y pos.y)))
  else pure false

/-- The actor after one step along its leg. -/
def step (actor : Actor) (lengthX lengthY : Int) : Checked Actor := do
  let walk := actor.walk
  let (fracX, movedX) := stride actor.pos.x walk.fracX walk.deltaX actor.scaleX
  let (fracY, movedY) := stride actor.pos.y walk.fracY walk.deltaY actor.scaleY
  let x ← hold walk.legStart.x walk.legEnd.x lengthX movedX
  let y ← hold walk.legStart.y walk.legEnd.y lengthY movedY
  pure { actor with pos := ⟨x, y⟩, walk := { walk with fracX := fracX, fracY := fracY } }

end Adventure.Leg
