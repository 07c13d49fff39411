import Adventure.Data.Checked

/-!
# Scale ramps

A ramp gives the scale of an actor from its position: it runs linearly from
`scale1` at `(x1, y1)` to `scale2` at `(x2, y2)` along each axis on which the two
reference points differ, and averages the axes when both do.
-/

set_option autoImplicit false

namespace Adventure

/-- A linear ramp between two reference points. -/
structure ScaleRamp where
  x1 : Int
  y1 : Int
  scale1 : Int
  x2 : Int
  y2 : Int
  scale2 : Int
  deriving DecidableEq, Repr, Inhabited

namespace ScaleRamp

/-- The ramp of a slot nobody has set. -/
def blank : ScaleRamp := ⟨0, 0, 0, 0, 0, 0⟩

/-- A ramp that only depends on the height. -/
def vertical (y1 scale1 y2 scale2 : Int) : ScaleRamp := ⟨0, y1, scale1, 0, y2, scale2⟩

/-- The scale moved into the range of a byte without zero. -/
def clampByte (z : Int) : UInt8 := UInt8.ofNat (max 1 (min z 255)).toNat

/-- The ramp along one axis: `scale1` at `start`, `scale2` at `stop`. -/
def along (scale1 scale2 start stop position : Int) : Checked Int := do
  let rise ← Word.sub32 scale2 scale1
  let reach ← Word.sub64 position start
  let run ← Word.sub32 stop start
  Word.add64 (← Word.div64 (← Word.mul64 rise reach) run) scale1

/-- The scale at a position.  Heights above the room count as its upper border, and
a ramp without extent gives full scale. -/
def scaleAt (ramp : ScaleRamp) (x y : Int) : Checked UInt8 :=
  if ramp.x1 = ramp.x2 ∧ ramp.y1 = ramp.y2 then pure 255
  else do
    let byHeight ←
      if ramp.y1 = ramp.y2 then pure 0
      else along ramp.scale1 ramp.scale2 ramp.y1 ramp.y2 (max y 0)
    let scale ←
      if ramp.x1 = ramp.x2 then pure byHeight
      else do
        let byWidth ← along ramp.scale1 ramp.scale2 ramp.x1 ramp.x2 x
        if ramp.y1 = ramp.y2 then pure byWidth
        else do
          let total ← Word.add64 byWidth byHeight
          pure (total.tdiv 2)
    pure (clampByte scale)

end ScaleRamp

end Adventure
