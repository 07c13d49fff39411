import Adventure.Data.Checked
import Adventure.Rules

/-!
# Facings

Facings are degrees clockwise from "away from the viewer": 0 looks up, 90 right,
180 at the viewer and 270 left.  Costumes only know a few of them, so angles are
sorted into the steps of a compass.
-/

set_option autoImplicit false

namespace Adventure.Facing

/-- The bounds between the steps of a compass after step zero. -/
def bounds : Compass → List (Int × Int)
  | .eight => [(22, 72), (72, 107), (107, 157), (157, 202), (202, 252), (252, 287), (287, 337)]
  | .four => [(71, 109), (109, 251), (251, 289)]

/-- The compass step of an angle; an angle between no bounds is step zero. -/
def quantize (compass : Compass) (angle : Int) : Int :=
  match (bounds compass).findIdx? fun pair => decide (pair.1 ≤ angle) && decide (angle ≤ pair.2) with
  | some index => index + 1
  | none => 0

/-- The angle between two steps of a compass. -/
def stepAngle : Compass → Int
  | .eight => 45
  | .four => 90

/-- The angle of a compass step. -/
def ofStep (compass : Compass) (step : Int) : Checked Int := Word.mul32 step (stepAngle compass)

/-- The angle brought into a full turn and moved to an eighth of it. -/
def normalize (angle : Int) : Int := quantize .eight ((angle.tmod 360 + 360).tmod 360) * 45

/-- The facing of a velocity: sideways only when it is clearly wider than high. -/
def ofVelocity (x y : Int) : Int :=
  if y.natAbs * 2 < x.natAbs then if x > 0 then 90 else 270
  else if y > 0 then 180 else 0

/-- A facing after box rules: where to look, and whether to turn there step by step. -/
structure Remapped where
  angle : Int
  gradual : Bool
  deriving DecidableEq, Repr

/-- The bit that marks a gradual turn when a remapped facing is written as one number. -/
def gradualBit : Int := 1024

/-- A remapped facing as one number. -/
def Remapped.code (remapped : Remapped) : Int :=
  if remapped.gradual then remapped.angle + gradualBit else remapped.angle

end Adventure.Facing
