import Adventure.WalkBox.Basic

/-!
# Rules of the game generations

Games of four generations run on the engine.  Where they behave differently the
engine asks the rules, which are chosen once when a game is loaded.
-/

set_option autoImplicit false

namespace Adventure

/-- How many facings costumes tell apart. -/
inductive Compass where
  | four
  | eight
  deriving DecidableEq, Repr, Inhabited

namespace Compass

/-- The number of facings. -/
def steps : Compass → Int
  | four => 4
  | eight => 8

/-- The name used in files. -/
def name : Compass → String
  | four => "four"
  | eight => "eight"

end Compass

/-- The switches in which the generations differ. -/
structure Rules where
  generation : UInt8
  compass : Compass
  /-- The first box that snapping considers. -/
  firstValidBox : BoxId
  /-- Scripts below this number are global, the rest belong to a room. -/
  globalScripts : UInt16
  actorCount : Nat
  /-- A script that holds a cutscene may not be stopped by others. -/
  strictCutsceneStop : Bool
  /-- Walk destinations are snapped before anything else. -/
  adjustWalkDestination : Bool
  /-- A leg ends as soon as the actor stands on its end point. -/
  legEndsOnArrival : Bool
  overrideClearsFlagOnBegin : Bool
  endOverrideClearsFlag : Bool
  /-- Boxes marked for the player keep the scripted scale. -/
  boxFlagIgnoresScale : Bool
  deriving DecidableEq, Repr, Inhabited

namespace Rules

/-- The rules of a generation, three to six. -/
def preset? (generation : UInt8) : Option Rules :=
  if 3 ≤ generation ∧ generation ≤ 6 then
    some
      { generation := generation
        compass := .four
        firstValidBox := if generation ≤ 4 then 0 else 1
        globalScripts := 200
        actorCount := if 6 ≤ generation then 30 else 13
        strictCutsceneStop := decide (5 ≤ generation)
        adjustWalkDestination := decide (5 ≤ generation)
        legEndsOnArrival := decide (4 ≤ generation)
        overrideClearsFlagOnBegin := decide (5 ≤ generation)
        endOverrideClearsFlag := decide (4 ≤ generation)
        boxFlagIgnoresScale := decide (6 ≤ generation) }
  else none

/-- The rules used when nothing else is said: those of the fifth generation. -/
def standard : Rules :=
  { generation := 5
    compass := .four
    firstValidBox := 1
    globalScripts := 200
    actorCount := 13
    strictCutsceneStop := true
    adjustWalkDestination := true
    legEndsOnArrival := true
    overrideClearsFlagOnBegin := true
    endOverrideClearsFlag := true
    boxFlagIgnoresScale := false }

end Rules

end Adventure
