import Adventure.Room.Basic

/-!
# Snapping a point into the walk area

A point is moved into the nearest box an actor may use.  Boxes are looked at from
the last one down, in three passes: within 30 pixels, within 80 pixels, anywhere.
A box that holds the point wins at once.
-/

set_option autoImplicit false

namespace Adventure

/-- A point of the walk area and the box it was matched with. -/
structure Snapped where
  pos : Point
  box : Option BoxId
  deriving DecidableEq, Repr, Inhabited

namespace Room

/-- How far the three passes look; zero means anywhere. -/
def snapRadii : List Int := [30, 80, 0]

/-- The distance from which on a box is never matched. -/
def snapLimit : Nat := 0xFFFF

/-- Whether an actor may use a box: invisible boxes are open to others than the player
when they are marked for the player. -/
def isEligible (box : WalkBox) (isPlayer : Bool) : Bool :=
  !box.isInvisible || (box.flags.has BoxFlags.playerOnly && !isPlayer)

/-- The boxes from a first one on, the last one first, with their positions. -/
def candidates (room : Room) (first : BoxId) : List (WalkBox × Nat) :=
  (room.boxes.zipIdx.drop first.toNat).reverse

/-- What one pass has found so far. -/
structure Search where
  pos : Point
  distance : Nat
  box : Option BoxId
  deriving DecidableEq, Repr

/-- How a look at one box ends. -/
inductive Look where
  /-- The search is over. -/
  | done (result : Snapped)
  /-- The search goes on with what it has found. -/
  | next (search : Search)

/-- Looks at one box within a radius. -/
def look (p : Point) (isPlayer : Bool) (radius : Int) (search : Search)
    (candidate : WalkBox × Nat) : Checked Look := do
  let (box, index) := candidate
  let id : BoxId := UInt8.ofNat index
  if !isEligible box isPlayer then pure (.next search)
  else
    let rejected ← if radius > 0 then box.outline.quickReject p radius else pure false
    if rejected then pure (.next search)
    else
      let inside ← box.outline.contains p
      if inside then pure (.done ⟨p, some id⟩)
      else
        let (nearest, distance) ← box.outline.closest p
        if distance < search.distance then
          if distance = 0 then pure (.done ⟨nearest, some id⟩)
          else pure (.next ⟨nearest, distance, some id⟩)
        else pure (.next search)

/-- One pass over a list of boxes. -/
def pass (p : Point) (isPlayer : Bool) (radius : Int) :
    List (WalkBox × Nat) → Search → Checked Look
  | [], search => pure (.next search)
  | candidate :: rest, search => do
    match ← look p isPlayer radius search candidate with
    | .done result => pure (.done result)
    | .next found => pass p isPlayer radius rest found

/-- The passes in order; `pos` is the point found by the passes before. -/
def passes (p : Point) (isPlayer : Bool) (boxes : List (WalkBox × Nat)) :
    List Int → Point → Checked Snapped
  | [], pos => pure ⟨pos, none⟩
  | radius :: wider, pos => do
    match ← pass p isPlayer radius boxes ⟨pos, snapLimit, none⟩ with
    | .done result => pure result
    | .next found =>
      if radius = 0 ∨ found.distance ≤ (radius * radius).toNat then pure ⟨found.pos, found.box⟩
      else passes p isPlayer boxes wider found.pos

/-- The point of the walk area that stands for `p`. -/
def snap (room : Room) (p : Point) (first : BoxId) (isPlayer : Bool) : Checked Snapped :=
  passes p isPlayer (room.candidates first) snapRadii p

end Room

end Adventure
