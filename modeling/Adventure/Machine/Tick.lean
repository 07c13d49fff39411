import Adventure.Machine.Execute

/-!
# Ticks

A tick lets delays pass, gives every slot that is ready one turn, in the order of
the slots, and then moves the actors of the room that is shown.
-/

set_option autoImplicit false

namespace Adventure

/-- Drives an actor for one tick and gives it the scale of its new place. -/
def Stage.tickActor (stage : Stage) (fuel : Nat) : Walk Unit := do
  stage.advance fuel
  Walk.changeChecked stage.rescale

/-- Drives the actors of a list that are in the room that is shown. -/
def Stage.tickActors (stage : Stage) (fuel : Nat) :
    List Actor → Checked (List Actor × List String)
  | [] => pure ([], [])
  | actor :: rest => do
    let (walker : Walker) ←
      if stage.shows actor then do
        let (_, walker) ← (stage.tickActor fuel).run ⟨actor, []⟩
        pure walker
      else pure ⟨actor, []⟩
    let (others, events) ← stage.tickActors fuel rest
    pure (walker.actor :: others, walker.events ++ events)

namespace Machine

/-- Moves the actors of the room that is shown. -/
def walkActors (m : Machine) (fuel : Nat) : Checked Machine :=
  if m.room.number = 0 then pure m
  else do
    let (driven, events) ← m.stage.tickActors fuel m.cast.driven
    pure { m with cast := m.cast.take 1 ++ driven, events := m.events ++ events }

/-- Whether a slot is ready for its turn. -/
def isReady (m : Machine) (id : SlotId) : Bool :=
  match m.slots.get? id with
  | some slot => slot.isRunnable && !slot.executed
  | none => false

/-- Gives a slot its turn if it is ready. -/
def takeTurn (fuel : Nat) (id : SlotId) : Run Unit := do
  if (← get).isReady id then
    modify fun m => { m with current := some id }
    loadSlotCode id
    execute fuel
  else pure ()

/-- Gives every slot that is ready one turn. -/
def runScripts (fuel : Nat) : Run Unit := do
  modify fun m =>
    { m with slots := m.slots.map fun slot => { slot with executed := false }, current := none }
  (List.range 80).forM (takeTurn fuel)

/-- The greatest number of ticks a game can count. -/
def tickLimit : Nat := 18446744073709551615

/-- Counts a tick. -/
def countTick (m : Machine) : Checked Machine :=
  if m.tick < tickLimit then .ok { m with tick := m.tick + 1 } else .error .overflow

/-- Changes the machine by a rule that may fault. -/
def changeChecked (rule : Machine → Checked Machine) : Run Unit := do
  set (← Run.ofChecked (rule (← get)))

/-- One tick. -/
def runTick (fuel : Nat) : Run Unit := do
  changeChecked countTick
  changeChecked (·.decreaseDelay 1)
  runScripts fuel
  changeChecked (·.walkActors fuel)

/-- Fuel for every game that makes progress: no test of patience, but a bound. -/
def ampleFuel : Nat := 1099511627776

end Machine

end Adventure
