import Adventure.Actor.Crossing
import Adventure.Actor.Leg
import Adventure.Room.Snap

/-!
# Walking

The walk of an actor is driven one tick at a time.  A tick either takes a step
along the current leg, turns the actor, ends the walk, or looks for the next leg by
following the routing matrix from box to box.

The search for the next leg repeats until a leg with a real distance has been
found.  `routeOnce` is one round of that search; `route` repeats it up to a given
bound and reports when the bound is used up.
-/

set_option autoImplicit false

namespace Adventure

/-- What a walking actor can see: the room, the rules and who the player is. -/
structure Stage where
  room : Room
  rules : Rules
  currentRoom : UInt8
  ego : Option UInt8

/-- An actor being driven, with the events it has caused so far. -/
structure Walker where
  actor : Actor
  events : List String

/-- A computation that drives an actor. -/
abbrev Walk := StateT Walker Checked

namespace Walk

/-- The actor as it is now. -/
def actor : Walk Actor := do pure (← get).actor

/-- Changes the actor. -/
def change (rule : Actor → Actor) : Walk Unit :=
  modify fun walker => { walker with actor := rule walker.actor }

/-- Changes the actor by a rule that may fault. -/
def changeChecked (rule : Actor → Checked Actor) : Walk Unit := do
  let changed ← (rule (← actor) : Checked Actor)
  modify fun walker => { walker with actor := changed }

/-- Records an event. -/
def log (event : String) : Walk Unit :=
  modify fun walker => { walker with events := walker.events ++ [event] }

end Walk

/-- The name of a box in events. -/
def boxLabel : Option BoxId → String
  | some id => toString id.toNat
  | none => "-"

namespace Stage

/-- Whether an actor is in the room that is shown. -/
def shows (stage : Stage) (actor : Actor) : Bool := actor.room == stage.currentRoom

/-- The point of the walk area that stands for `p`; actors that ignore boxes go anywhere. -/
def snap (stage : Stage) (actor : Actor) (p : Point) : Checked Snapped :=
  if actor.ignoreBoxes then pure ⟨p, none⟩
  else stage.room.snap p stage.rules.firstValidBox (stage.ego == some actor.number)

/-- The actor with the scale of the place where it stands. -/
def rescale (stage : Stage) (actor : Actor) : Checked Actor :=
  if actor.ignoreBoxes then pure actor
  else if stage.rules.boxFlagIgnoresScale &&
      (stage.room.boxFlags actor.walkBox).has BoxFlags.playerOnly then pure actor
  else do
    let scale ← stage.room.boxScale actor.walkBox actor.pos
    pure { actor with scaleX := scale.toNat, scaleY := scale.toNat }

/-- The actor put into a box, with the scale of its place there. -/
def setBox (stage : Stage) (box : Option BoxId) (actor : Actor) : Checked Actor :=
  stage.rescale { actor with walkBox := box }

/-- A facing after the flips and locks of the actor's box. -/
def remap (stage : Stage) (actor : Actor) (angle : Int) (walking : Bool) :
    Checked Facing.Remapped :=
  if actor.ignoreBoxes then pure ⟨Facing.normalize angle, true⟩
  else do
    let flags := stage.room.boxFlags actor.walkBox
    let biased := stage.room.biasedDirection actor.walkBox angle
    let xFlipped := flags.has BoxFlags.xFlip || actor.xFlipped
    let yFlipped := flags.has BoxFlags.yFlip || actor.yFlipped
    let sideways ← if xFlipped then Word.sub32 360 biased else pure biased
    let facing ← if yFlipped then Word.sub32 180 sideways else pure sideways
    let rightward := decide (actor.walk.deltaX > 0) != xFlipped
    let downward := decide (actor.walk.deltaY > 0) != yFlipped
    let lock := flags.directionLock
    pure <|
      if lock = 1 then
        ⟨if (if walking then rightward else decide (facing = 90)) then 90 else 270, false⟩
      else if lock = 2 then
        ⟨if (if walking then downward else decide (facing ≠ 0)) then 180 else 0, false⟩
      else if lock = 3 then ⟨270, false⟩
      else if lock = 4 then ⟨90, false⟩
      else if lock = 5 then ⟨0, false⟩
      else if lock = 6 then ⟨180, false⟩
      else ⟨Facing.normalize facing, true⟩

/-- The compass step after a turn of at most one step from `source` toward `target`, the
short way round. -/
def turnStep (steps source target : Int) : Int :=
  let diff := target - source
  let way := if (diff.natAbs : Int) > steps / 2 then -diff else diff
  let reached := if way > 0 then source + 1 else if way < 0 then source - 1 else target
  (reached + steps).tmod steps

/-- The facing of the next tick: a locked one at once, any other one step closer. -/
def nextFacing (stage : Stage) (actor : Actor) (walking : Bool) : Checked Int := do
  let compass := stage.rules.compass
  let remapped ← stage.remap actor actor.targetFacing walking
  if remapped.gradual then
    Facing.ofStep compass
      (turnStep compass.steps (Facing.quantize compass actor.facing)
        (Facing.quantize compass remapped.angle))
  else pure remapped.angle

/-- Shows a frame of the actor's costume when the actor can be seen. -/
def startAnim (stage : Stage) (frame : UInt8) : Walk Unit := do
  let actor ← Walk.actor
  if stage.shows actor && actor.costume != 0 then
    Walk.change fun actor => { actor with frame := frame, needRedraw := true }
    Walk.log s!"actor.{actor.number.toNat}.anim {frame.toNat}"
  else pure ()

/-- Stops the actor and shows its standing frame. -/
def halt (stage : Stage) : Walk Unit := do
  Walk.change (·.stopMoving)
  stage.startAnim (← Walk.actor).standFrame

/-- Snaps the actor into the walk area where it stands and ends its walk. -/
def settle (stage : Stage) : Walk Unit := do
  let actor ← Walk.actor
  let snapped ← (stage.snap actor actor.pos : Checked Snapped)
  Walk.changeChecked fun actor =>
    stage.setBox snapped.box
      { actor with pos := snapped.pos, walk := { actor.walk with destBox := snapped.box } }
  Walk.change fun actor =>
    let stopped :=
      { actor with walk := { actor.walk with dest := ⟨-1, actor.walk.dest.y⟩ } }.stopMoving
    if stopped.walkBox.isSome && (stage.room.boxFlags stopped.walkBox).directionLock != 0 then
      stopped.turnTo (some stopped.facing)
    else stopped

/-- Places the actor; in the room that is shown it is stopped and snapped. -/
def put (stage : Stage) (pos : Point) (room : UInt8) : Walk Unit := do
  Walk.change fun actor => { actor with pos := pos, room := room, needRedraw := true }
  let actor ← Walk.actor
  Walk.log s!"actor.{actor.number.toNat}.put {pos.x},{pos.y} room {room.toNat}"
  if stage.shows actor then
    if actor.isMoving then stage.halt else pure ()
    stage.settle
  else pure ()

/-- The destination a walk order resolves to, for an actor that can be seen. -/
def resolve (stage : Stage) (actor : Actor) (wanted : Snapped) : Checked Snapped :=
  if actor.ignoreBoxes then pure ⟨wanted.pos, none⟩
  else do
    if ← stage.room.pointInBox wanted.pos actor.walk.destBox then
      pure ⟨wanted.pos, actor.walk.destBox⟩
    else stage.snap actor wanted.pos

/-- Notes a new destination; the first leg is looked for in the next tick. -/
def commit (target : Snapped) (facing : Option Int) : Walk Unit := do
  Walk.change fun actor =>
    { actor with
      moving := (actor.moving.only Moving.inLeg).plus Moving.newLeg
      walk :=
        { actor.walk with
          dest := target.pos
          destBox := target.box
          destFacing := facing
          checkpoint := none
          curBox := actor.walkBox } }
  let actor ← Walk.actor
  Walk.log
    s!"actor.{actor.number.toNat}.walk {target.pos.x},{target.pos.y} box {boxLabel target.box}"

/-- Orders the actor to walk to a place and to face a direction there.  An actor that
cannot be seen is there at once. -/
def startWalk (stage : Stage) (dest : Point) (facing : Option Int) : Walk Unit := do
  let actor ← Walk.actor
  let wanted ←
    (if stage.rules.adjustWalkDestination then stage.snap actor dest else pure ⟨dest, none⟩ :
      Checked Snapped)
  if !stage.shows actor then
    Walk.change fun actor =>
      let moved := { actor with pos := wanted.pos }
      match facing with
      | some angle => moved.setDirection angle
      | none => moved
  else
    let target ← (stage.resolve actor wanted : Checked Snapped)
    if actor.ignoreBoxes then Walk.change fun actor => { actor with walkBox := none }
    else pure ()
    let underWay :=
      !actor.ignoreBoxes && actor.isMoving && actor.walk.destFacing == facing &&
        actor.walk.dest == target.pos
    if underWay then pure ()
    else if actor.pos = target.pos then
      match facing with
      | some angle =>
        if angle = actor.facing then pure () else Walk.change (·.turnTo (some angle))
      | none => pure ()
    else commit target facing

/-- Turns the actor along its leg and shows its walking frame when that has changed. -/
def faceLeg (stage : Stage) : Walk Unit := do
  Walk.change fun actor => { actor with needRedraw := true }
  let actor ← Walk.actor
  let facing ← (stage.nextFacing actor true : Checked Int)
  if !actor.moving.has Moving.inLeg || actor.facing != facing then
    if actor.walkFrame != actor.frame || actor.facing != facing then
      Walk.change (·.setDirection facing)
      stage.startAnim actor.walkFrame
    else pure ()
    Walk.change fun actor => { actor with moving := actor.moving.plus Moving.inLeg }
  else pure ()

/-- Notes that the actor has entered the box its leg leads to. -/
def enterBox (stage : Stage) : Walk Unit := do
  let actor ← Walk.actor
  if actor.walkBox != actor.walk.curBox then
    if ← (stage.room.pointInBox actor.pos actor.walk.curBox : Checked Bool) then
      Walk.changeChecked (stage.setBox actor.walk.curBox)
    else pure ()
  else pure ()

/-- Marks the current leg as walked. -/
def endLeg : Walk Bool := do
  Walk.change fun actor => { actor with moving := actor.moving.without Moving.inLeg }
  pure false

/-- One tick along the current leg; false once its end has been reached. -/
def walkStep (stage : Stage) : Walk Bool := do
  stage.faceLeg
  stage.enterBox
  let actor ← Walk.actor
  let walk := actor.walk
  let lengthX ← (Leg.covered walk.legStart.x walk.legEnd.x : Checked Int)
  let lengthY ← (Leg.covered walk.legStart.y walk.legEnd.y : Checked Int)
  if ← (Leg.isOver walk lengthX lengthY actor.pos : Checked Bool) then endLeg
  else
    let moved ← (Leg.step actor lengthX lengthY : Checked Actor)
    Walk.change fun _ => moved
    if stage.rules.legEndsOnArrival && moved.pos == walk.legEnd then endLeg else pure true

/-- The actor with a leg to `next` planned. -/
def planLeg (next : Point) (actor : Actor) : Checked Actor := do
  let diffX ← Word.sub32 next.x actor.pos.x
  let diffY ← Word.sub32 next.y actor.pos.y
  let velocity ← Leg.plan actor.speedX actor.speedY diffX diffY
  let deltaX := Word.wrap32 velocity.x
  let deltaY := Word.wrap32 velocity.y
  pure
    { actor with
      targetFacing := Facing.ofVelocity deltaX deltaY
      walk :=
        { actor.walk with
          legStart := actor.pos
          legEnd := next
          deltaX := deltaX
          deltaY := deltaY
          fracX := 0
          fracY := 0 } }

/-- Starts the leg to `next` and takes its first step; false when there is nothing left
to walk. -/
def startLeg (stage : Stage) (next : Point) : Walk Bool := do
  let actor ← Walk.actor
  if actor.pos = next then pure false
  else
    Walk.changeChecked (planLeg next)
    stage.walkStep

/-- How one round of the search for the next leg ends. -/
inductive Round where
  /-- Walk straight to the destination. -/
  | straight
  /-- Nothing more to do in this tick. -/
  | done
  /-- The next box has been entered; search on from there. -/
  | again
  deriving DecidableEq, Repr

/-- One round of the search for the next leg. -/
def routeOnce (stage : Stage) : Walk Round := do
  let actor ← Walk.actor
  match actor.walkBox with
  | none =>
    Walk.changeChecked (stage.setBox actor.walk.destBox)
    Walk.change fun actor => { actor with walk := { actor.walk with curBox := actor.walk.destBox } }
    pure .straight
  | some box =>
    if some box = actor.walk.destBox then pure .straight
    else
      match stage.room.nextBox (some box) actor.walk.destBox with
      | none =>
        Walk.log
          s!"actor.{actor.number.toNat}.no_route {box.toNat} -> {boxLabel actor.walk.destBox}"
        Walk.change fun actor =>
          { actor with
            moving := actor.moving.plus Moving.lastLeg
            walk := { actor.walk with destBox := some box } }
        pure .done
      | some next =>
        Walk.change fun actor => { actor with walk := { actor.walk with curBox := some next } }
        match ← (Crossing.find stage.room actor box next actor.walk.destBox : Checked Crossing) with
        | .arrived => pure .straight
        | .notAdjacent => pure .straight
        | .via point =>
          Walk.change fun actor =>
            { actor with walk := { actor.walk with checkpoint := some point } }
          if ← stage.startLeg point then pure .done
          else
            Walk.changeChecked (stage.setBox (some next))
            pure .again

/-- Searches for the next leg, at most `fuel` rounds, and starts it. -/
def route (stage : Stage) : (fuel : Nat) → Walk Unit
  | 0 => throw .outOfFuel
  | fuel + 1 => do
    match ← stage.routeOnce with
    | .done => pure ()
    | .again => stage.route fuel
    | .straight =>
      Walk.change fun actor => { actor with moving := actor.moving.plus Moving.lastLeg }
      let _ ← stage.startLeg (← Walk.actor).walk.dest
      pure ()

/-- Forgets that a new leg is due and searches for it. -/
def startRoute (stage : Stage) (fuel : Nat) : Walk Unit := do
  Walk.change fun actor => { actor with moving := actor.moving.without Moving.newLeg }
  stage.route fuel

/-- Ends a walk whose last leg is over. -/
def arrive (stage : Stage) : Walk Unit := do
  Walk.change (·.stopMoving)
  Walk.changeChecked fun actor => stage.setBox actor.walk.destBox actor
  stage.startAnim (← Walk.actor).standFrame
  Walk.change fun actor =>
    if actor.walk.destFacing = some actor.targetFacing then actor
    else actor.turnTo actor.walk.destFacing
  let actor ← Walk.actor
  Walk.log
    s!"actor.{actor.number.toNat}.arrive {actor.pos.x},{actor.pos.y} box {boxLabel actor.walkBox}"

/-- One step of a turn on the spot; the turn is over when the facing no longer changes. -/
def turnOnce (stage : Stage) : Walk Unit := do
  let actor ← Walk.actor
  let next ← (stage.nextFacing actor false : Checked Int)
  if actor.facing = next then Walk.change (·.stopMoving) else Walk.change (·.setDirection next)

/-- What a tick does with an actor that is not on a leg any more. -/
def proceed (stage : Stage) (fuel : Nat) : Walk Unit := do
  let actor ← Walk.actor
  if actor.moving.has Moving.lastLeg then stage.arrive
  else if actor.moving.has Moving.turn then stage.turnOnce
  else
    Walk.changeChecked fun actor => stage.setBox actor.walk.curBox actor
    Walk.change fun actor => { actor with moving := actor.moving.only Moving.inLeg }
    stage.startRoute fuel

/-- Drives the actor for one tick. -/
def advance (stage : Stage) (fuel : Nat) : Walk Unit := do
  let actor ← Walk.actor
  if !actor.isMoving then pure ()
  else if actor.moving.has Moving.newLeg then stage.startRoute fuel
  else
    let walking ← if actor.moving.has Moving.inLeg then stage.walkStep else pure false
    if walking then pure () else stage.proceed fuel

end Stage

end Adventure
