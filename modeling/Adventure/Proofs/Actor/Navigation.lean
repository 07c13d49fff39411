import Adventure.Machine.Tick
import Adventure.Proofs.Actor.Borders
import Adventure.Proofs.Actor.Lane
import Adventure.Proofs.Room.NearestBox

/-!
# Navigation stays in the field

An actor is driven by two kinds of calls: instructions place it, turn it and send it to
walk, and ticks move it on.  As long as the corners of the room lie in the field and the
numbers an actor carries are as small as their sources, no call makes a result that leaves
its word, and the actor never leaves the field.

Two facts are kept together.  The actor is in range (`Actor.InRange`), and while it is on a
leg in the room that is shown, it is in the rectangle of that leg (`Leg.OnLane`).  A place is
either snapped between the corners of a box, or held between the ends of a leg, or
ordered; so it is in the field each time.
-/

set_option autoImplicit false

namespace Adventure

open Word

variable {Allowed : Fault → Prop}

/-! ## What navigation needs -/

/-- What navigation needs of a room: corners in the field, and ramps in the range of their
words. -/
structure Room.InRange (room : Room) : Prop where
  boxes : room.BoxesInField
  ramps : ∀ ramp ∈ room.ramps.cells, ramp.Narrow

theorem Room.InRange.narrow {room : Room} (inRange : room.InRange) : room.Narrow :=
  ⟨fun box member => (inRange.boxes box member).narrow, inRange.ramps⟩

/-- What navigation needs of the actor with a number: places in the field, speeds and scales that
are bytes, and facings that fit words of 16 bits. -/
structure Actor.InRange (number : UInt8) (actor : Actor) : Prop where
  numbered : actor.number = number
  pos : actor.pos.InField
  dest : actor.walk.dest.InField
  speedX : IsByte actor.speedX
  speedY : IsByte actor.speedY
  scaleX : IsByte actor.scaleX
  scaleY : IsByte actor.scaleY
  facing : Fits16 actor.facing
  targetFacing : Fits16 actor.targetFacing
  destFacing : ∀ angle ∈ actor.walk.destFacing, Fits16 angle

/-- An actor in range, between the ends of its leg. -/
structure Actor.Strides (number : UInt8) (actor : Actor) : Prop extends actor.InRange number where
  onLane : Leg.OnLane actor.walk actor.pos

/-- An actor in range, between the ends of its leg as long as it is on one. -/
structure Actor.Navigates (number : UInt8) (actor : Actor) : Prop extends
    actor.InRange number where
  course : actor.moving.has Moving.inLeg = true → Leg.OnLane actor.walk actor.pos

/-- An actor in range that navigates if it is in the room that is shown. -/
structure Actor.Fit (shown number : UInt8) (actor : Actor) : Prop extends
    actor.InRange number where
  course : actor.room = shown → actor.moving.has Moving.inLeg = true →
    Leg.OnLane actor.walk actor.pos

/-! ## Facings -/

/-- Facing a direction changes the facing to one that fits a word of 16 bits. -/
theorem Actor.setDirection_eq {actor : Actor} (fits : Fits16 actor.facing) (angle : Int) :
    ∃ facing redraw, Fits16 facing ∧
      actor.setDirection angle = { actor with facing := facing, needRedraw := redraw } := by
  unfold Actor.setDirection
  split
  · exact ⟨actor.facing, actor.needRedraw, fits, rfl⟩
  · refine ⟨_, _, ?_, rfl⟩
    obtain ⟨low, high⟩ := Facing.quantize_bounds .eight ((angle.tmod 360 + 360).tmod 360)
    change _ < (8 : Int) at high
    unfold Facing.normalize
    omega

namespace Actor

variable {number : UInt8} {actor : Actor}

theorem InRange.navigates_of_halted (inRange : actor.InRange number)
    (halted : actor.moving.has Moving.inLeg = false) : actor.Navigates number :=
  { inRange with course := fun moves => absurd (halted.symm.trans moves) (by decide) }

theorem Strides.navigates (strides : actor.Strides number) : actor.Navigates number :=
  { strides with course := fun _ => strides.onLane }

/-- Bits other than that of a leg may change. -/
theorem Navigates.withMoving (navigates : actor.Navigates number) {moving : Moving}
    (same : moving.has Moving.inLeg = actor.moving.has Moving.inLeg) :
    Navigates number { actor with moving := moving } :=
  { navigates with course := fun moves => navigates.course (same.symm.trans moves) }

theorem Navigates.fit (navigates : actor.Navigates number) (shown : UInt8) :
    actor.Fit shown number :=
  { navigates with course := fun _ => navigates.course }

/-- An actor that is asked to turn leaves its leg. -/
theorem InRange.turned (inRange : actor.InRange number) {angle : Int} (fits : Fits16 angle) :
    (actor.turnTo (some angle)).Navigates number :=
  navigates_of_halted { inRange with targetFacing := fits }
    (by decide : Moving.has ⟨Moving.turn⟩ _ = false)

theorem Navigates.turnTo (navigates : actor.Navigates number) {facing : Option Int}
    (fits : ∀ angle ∈ facing, Fits16 angle) : (actor.turnTo facing).Navigates number := by
  cases facing with
  | none => exact navigates
  | some angle => exact navigates.toInRange.turned (fits angle rfl)

end Actor

/-! ## Places -/

theorem Outline.Spans.inField {outline : Outline} {q : Point} (spans : outline.Spans q)
    (inField : outline.InField) : q.InField := by
  obtain ⟨x, y⟩ := spans.within fun corner member =>
    ⟨(inField.corner corner member).x, (inField.corner corner member).y⟩
  exact ⟨x, y⟩

/-- Snapping leaves a place where it is, or moves it between the corners of a box. -/
theorem Room.Nearest.inField {room : Room} {p : Point} {first : BoxId} {isPlayer : Bool}
    {snapped : Snapped} (boxesIn : room.BoxesInField) (pIn : p.InField)
    (nearest : room.Nearest p first isPlayer snapped) : snapped.pos.InField := by
  have fits : ∀ box ∈ room.boxes, box.outline.Narrow :=
    fun box member => (boxesIn box member).narrow
  rcases nearest.place fits pIn.narrow with same | ⟨box, member, spans⟩
  · rw [same]
    exact pIn
  · exact spans.inField (boxesIn box member)

namespace Stage

variable {stage : Stage} {number : UInt8} {walker : Walker} {actor : Actor}

theorem snap_gives (room : stage.room.InRange) {p : Point} (pIn : p.InField) :
    (stage.snap actor p).Gives Allowed fun snapped => snapped.pos.InField := by
  unfold snap
  split
  · exact pIn
  · have finds := (Room.snap_gives room.narrow.boxes pIn.narrow stage.rules.firstValidBox
      (stage.ego == some actor.number)).mono fun _ => Room.Nearest.inField room.boxes pIn
    exact finds.allow fun _ => False.elim

/-! ## Scales -/

/-- A new scale is a byte. -/
theorem rescale_changes {Holds : Actor → Prop} (room : stage.room.InRange)
    (inRange : actor.InRange number)
    (holds : ∀ scaleX scaleY, IsByte scaleX → IsByte scaleY →
      Holds { actor with scaleX := scaleX, scaleY := scaleY }) :
    (stage.rescale actor).Gives Allowed Holds := by
  have same : Holds actor := holds _ _ inRange.scaleX inRange.scaleY
  unfold rescale
  split
  · exact same
  · split
    · exact same
    · rw [Checked.gives_bind]
      refine (Room.boxScale_gives room.narrow inRange.pos.narrow).mono fun scale _ => ?_
      exact holds _ _ (isByte_toNat scale) (isByte_toNat scale)

theorem rescale_navigates (room : stage.room.InRange) (navigates : actor.Navigates number) :
    (stage.rescale actor).Gives Allowed (Actor.Navigates number) :=
  rescale_changes room navigates.toInRange fun _ _ x y =>
    { navigates with scaleX := x, scaleY := y }

theorem setBox_navigates (room : stage.room.InRange) (navigates : actor.Navigates number)
    (box : Option BoxId) : (stage.setBox box actor).Gives Allowed (Actor.Navigates number) :=
  rescale_navigates room { navigates with }

theorem setBox_strides (room : stage.room.InRange) (strides : actor.Strides number)
    (box : Option BoxId) : (stage.setBox box actor).Gives Allowed (Actor.Strides number) := by
  have entered : Actor.InRange number { actor with walkBox := box } := { strides with }
  exact rescale_changes room entered fun _ _ x y => { strides with scaleX := x, scaleY := y }

/-! ## Along a leg -/

theorem faceLeg_strides (strides : walker.actor.Strides number) :
    stage.faceLeg.Gives Allowed walker fun _ after => after.actor.Strides number := by
  simp only [faceLeg, Walk.gives_bind, Walk.gives_actor, Walk.gives_lift, Walk.gives_ite,
    Walk.gives_change, Walk.gives_pure]
  refine (nextFacing_gives strides.targetFacing).mono fun facing _ => ?_
  split
  · split
    · refine startAnim_gives fun frame redraw events => ?_
      have faced : Fits16 ({ walker.actor with needRedraw := true } : Actor).facing :=
        strides.facing
      obtain ⟨turned, redrawn, fits, same⟩ := Actor.setDirection_eq faced facing
      rw [same]
      exact { strides with facing := fits }
    · exact { strides with }
  · exact { strides with }

theorem enterBox_strides (room : stage.room.InRange) (strides : walker.actor.Strides number) :
    stage.enterBox.Gives Allowed walker fun _ after => after.actor.Strides number := by
  simp only [enterBox, Walk.gives_bind, Walk.gives_actor, Walk.gives_lift, Walk.gives_ite,
    Walk.gives_changeChecked, Walk.gives_pure]
  split
  · refine (Room.pointInBox_gives room.narrow strides.pos.narrow).mono fun inside _ => ?_
    split
    · exact setBox_strides room strides _
    · exact strides
  · exact strides

/-- **A tick on a leg keeps the actor between the leg's ends.** -/
theorem walkStep_strides (room : stage.room.InRange) (strides : walker.actor.Strides number) :
    stage.walkStep.Gives Allowed walker fun _ after => after.actor.Strides number := by
  unfold walkStep
  rw [Walk.gives_bind]
  refine (faceLeg_strides strides).mono fun _ faced strides => ?_
  rw [Walk.gives_bind]
  refine (enterBox_strides room strides).mono fun _ entered strides => ?_
  have startX := strides.onLane.1.startIn
  have startY := strides.onLane.2.startIn
  have stopX := strides.onLane.1.stopIn
  have stopY := strides.onLane.2.stopIn
  simp only [endLeg, Walk.gives_bind, Walk.gives_actor, Walk.gives_lift, Walk.gives_ite,
    Walk.gives_change, Walk.gives_pure]
  rw [Leg.gives_covered (by omega) (by omega), Leg.gives_covered (by omega) (by omega)]
  refine (strides.onLane.isOver_gives _ _).mono fun ended _ => ?_
  split
  · exact { strides with }
  · refine strides.onLane.step_gives strides.scaleX strides.scaleY fun pos fracX fracY onLane => ?_
    have moved : Actor.Strides number
        { entered.actor with
          pos := pos
          walk := { entered.actor.walk with fracX := fracX, fracY := fracY } } :=
      { strides with pos := onLane.inField, onLane := onLane }
    split
    · exact { moved with }
    · exact moved

/-- A leg to a place of the field is laid out in the field. -/
theorem planLeg_strides {next : Point} (inRange : actor.InRange number) (nextIn : next.InField) :
    (planLeg next actor).Gives Allowed (Actor.Strides number) := by
  obtain ⟨posX, posY⟩ := inRange.pos
  obtain ⟨nextX, nextY⟩ := nextIn
  simp only [planLeg, Checked.gives_bind, Checked.gives_pure]
  rw [gives_sub32 (by omega), gives_sub32 (by omega)]
  refine (Leg.plan_leads inRange.speedX inRange.speedY (by omega) (by omega)).mono ?_
  rintro velocity ⟨x, y⟩
  have slowX := x.slow
  have slowY := y.slow
  rw [wrap32_eq (by omega), wrap32_eq (by omega)]
  have laneX : Leg.Lane actor.pos.x next.x velocity.x actor.pos.x := ⟨posX, nextX, x, by omega⟩
  have laneY : Leg.Lane actor.pos.y next.y velocity.y actor.pos.y := ⟨posY, nextY, y, by omega⟩
  exact
    { inRange with
      targetFacing := (Facing.ofVelocity_plain _ _).fits
      onLane := ⟨laneX, laneY⟩ }

theorem startLeg_navigates {next : Point} (room : stage.room.InRange)
    (navigates : walker.actor.Navigates number) (nextIn : next.InField) :
    (stage.startLeg next).Gives Allowed walker fun _ after => after.actor.Navigates number := by
  simp only [startLeg, Walk.gives_bind, Walk.gives_actor, Walk.gives_ite, Walk.gives_pure,
    Walk.gives_changeChecked]
  split
  · exact navigates
  · refine (planLeg_strides navigates.toInRange nextIn).mono fun planned strides => ?_
    exact (walkStep_strides room strides).mono fun _ _ strides => strides.navigates

/-! ## The search for the next leg -/

theorem routeOnce_navigates (room : stage.room.InRange)
    (navigates : walker.actor.Navigates number) :
    stage.routeOnce.Gives Allowed walker fun _ after => after.actor.Navigates number := by
  simp only [routeOnce, Walk.gives_bind, Walk.gives_actor]
  split
  next =>
    simp only [Walk.gives_bind, Walk.gives_changeChecked, Walk.gives_change, Walk.gives_pure]
    exact (setBox_navigates room navigates _).mono fun changed entered => { entered with }
  next box _ =>
    rw [Walk.gives_ite]
    split
    · exact navigates
    · split
      · simp only [Walk.gives_bind, Walk.gives_log, Walk.gives_change, Walk.gives_pure]
        exact { navigates.withMoving (Moving.has_plus (by decide)) with }
      next next _ =>
        simp only [Walk.gives_bind, Walk.gives_change, Walk.gives_lift]
        have aimed : Actor.Navigates number
            { walker.actor with walk := { walker.actor.walk with curBox := some next } } :=
          { navigates with }
        refine (Crossing.find_inField room.boxes navigates.pos navigates.dest).mono ?_
        intro crossing found
        cases crossing with
        | arrived => exact aimed
        | notAdjacent => exact aimed
        | via point =>
          have pointIn : point.InField := found.resolve_right (by rintro ⟨⟩)
          have marked : Actor.Navigates number
              { walker.actor with
                walk :=
                  { walker.actor.walk with curBox := some next, checkpoint := some point } } :=
            { aimed with }
          simp only [Walk.gives_bind, Walk.gives_change]
          refine (startLeg_navigates room marked pointIn).mono fun started after navigates => ?_
          simp only [Walk.gives_ite, Walk.gives_bind, Walk.gives_pure, Walk.gives_changeChecked]
          split
          · exact navigates
          · exact setBox_navigates room navigates _

/-- **The search for the next leg keeps the actor in the field**, as long as its bound is not
used up. -/
theorem route_navigates (room : stage.room.InRange) (spent : Allowed .outOfFuel) (fuel : Nat) :
    ∀ walker : Walker, walker.actor.Navigates number →
      (stage.route fuel).Gives Allowed walker fun _ after => after.actor.Navigates number := by
  induction fuel with
  | zero => exact fun _ _ => spent
  | succ fuel ih =>
    intro walker navigates
    rw [route, Walk.gives_bind]
    refine (routeOnce_navigates room navigates).mono fun round after navigates => ?_
    cases round with
    | done => exact navigates
    | again => exact ih after navigates
    | straight =>
      simp only [Walk.gives_bind, Walk.gives_change, Walk.gives_actor, Walk.gives_pure]
      exact startLeg_navigates room (navigates.withMoving (Moving.has_plus (by decide)))
        navigates.dest

theorem startRoute_navigates (room : stage.room.InRange) (spent : Allowed .outOfFuel) (fuel : Nat)
    (navigates : walker.actor.Navigates number) :
    (stage.startRoute fuel).Gives Allowed walker fun _ after => after.actor.Navigates number := by
  rw [startRoute, Walk.gives_bind, Walk.gives_change]
  exact route_navigates room spent fuel _ (navigates.withMoving (Moving.has_without (by decide)))

/-! ## Ticks -/

theorem arrive_navigates (room : stage.room.InRange) (navigates : walker.actor.Navigates number) :
    stage.arrive.Gives Allowed walker fun _ after => after.actor.Navigates number := by
  simp only [arrive, Walk.gives_bind, Walk.gives_actor, Walk.gives_change, Walk.gives_changeChecked,
    Walk.gives_log]
  have stopped : Actor.Navigates number walker.actor.stopMoving :=
    Actor.InRange.navigates_of_halted { navigates with } (by decide : Moving.has .still _ = false)
  refine (setBox_navigates room stopped _).mono fun changed navigates => ?_
  refine startAnim_gives fun frame redraw events => ?_
  have shown : Actor.Navigates number { changed with frame := frame, needRedraw := redraw } :=
    { navigates with }
  dsimp only
  split
  · exact shown
  · exact shown.turnTo navigates.destFacing

theorem turnOnce_navigates (navigates : walker.actor.Navigates number) :
    stage.turnOnce.Gives Allowed walker fun _ after => after.actor.Navigates number := by
  simp only [turnOnce, Walk.gives_bind, Walk.gives_actor, Walk.gives_lift, Walk.gives_ite,
    Walk.gives_change]
  refine (nextFacing_gives navigates.targetFacing).mono fun next _ => ?_
  split
  · exact Actor.InRange.navigates_of_halted { navigates with }
      (by decide : Moving.has .still _ = false)
  · obtain ⟨facing, redraw, fits, same⟩ := Actor.setDirection_eq navigates.facing next
    rw [same]
    exact { navigates with facing := fits }

theorem proceed_navigates (room : stage.room.InRange) (spent : Allowed .outOfFuel) (fuel : Nat)
    (navigates : walker.actor.Navigates number) :
    (stage.proceed fuel).Gives Allowed walker fun _ after => after.actor.Navigates number := by
  simp only [proceed, Walk.gives_bind, Walk.gives_actor, Walk.gives_ite, Walk.gives_changeChecked,
    Walk.gives_change]
  split
  · exact arrive_navigates room navigates
  · split
    · exact turnOnce_navigates navigates
    · refine (setBox_navigates room navigates _).mono fun changed navigates => ?_
      exact startRoute_navigates room spent fuel
        (navigates.withMoving (Moving.has_only (by decide)))

/-- **A tick keeps an actor of the shown room in the field**, and nothing leaves its word. -/
theorem advance_navigates (room : stage.room.InRange) (spent : Allowed .outOfFuel) (fuel : Nat)
    (navigates : walker.actor.Navigates number) :
    (stage.advance fuel).Gives Allowed walker fun _ after => after.actor.Navigates number := by
  simp only [advance, Walk.gives_bind, Walk.gives_actor, Walk.gives_ite, Walk.gives_pure]
  split
  · exact navigates
  · split
    · exact startRoute_navigates room spent fuel navigates
    · split
      next onLeg =>
        have strides : walker.actor.Strides number :=
          { navigates with onLane := navigates.course onLeg }
        refine (walkStep_strides room strides).mono fun walking after strides => ?_
        split
        · exact strides.navigates
        · exact proceed_navigates room spent fuel strides.navigates
      next =>
        rw [if_neg Bool.false_ne_true]
        exact proceed_navigates room spent fuel navigates

theorem tickActor_navigates (room : stage.room.InRange) (spent : Allowed .outOfFuel) (fuel : Nat)
    (navigates : walker.actor.Navigates number) :
    (stage.tickActor fuel).Gives Allowed walker fun _ after => after.actor.Navigates number := by
  simp only [tickActor, Walk.gives_bind, Walk.gives_changeChecked]
  exact (advance_navigates room spent fuel navigates).mono fun _ _ => rescale_navigates room

/-! ## Instructions -/

theorem halt_navigates (inRange : walker.actor.InRange number) :
    stage.halt.Gives Allowed walker fun _ after => after.actor.Navigates number := by
  simp only [halt, Walk.gives_bind, Walk.gives_change, Walk.gives_actor]
  refine startAnim_gives fun frame redraw events => ?_
  exact Actor.InRange.navigates_of_halted { inRange with }
    (by decide : Moving.has .still _ = false)

/-- An actor that is snapped into the walk area stands still there, or turns. -/
theorem settle_navigates (room : stage.room.InRange) (inRange : walker.actor.InRange number) :
    stage.settle.Gives Allowed walker fun _ after => after.actor.Navigates number := by
  simp only [settle, Walk.gives_bind, Walk.gives_actor, Walk.gives_lift, Walk.gives_changeChecked,
    Walk.gives_change]
  refine (snap_gives room inRange.pos).mono fun snapped posIn => ?_
  have placed : Actor.InRange number
      { walker.actor with
        walkBox := snapped.box
        pos := snapped.pos
        walk := { walker.actor.walk with destBox := snapped.box } } :=
    { inRange with pos := posIn }
  refine rescale_changes room placed fun scaleX scaleY x y => ?_
  have stopped : Actor.InRange number
      { walker.actor with
        walkBox := snapped.box
        pos := snapped.pos
        walk :=
          { walker.actor.walk with destBox := snapped.box, dest := ⟨-1, walker.actor.walk.dest.y⟩ }
        moving := .still
        scaleX := scaleX
        scaleY := scaleY } :=
    { placed with
      dest := ⟨(by decide : Adventure.InField (-1)), inRange.dest.y⟩
      scaleX := x
      scaleY := y }
  have navigates := stopped.navigates_of_halted (by decide : Moving.has .still _ = false)
  dsimp only
  split
  · exact navigates.turnTo fun angle same => Option.some.inj same ▸ inRange.facing
  · exact navigates

theorem put_fit (room : stage.room.InRange) (inRange : walker.actor.InRange number)
    {pos : Point} (posIn : pos.InField) (target : UInt8) :
    (stage.put pos target).Gives Allowed walker fun _ after =>
      after.actor.Fit stage.currentRoom number := by
  simp only [put, Walk.gives_bind, Walk.gives_actor, Walk.gives_change, Walk.gives_log,
    Walk.gives_ite, Walk.gives_pure]
  have placed : Actor.InRange number
      { walker.actor with pos := pos, room := target, needRedraw := true } :=
    { inRange with pos := posIn }
  split
  · have settles : ∀ after : Walker, after.actor.InRange number →
        stage.settle.Gives Allowed after fun _ after =>
          after.actor.Fit stage.currentRoom number :=
      fun after inRange =>
        (settle_navigates room inRange).mono fun _ _ navigates => navigates.fit _
    split
    · exact (halt_navigates placed).mono fun _ after navigates => settles after navigates.toInRange
    · exact settles _ placed
  next elsewhere =>
    have hidden : target ≠ stage.currentRoom := by simpa [shows] using elsewhere
    exact { placed with course := fun shown => absurd shown hidden }

theorem resolve_gives (room : stage.room.InRange) {wanted : Snapped}
    (wantedIn : wanted.pos.InField) :
    (stage.resolve actor wanted).Gives Allowed fun target => target.pos.InField := by
  simp only [resolve, Checked.gives_ite, Checked.gives_bind, Checked.gives_pure]
  split
  · exact wantedIn
  · refine (Room.pointInBox_gives room.narrow wantedIn.narrow).mono fun inside _ => ?_
    split
    · exact wantedIn
    · exact snap_gives room wantedIn

theorem commit_fit (fit : walker.actor.Fit stage.currentRoom number) {target : Snapped}
    (targetIn : target.pos.InField) {facing : Option Int}
    (fits : ∀ angle ∈ facing, Fits16 angle) :
    (commit target facing).Gives Allowed walker fun _ after =>
      after.actor.Fit stage.currentRoom number := by
  simp only [commit, Walk.gives_bind, Walk.gives_actor, Walk.gives_change, Walk.gives_log]
  have same : ((walker.actor.moving.only Moving.inLeg).plus Moving.newLeg).has Moving.inLeg =
      walker.actor.moving.has Moving.inLeg :=
    (Moving.has_plus (by decide)).trans (Moving.has_only (by decide))
  exact
    { fit with
      dest := targetIn
      destFacing := fits
      course := fun shown moves => fit.course shown (same.symm.trans moves) }

/-- An order that is heeded leaves an actor on its way, turns it, or gives it a new aim. -/
theorem heed_fit {heeding : Walker} (fit : heeding.actor.Fit stage.currentRoom number)
    {target : Snapped} (targetIn : target.pos.InField) {facing : Option Int}
    (fits : ∀ angle ∈ facing, Fits16 angle) (pos : Point) (now : Int) (underWay : Bool) :
    if underWay = true then heeding.actor.Fit stage.currentRoom number
    else if pos = target.pos then
      (match facing with
      | some angle => if angle = now then pure () else Walk.change (·.turnTo (some angle))
      | none => pure ()).Gives Allowed heeding fun _ after =>
        after.actor.Fit stage.currentRoom number
    else (commit target facing).Gives Allowed heeding fun _ after =>
      after.actor.Fit stage.currentRoom number := by
  split
  · exact fit
  · split
    · cases facing with
      | none => exact fit
      | some angle =>
        rw [Walk.gives_ite]
        split
        · exact fit
        · exact (fit.toInRange.turned (fits angle rfl)).fit _
    · exact commit_fit fit targetIn fits

/-- **An order to walk** aims an actor at a place of the field; it stays on the lane of its leg
until the next one is laid out. -/
theorem startWalk_fit (room : stage.room.InRange)
    (fit : walker.actor.Fit stage.currentRoom number) {dest : Point} (destIn : dest.InField)
    {facing : Option Int} (fits : ∀ angle ∈ facing, Fits16 angle) :
    (stage.startWalk dest facing).Gives Allowed walker fun _ after =>
      after.actor.Fit stage.currentRoom number := by
  simp only [startWalk, Walk.gives_bind, Walk.gives_actor, Walk.gives_lift, Walk.gives_ite,
    Walk.gives_change, Walk.gives_pure]
  have wants : (if stage.rules.adjustWalkDestination = true then stage.snap walker.actor dest
      else pure ⟨dest, none⟩).Gives Allowed fun wanted => wanted.pos.InField := by
    split
    · exact snap_gives room destIn
    · exact destIn
  refine wants.mono fun wanted wantedIn => ?_
  split
  next unseen =>
    -- the actor is there at once; its leg does not matter while it cannot be seen
    have hidden : walker.actor.room ≠ stage.currentRoom := by simpa [shows] using unseen
    cases facing with
    | none => exact { fit with pos := wantedIn, course := fun shown => absurd shown hidden }
    | some angle =>
      have faces : Fits16 ({ walker.actor with pos := wanted.pos } : Actor).facing := fit.facing
      obtain ⟨turned, redraw, turnedFits, same⟩ := Actor.setDirection_eq faces angle
      dsimp only
      rw [same]
      exact
        { fit with
          pos := wantedIn
          facing := turnedFits
          course := fun shown => absurd shown hidden }
  · refine (resolve_gives room wantedIn).mono fun target targetIn => ?_
    split
    · refine heed_fit ?_ targetIn fits _ _ _
      exact { fit with }
    · exact heed_fit fit targetIn fits _ _ _

end Stage

end Adventure
