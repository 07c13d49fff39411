import Adventure.Proofs.Actor.LegEnds
import Adventure.Proofs.Geometry.Nearest

/-!
# The track of a leg

An actor on a leg leaves a footprint with every call.  The footprints lie in the rectangle
between the ends of the leg, and none of them is farther from the last end, along either axis,
than the one before: an axis only moves toward its end (`Strides.toward`), and it is held there.
So a leg is over only where it was to end.
-/

set_option autoImplicit false

namespace Adventure

open Word

variable {Allowed : Fault → Prop}

/-- Along neither axis is the second point farther from `aim` than the first. -/
structure Point.Approaches (aim p q : Point) : Prop where
  x : (aim.x - q.x).natAbs ≤ (aim.x - p.x).natAbs
  y : (aim.y - q.y).natAbs ≤ (aim.y - p.y).natAbs

theorem Point.Approaches.refl (aim p : Point) : aim.Approaches p p :=
  ⟨Nat.le_refl _, Nat.le_refl _⟩

namespace Leg

/-- **A step along one axis turns neither back nor overshoots.**  An axis with units left strides
over some of them and past none; one without units left stands on its end. -/
theorem Strides.toward {start stop delta pos moved : Int} {frac left : UInt16}
    (strides : Strides start stop delta pos frac moved left) (axis : Axis start stop delta pos)
    (axis' : Axis start stop delta moved) : (stop - moved).natAbs ≤ (stop - pos).natAbs := by
  have fraction := frac.toNat_lt
  have rest := left.toNat_lt
  have between := axis.between
  have between' := axis'.between
  by_cases idle : delta / 256 = 0
  · rw [strides.still idle]
  · have closer := strides.closer (.inl idle)
    unfold ahead at closer
    split at closer
    · split at closer <;> omega
    · split at closer <;> split at closer <;> omega

end Leg

namespace Stage

variable {stage : Stage} {walker : Walker} {before after actor : Actor}

/-! ## Footprints -/

/-- What a call leaves behind: whether the leg goes on, and the actor. -/
structure Footprint where
  goesOn : Bool
  actor : Actor

/-- The footprints of calls on a leg, each of them under a scale of its own, up to the call that
ends the leg. -/
def trackOn (stage : Stage) : List (Int × Int) → Walk (List Footprint)
  | [] => pure []
  | scale :: scales => do
    Walk.change (Actor.withScale scale)
    let goesOn ← stage.walkStep
    let here ← Walk.actor
    if goesOn then return ⟨true, here⟩ :: (← stage.trackOn scales) else return [⟨false, here⟩]

/-- The footprints of a whole leg: of its start, and of the calls after it. -/
def trackLeg (stage : Stage) (next : Point) (scales : List (Int × Int)) :
    Walk (List Footprint) := do
  let goesOn ← stage.startLeg next
  let here ← Walk.actor
  if goesOn then return ⟨true, here⟩ :: (← stage.trackOn scales) else return [⟨false, here⟩]

/-- An actor on the leg from `start` to `next`: it stands in the rectangle of the leg, moves toward
its end along both axes, and exceeds no speed. -/
structure OnCourse (start next : Point) (speedX speedY : Int) (actor : Actor) : Prop where
  x : Between start.x next.x actor.pos.x
  y : Between start.y next.y actor.pos.y
  signX : actor.walk.deltaX.sign = (next.x - start.x).sign
  signY : actor.walk.deltaY.sign = (next.y - start.y).sign
  deltaX : (actor.walk.deltaX.natAbs : Int) < (speedX + 1) * 65536
  deltaY : (actor.walk.deltaY.natAbs : Int) ≤ speedY * 65536

/-- The leg and its velocity stay the same. -/
structure SameLeg (before after : Actor) : Prop where
  legStart : after.walk.legStart = before.walk.legStart
  legEnd : after.walk.legEnd = before.walk.legEnd
  deltaX : after.walk.deltaX = before.walk.deltaX
  deltaY : after.walk.deltaY = before.walk.deltaY

theorem SameLeg.trans {first second third : Actor} (one : SameLeg first second)
    (two : SameLeg second third) : SameLeg first third :=
  ⟨two.legStart.trans one.legStart, two.legEnd.trans one.legEnd, two.deltaX.trans one.deltaX,
    two.deltaY.trans one.deltaY⟩

theorem Strode.sameLeg (strode : Strode before after) : SameLeg before after :=
  ⟨strode.legStart, strode.legEnd, strode.deltaX, strode.deltaY⟩

theorem Strode.approaches (strode : Strode before after) (on : OnLeg before) (on' : OnLeg after) :
    before.walk.legEnd.Approaches before.pos after.pos := by
  obtain ⟨x, y, _⟩ := on'
  rw [strode.legStart, strode.legEnd] at x y
  rw [strode.deltaX] at x
  rw [strode.deltaY] at y
  exact ⟨strode.x.toward on.x x, strode.y.toward on.y y⟩

/-- What the footprints on a leg are like, from an actor on it on. -/
structure Track (actor : Actor) (prints : List Footprint) : Prop where
  onLeg : ∀ print ∈ prints, OnLeg print.actor ∧ SameLeg actor print.actor
  ends : ∀ print ∈ prints, print.goesOn = false → print.actor.pos = actor.walk.legEnd
  chain : (actor.pos :: prints.map (·.actor.pos)).IsChain actor.walk.legEnd.Approaches

theorem Track.nil (actor : Actor) : Track actor [] :=
  ⟨fun _ member => absurd member List.not_mem_nil, fun _ member => absurd member List.not_mem_nil,
    List.IsChain.singleton _⟩

/-- A call and the footprints after it. -/
theorem Track.cons {goesOn : Bool} {prints : List Footprint} (strode : Strode before after)
    (on : OnLeg before) (on' : OnLeg after)
    (ended : goesOn = false → after.pos = before.walk.legEnd) (track : Track after prints) :
    Track before (⟨goesOn, after⟩ :: prints) := by
  obtain ⟨onLeg, ends, chain⟩ := track
  rw [strode.legEnd] at ends chain
  refine ⟨?_, ?_, ?_⟩
  · intro print member
    rcases List.mem_cons.mp member with rfl | member
    · exact ⟨on', strode.sameLeg⟩
    · obtain ⟨there, same⟩ := onLeg print member
      exact ⟨there, strode.sameLeg.trans same⟩
  · intro print member
    rcases List.mem_cons.mp member with rfl | member
    · exact ended
    · exact ends print member
  · exact .cons_cons (strode.approaches on on') chain

/-- **Every call on a leg adds a footprint to its track.** -/
theorem trackOn_gives (answers : stage.room.Answers Allowed) (scales : List (Int × Int))
    (real : ∀ scale ∈ scales, IsScale scale.1 ∧ IsScale scale.2) (on : OnLeg walker.actor) :
    (stage.trackOn scales).Gives Allowed walker fun prints _ => Track walker.actor prints := by
  induction scales generalizing walker with
  | nil => exact .nil _
  | cons scale scales ih =>
    simp only [trackOn, Walk.gives_bind, Walk.gives_change, Walk.gives_actor]
    have scaled : Scaled (walker.actor.withScale scale) := real scale List.mem_cons_self
    have called : stage.walkStep.Gives _ ⟨walker.actor.withScale scale, walker.events⟩ _ :=
      walkStep_onLeg answers (on.withScale scale) scaled
    refine called.mono ?_
    rintro goesOn after ⟨on', ⟨legStart, legEnd, deltaX, deltaY, x, y⟩, ended, _⟩
    have strode : Strode walker.actor after.actor := ⟨legStart, legEnd, deltaX, deltaY, x, y⟩
    simp only [Walk.gives_ite, Walk.gives_bind, Walk.gives_pure]
    split
    · refine (ih (fun scale member => real scale (List.mem_cons_of_mem _ member)) on').mono ?_
      intro prints _ track
      exact track.cons strode on on' (by rintro ⟨⟩)
    next halts =>
      have there := ended (Bool.eq_false_of_not_eq_true halts)
      exact (Track.nil after.actor).cons strode on on' fun _ => there

/-! ## Whole legs -/

theorem planLeg_paced {next : Point} (can : CanWalk actor next) (away : actor.pos ≠ next) :
    (planLeg next actor).Gives Allowed fun planned =>
      planned.pos = actor.pos ∧ planned.walk.legStart = actor.pos ∧
        (planned.walk.deltaX.natAbs : Int) < (actor.speedX + 1) * 65536 ∧
        (planned.walk.deltaY.natAbs : Int) ≤ actor.speedY * 65536 := by
  obtain ⟨fastX, fastY, _, ⟨px, py⟩, nx, ny⟩ := can
  have apart : next.x - actor.pos.x ≠ 0 ∨ next.y - actor.pos.y ≠ 0 := by
    have parts : ¬ (actor.pos.x = next.x ∧ actor.pos.y = next.y) :=
      fun both => away (Point.eq_iff.mpr both)
    omega
  simp only [planLeg, Checked.gives_bind, Checked.gives_pure]
  rw [gives_sub32 (by omega), gives_sub32 (by omega)]
  refine (Leg.plan_gives fastX fastY (by omega) (by omega) apart).mono fun velocity plan => ?_
  obtain ⟨_, _, xLt, yLe⟩ := plan
  rw [wrap32_eq (by omega), wrap32_eq (by omega)]
  exact ⟨trivial, trivial, by omega, by omega⟩

variable {next : Point} {scales : List (Int × Int)}

/-- **A leg never overshoots, never turns back and never ends short.**  Whatever the room, the
rules and the scales on the way are: a call that ends the leg leaves the actor on its end; every
footprint is on the course from the start of the leg to its end; and from one to the next the
actor gets no farther from the end, along either axis.  There is no fault but in rooms that do
not fit words of 16 bits. -/
theorem leg_keeps_course (can : CanWalk walker.actor next)
    (real : ∀ scale ∈ scales, IsScale scale.1 ∧ IsScale scale.2) :
    (stage.trackLeg next scales).Gives (TooWide stage.room) walker fun prints _ =>
      (∀ print ∈ prints, print.goesOn = false → print.actor.pos = next) ∧
      (walker.actor.pos ≠ next → ∀ print ∈ prints,
        OnCourse walker.actor.pos next walker.actor.speedX walker.actor.speedY print.actor) ∧
      (walker.actor.pos :: prints.map (·.actor.pos)).IsChain next.Approaches := by
  by_cases there : walker.actor.pos = next
  · have stays : (stage.trackLeg next scales).Gives (TooWide stage.room) walker
        fun prints _ => prints = [⟨false, walker.actor⟩] := by
      simp [trackLeg, startLeg, there]
    refine stays.mono ?_
    rintro _ _ rfl
    refine ⟨fun print member _ => ?_, fun away => absurd there away,
      .cons_cons (.refl _ _) (.singleton _)⟩
    rw [List.mem_singleton.mp member]
    exact there
  · simp only [trackLeg, startLeg, Walk.gives_bind, Walk.gives_actor, if_neg there,
      Walk.gives_changeChecked]
    refine ((planLeg_gives can there).and_value (planLeg_paced can there)).mono ?_
    rintro planned ⟨out, pos, legStart, fastX, fastY⟩
    -- the start of a leg is its first call
    have walked : (stage.trackOn ((planned.scaleX, planned.scaleY) :: scales)).Gives
        (TooWide stage.room) { walker with actor := planned } fun prints _ =>
          Track planned prints := by
      refine trackOn_gives (answers_tooWide stage.room) _ ?_ out.on
      intro scale member
      rcases List.mem_cons.mp member with rfl | member
      · exact out.scaled
      · exact real scale member
    simp only [trackOn, Walk.gives_bind, Walk.gives_change, Walk.gives_actor] at walked
    refine walked.mono fun _ _ walked => Walk.Gives.mono walked ?_
    rintro prints _ ⟨onLeg, ends, chain⟩
    rw [out.legEnd] at ends chain
    rw [pos] at chain
    refine ⟨ends, fun _ print member => ?_, chain⟩
    obtain ⟨⟨x, y, _⟩, same⟩ := onLeg print member
    rw [same.legStart, same.legEnd, legStart, out.legEnd] at x y
    have betweenX := x.between
    have betweenY := y.between
    rw [← same.deltaX] at fastX
    rw [← same.deltaY] at fastY
    exact ⟨by omega, by omega, x.sign, y.sign, fastX, fastY⟩

/-- An actor in the middle of the long room. -/
def upWalker : Walker :=
  ⟨{ Actor.fresh 1 with room := 1, pos := ⟨40, 25⟩, walkBox := some 0 }, []⟩

/-- On its way back and up the actor is scaled down and up again. -/
theorem leg_keeps_course_upWalker :
    (CanWalk upWalker.actor ⟨31, 18⟩ ∧
      ∀ scale ∈ [((100, 100) : Int × Int), (1, 255), (255, 255)],
        IsScale scale.1 ∧ IsScale scale.2) ∧
    ∃ prints after,
      (longStage.trackLeg ⟨31, 18⟩ [(100, 100), (1, 255), (255, 255)]).run upWalker =
        .ok (prints, after) ∧
      (∀ print ∈ prints, print.goesOn = false → print.actor.pos = ⟨31, 18⟩) ∧
      (∀ print ∈ prints, OnCourse ⟨40, 25⟩ ⟨31, 18⟩ 8 2 print.actor) ∧
      (⟨40, 25⟩ :: prints.map (·.actor.pos)).IsChain (Point.Approaches ⟨31, 18⟩) := by
  have can : CanWalk upWalker.actor ⟨31, 18⟩ :=
    ⟨by decide, by decide, ⟨by decide, by decide⟩, ⟨by decide, by decide⟩, ⟨by decide, by decide⟩⟩
  have real : ∀ scale ∈ [((100, 100) : Int × Int), (1, 255), (255, 255)],
      IsScale scale.1 ∧ IsScale scale.2 := by decide
  generalize [((100, 100) : Int × Int), (1, 255), (255, 255)] = scales at *
  obtain ⟨prints, after, ran, ends, course, chain⟩ :=
    run_eq_ok_of_narrow longStage_narrow
      (@leg_keeps_course longStage upWalker ⟨31, 18⟩ scales can real)
  exact ⟨⟨can, real⟩, prints, after, ran, ends, course (by decide), chain⟩

end Stage

end Adventure
