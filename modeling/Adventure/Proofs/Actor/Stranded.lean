import Adventure.Proofs.Actor.Lingering
import Adventure.Proofs.Geometry.Field

/-!
# Where an actor without a way stops

A walk that leads to a box to which the routing knows no way ends where the actor is when the
routing is asked.  The actor then takes its own box for its destination: in the next tick it
arrives, after that it may turn, and nothing of this moves it.  This holds of every actor that
is on no leg when the routing is asked, and an actor is on no leg then unless an order has
reached it in the middle of one.  Such an actor walks its old leg to the end.
-/

set_option autoImplicit false

namespace Adventure

namespace Stage

variable {stage : Stage} {walker : Walker} {box : BoxId}

/-! ## Asking for the way -/

/-- What a tick does, before it searches, with an actor that is not on a leg any more. -/
def prepareSearch (stage : Stage) : Walk Bool := do
  let actor ← Walk.actor
  if actor.moving.has Moving.lastLeg then
    stage.arrive
    pure false
  else if actor.moving.has Moving.turn then
    stage.turnOnce
    pure false
  else
    Walk.changeChecked fun actor => stage.setBox actor.walk.curBox actor
    Walk.change fun actor => { actor with moving := actor.moving.only Moving.inLeg }
    Walk.change fun actor => { actor with moving := actor.moving.without Moving.newLeg }
    pure true

/-- What a tick does before it searches for the next leg; true when it does search. -/
def approach (stage : Stage) : Walk Bool := do
  let actor ← Walk.actor
  if !actor.isMoving then pure false
  else if actor.moving.has Moving.newLeg then
    Walk.change fun actor => { actor with moving := actor.moving.without Moving.newLeg }
    pure true
  else if actor.moving.has Moving.inLeg then
    if ← stage.walkStep then pure false else stage.prepareSearch
  else stage.prepareSearch

/-- The search that a tick comes to, if it comes to one. -/
def searchIf (stage : Stage) (fuel : Nat) (searches : Bool) : Walk Unit :=
  if searches then stage.route fuel else pure ()

theorem proceed_eq (stage : Stage) (fuel : Nat) :
    stage.proceed fuel = stage.prepareSearch >>= stage.searchIf fuel := by
  have nothing (part : Walk Unit) : (do part; pure false) >>= stage.searchIf fuel = part := by
    simp only [bind_assoc, pure_bind, searchIf, Bool.false_eq_true, if_false, bind_pure_unit]
  unfold proceed prepareSearch startRoute
  rw [bind_assoc]
  congr 1
  funext actor
  split
  · exact (nothing _).symm
  · split
    · exact (nothing _).symm
    · simp only [bind_assoc, pure_bind, searchIf, if_true]

/-- **A tick is an approach and a search.** -/
theorem advance_eq (stage : Stage) (fuel : Nat) :
    stage.advance fuel = stage.approach >>= stage.searchIf fuel := by
  have onward : (stage.walkStep >>= fun walking => if walking then pure () else stage.proceed fuel) =
      (stage.walkStep >>= fun walking => if walking then pure false else stage.prepareSearch) >>=
        stage.searchIf fuel := by
    rw [bind_assoc]
    congr 1
    funext walking
    cases walking with
    | true => rfl
    | false => exact proceed_eq stage fuel
  unfold advance approach
  rw [bind_assoc]
  congr 1
  funext actor
  split
  · rfl
  · split
    · rfl
    · dsimp only
      split
      · exact onward
      · exact proceed_eq stage fuel

/-- The rounds of a search, up to a moment between two of them. -/
inductive ComesTo (stage : Stage) : Walker → Walker → Prop where
  | here (walker : Walker) : ComesTo stage walker walker
  | again {walker next later : Walker} (round : stage.routeOnce.run walker = .ok (.again, next))
      (comes : ComesTo stage next later) : ComesTo stage walker later

/-- In a tick of the actor the routing is asked for a way from box `box`, and knows none. -/
structure Refuses (stage : Stage) (walker asking : Walker) (box : BoxId) : Prop where
  asks : ∃ start, stage.approach.run walker = .ok (true, start) ∧ stage.ComesTo start asking
  stands : asking.actor.walkBox = some box
  elsewhere : some box ≠ asking.actor.walk.destBox
  noWay : stage.room.nextBox (some box) asking.actor.walk.destBox = none

variable {asking start next : Walker}

/-- An actor to which the routing knows no way takes its own box for its destination. -/
def strand (actor : Actor) (box : BoxId) : Actor :=
  { actor with
    moving := actor.moving.plus Moving.lastLeg
    walk := { actor.walk with destBox := some box } }

/-- A refused search ends at once. -/
theorem Refuses.round (refuses : stage.Refuses walker asking box) :
    ∃ after, stage.routeOnce.run asking = .ok (.done, after) ∧
      after.actor = strand asking.actor box := by
  obtain ⟨-, stands, elsewhere, noWay⟩ := refuses
  have ends : stage.routeOnce.Gives (fun _ => False) asking fun round after =>
      round = .done ∧ after.actor = strand asking.actor box := by
    simp only [routeOnce, Walk.gives_bind, Walk.gives_actor]
    rw [stands]
    simp only [if_neg elsewhere, noWay, Walk.gives_bind, Walk.gives_log, Walk.gives_change,
      Walk.gives_pure]
    exact ⟨trivial, rfl⟩
  obtain ⟨⟨_, after⟩, ran, rfl, same⟩ := Checked.gives_false_iff.mp ends
  exact ⟨after, ran, same⟩

theorem ComesTo.route {after : Walker} (comes : stage.ComesTo start asking)
    (ends : stage.routeOnce.run asking = .ok (.done, after)) :
    ∃ rounds, ∀ fuel, rounds ≤ fuel → (stage.route fuel).run start = .ok ((), after) := by
  induction comes with
  | here =>
    refine ⟨1, fun fuel enough => ?_⟩
    obtain ⟨fuel, rfl⟩ := Nat.exists_eq_add_of_le' enough
    rw [Stage.route, StateT.run_bind, ends]
    rfl
  | again round _ ih =>
    obtain ⟨rounds, ran⟩ := ih ends
    refine ⟨rounds + 1, fun fuel enough => ?_⟩
    obtain ⟨fuel, rfl⟩ := Nat.exists_eq_add_of_le' (Nat.le_trans (Nat.le_add_left 1 rounds) enough)
    rw [Stage.route, StateT.run_bind, round]
    exact ran fuel (by omega)

/-- A tick whose search is refused ends there, once its bound lets it come so far. -/
theorem Refuses.advance (refuses : stage.Refuses walker asking box) :
    ∃ rounds after, after.actor = strand asking.actor box ∧
      ∀ fuel, rounds ≤ fuel → (stage.advance fuel).run walker = .ok ((), after) := by
  obtain ⟨after, ends, same⟩ := refuses.round
  obtain ⟨start, approaches, comes⟩ := refuses.asks
  obtain ⟨rounds, ran⟩ := comes.route ends
  refine ⟨rounds, after, same, fun fuel enough => ?_⟩
  rw [advance_eq, StateT.run_bind, approaches]
  exact ran fuel enough

/-! ## The bits of a leg -/

theorem faceLeg_newLeg : stage.faceLeg.Gives (fun _ => True) walker fun _ after =>
    after.actor.moving.has Moving.newLeg = walker.actor.moving.has Moving.newLeg := by
  simp only [faceLeg, Walk.gives_bind, Walk.gives_actor, Walk.gives_lift, Walk.gives_ite,
    Walk.gives_change, Walk.gives_pure]
  refine Checked.gives_anything.mono fun facing _ => ?_
  split
  · split
    · refine startAnim_gives fun frame redraw events => ?_
      unfold Actor.setDirection
      split
      · exact Moving.has_plus (by decide)
      · exact Moving.has_plus (by decide)
    · exact Moving.has_plus (by decide)
  · trivial

theorem setBox_moving {actor : Actor} (target : Option BoxId) :
    (stage.setBox target actor).Gives (fun _ => True) fun changed =>
      changed.moving = actor.moving := by
  refine (rescale_scales Checked.gives_anything).mono ?_
  rintro changed ⟨scaleX, scaleY, rfl, -⟩
  rfl

theorem enterBox_moving : stage.enterBox.Gives (fun _ => True) walker fun _ after =>
    after.actor.moving = walker.actor.moving := by
  simp only [enterBox, Walk.gives_bind, Walk.gives_actor, Walk.gives_lift, Walk.gives_ite,
    Walk.gives_changeChecked, Walk.gives_pure]
  split
  · refine Checked.gives_anything.mono fun inside _ => ?_
    split
    · exact setBox_moving _
    · trivial
  · trivial

/-- A step on a leg makes no new leg due, and a leg that it ends is over. -/
theorem walkStep_bits : stage.walkStep.Gives (fun _ => True) walker fun goesOn after =>
    after.actor.moving.has Moving.newLeg = walker.actor.moving.has Moving.newLeg ∧
      (goesOn = false → after.actor.moving.has Moving.inLeg = false) := by
  unfold walkStep
  rw [Walk.gives_bind]
  refine faceLeg_newLeg.mono fun _ faced newLeg => ?_
  rw [Walk.gives_bind]
  refine enterBox_moving.mono fun _ entered same => ?_
  rw [← newLeg, ← same]
  have cleared (moving : Moving) : (moving.without Moving.inLeg).has Moving.newLeg =
      moving.has Moving.newLeg ∧ (moving.without Moving.inLeg).has Moving.inLeg = false :=
    ⟨Moving.has_without (by decide), Moving.has_without_self _ (by decide)⟩
  simp only [endLeg, Leg.step, Walk.gives_bind, Walk.gives_actor, Walk.gives_lift,
    Walk.gives_ite, Walk.gives_change, Walk.gives_pure, Checked.gives_bind, Checked.gives_pure]
  refine Checked.gives_anything.mono fun lengthX _ => ?_
  refine Checked.gives_anything.mono fun lengthY _ => ?_
  refine Checked.gives_anything.mono fun ended _ => ?_
  split
  · exact ⟨(cleared _).1, fun _ => (cleared _).2⟩
  · refine Checked.gives_anything.mono fun x _ => ?_
    refine Checked.gives_anything.mono fun y _ => ?_
    split
    · exact ⟨(cleared _).1, fun _ => (cleared _).2⟩
    · exact ⟨trivial, by rintro ⟨⟩⟩

/-- No new leg becomes due, and none comes under way, on the way from one state of an actor to
another. -/
structure NoNewLeg (before after : Actor) : Prop where
  newLeg : before.moving.has Moving.newLeg = false → after.moving.has Moving.newLeg = false
  inLeg : before.moving.has Moving.inLeg = false → after.moving.has Moving.inLeg = false

theorem startLeg_noNewLeg {point : Point} :
    (stage.startLeg point).Gives (fun _ => True) walker fun goesOn after =>
      goesOn = false → NoNewLeg walker.actor after.actor := by
  simp only [startLeg, planLeg, Walk.gives_bind, Walk.gives_actor, Walk.gives_ite, Walk.gives_pure,
    Walk.gives_changeChecked, Checked.gives_bind, Checked.gives_pure]
  split
  · exact fun _ => ⟨id, id⟩
  · refine Checked.gives_anything.mono fun diffX _ => ?_
    refine Checked.gives_anything.mono fun diffY _ => ?_
    refine Checked.gives_anything.mono fun velocity _ => ?_
    refine walkStep_bits.mono ?_
    rintro goesOn after ⟨newLeg, cleared⟩ ended
    exact ⟨newLeg.trans, fun _ => cleared ended⟩

theorem routeOnce_noNewLeg :
    stage.routeOnce.Gives (fun _ => True) walker fun round after =>
      round = .again → NoNewLeg walker.actor after.actor := by
  simp only [routeOnce, Walk.gives_bind, Walk.gives_actor]
  split
  next =>
    simp only [Walk.gives_bind, Walk.gives_changeChecked, Walk.gives_change, Walk.gives_pure]
    exact Checked.gives_anything.mono fun _ _ => by rintro ⟨⟩
  next box _ =>
    rw [Walk.gives_ite]
    split
    · rintro ⟨⟩
    · split
      · simp only [Walk.gives_bind, Walk.gives_log, Walk.gives_change, Walk.gives_pure]
        rintro ⟨⟩
      next next _ =>
        simp only [Walk.gives_bind, Walk.gives_change, Walk.gives_lift]
        refine Checked.gives_anything.mono fun crossing _ => ?_
        cases crossing with
        | arrived => rintro ⟨⟩
        | notAdjacent => rintro ⟨⟩
        | via point =>
          simp only [Walk.gives_bind, Walk.gives_change]
          refine startLeg_noNewLeg.mono fun goesOn left ended => ?_
          simp only [Walk.gives_ite, Walk.gives_bind, Walk.gives_pure, Walk.gives_changeChecked]
          split
          · rintro ⟨⟩
          next halts =>
            obtain ⟨newLeg, inLeg⟩ := ended (Bool.eq_false_of_not_eq_true halts)
            refine (setBox_moving _).mono fun entered same _ => ?_
            exact ⟨same ▸ newLeg, same ▸ inLeg⟩

theorem ComesTo.noNewLeg {later : Walker} (comes : stage.ComesTo start later) :
    NoNewLeg start.actor later.actor := by
  induction comes with
  | here => exact ⟨id, id⟩
  | again round _ ih =>
    obtain ⟨newLeg, inLeg⟩ := routeOnce_noNewLeg.of_ok round rfl
    exact ⟨ih.newLeg ∘ newLeg, ih.inLeg ∘ inLeg⟩

theorem prepareSearch_noNewLeg :
    stage.prepareSearch.Gives (fun _ => True) walker fun searches start => searches = true →
      start.actor.moving.has Moving.newLeg = false ∧
        start.actor.moving.has Moving.inLeg = walker.actor.moving.has Moving.inLeg := by
  simp only [prepareSearch, Walk.gives_bind, Walk.gives_actor, Walk.gives_ite, Walk.gives_pure,
    Walk.gives_changeChecked, Walk.gives_change]
  split
  · exact Checked.gives_anything.mono fun _ _ => by rintro ⟨⟩
  · split
    · exact Checked.gives_anything.mono fun _ _ => by rintro ⟨⟩
    · refine (setBox_moving _).mono fun entered same _ => ?_
      refine ⟨Moving.has_without_self _ (by decide), ?_⟩
      rw [Moving.has_without (by decide), Moving.has_only (by decide), same]

/-- **A search begins on no leg**, unless an order has reached the actor in the middle of one. -/
theorem approach_noNewLeg :
    stage.approach.Gives (fun _ => True) walker fun searches start => searches = true →
      start.actor.moving.has Moving.newLeg = false ∧
        (start.actor.moving.has Moving.inLeg = true →
          walker.actor.moving.has Moving.newLeg = true ∧
            walker.actor.moving.has Moving.inLeg = true) := by
  simp only [approach, Walk.gives_bind, Walk.gives_actor, Walk.gives_ite, Walk.gives_pure,
    Walk.gives_change]
  split
  · rintro ⟨⟩
  · split
    next due =>
      refine fun _ => ⟨Moving.has_without_self _ (by decide), fun onLeg => ⟨due, ?_⟩⟩
      exact (Moving.has_without (by decide)).symm.trans onLeg
    · split
      next =>
        refine walkStep_bits.mono ?_
        rintro goesOn after ⟨-, cleared⟩
        split
        · rintro ⟨⟩
        next ended =>
          refine prepareSearch_noNewLeg.mono fun searches start prepared searched => ?_
          obtain ⟨newLeg, same⟩ := prepared searched
          rw [cleared (Bool.eq_false_of_not_eq_true ended)] at same
          exact ⟨newLeg, fun onLeg => absurd (same.symm.trans onLeg) Bool.false_ne_true⟩
      next offLeg =>
        refine prepareSearch_noNewLeg.mono fun searches start prepared searched => ?_
        obtain ⟨newLeg, same⟩ := prepared searched
        exact ⟨newLeg, fun onLeg => absurd (same.symm.trans onLeg) offLeg⟩

/-! ## Refused searches -/

/-- When the routing is asked no new leg is due any more. -/
theorem Refuses.newLeg (refuses : stage.Refuses walker asking box) :
    asking.actor.moving.has Moving.newLeg = false := by
  obtain ⟨start, approaches, comes⟩ := refuses.asks
  exact comes.noNewLeg.newLeg (approach_noNewLeg.of_ok approaches rfl).1

/-- The routing is asked on no leg, unless an order has reached the actor in the middle of one. -/
theorem Refuses.offLeg (refuses : stage.Refuses walker asking box)
    (calm : walker.actor.moving.has Moving.newLeg = true →
      walker.actor.moving.has Moving.inLeg = false) :
    asking.actor.moving.has Moving.inLeg = false := by
  obtain ⟨start, approaches, comes⟩ := refuses.asks
  refine comes.noNewLeg.inLeg (Bool.eq_false_of_not_eq_true fun onLeg => ?_)
  obtain ⟨due, onLegBefore⟩ := (approach_noNewLeg.of_ok approaches rfl).2 onLeg
  exact absurd ((calm due).symm.trans onLegBefore) Bool.false_ne_true

/-- **An actor without a way stops where it is.**  When the routing is asked for its way in a tick,
knows none, and the actor is on no leg, the tick ends there; and through all calls after it, until
the actor is ordered or placed anew, it stays in its place and its box, and it stands still after
at most two ticks more than half a compass has steps. -/
theorem refused_actor_stays (refuses : stage.Refuses walker asking box)
    (offLeg : asking.actor.moving.has Moving.inLeg = false) :
    ∃ rounds after,
      (∀ fuel, rounds ≤ fuel → (stage.advance fuel).run walker = .ok ((), after)) ∧
      (after.actor.pos = asking.actor.pos ∧ after.actor.walkBox = some box) ∧
      ∀ drives : List Drive, (∀ drive ∈ drives, drive.stage = stage) →
        (drives.forM Drive.carryOut).Gives
          (fun _ => ¬ (stage.room.Narrow ∧ asking.actor.FitsWords)) after fun _ later =>
            (later.actor.pos = asking.actor.pos ∧ later.actor.walkBox = some box) ∧
            (stage.halfCompass + 2 ≤ drives.countP Drive.isTick →
              later.actor.isMoving = false) := by
  obtain ⟨rounds, after, same, ran⟩ := refuses.advance
  have sound : stage.Sound (fun _ => ¬ (stage.room.Narrow ∧ asking.actor.FitsWords))
      after.actor := by
    by_cases fits : stage.room.Narrow ∧ asking.actor.FitsWords
    · rw [same]
      exact .inr ⟨fits.1, { fits.2 with }⟩
    · exact .inl fun _ => fits
  have lingers : Lingers (fun _ => ¬ (stage.room.Narrow ∧ asking.actor.FitsWords)) stage
      asking.actor.pos box (stage.halfCompass + 2) after.actor := by
    refine ⟨?_, ?_, ?_, sound⟩
    · rw [same]
      rfl
    · rw [same]
      exact refuses.stands
    · rw [same]
      refine .ends (Nat.lt_succ_self _) ?_ ?_ (Moving.has_plus_self _ _) refuses.stands.symm
      · exact (Moving.has_plus (by decide)).trans refuses.newLeg
      · exact (Moving.has_plus (by decide)).trans offLeg
  refine ⟨rounds, after, ran, ⟨lingers.pos, lingers.stands⟩, fun drives seen => ?_⟩
  refine (drives_linger lingers seen).mono fun _ later lingers => ?_
  refine ⟨⟨lingers.pos, lingers.stands⟩, fun enough => ?_⟩
  have windsDown := lingers.windsDown
  rw [Nat.sub_eq_zero_of_le enough] at windsDown
  exact windsDown.stopped

/-- Two boxes side by side and a third one behind a gap, after one that is only a point. -/
def gapStage : Stage :=
  ⟨(Room.plain 1 [plainBox 0 0 0 0, plainBox 0 0 100 50, plainBox 100 0 200 50,
    plainBox 210 10 300 40] .empty).rebuildMatrix, .standard, 1, none⟩

/-- An actor in the first of the boxes. -/
def besideGap : Walker := Walker.after ⟨Actor.fresh 1, []⟩ (gapStage.put ⟨20, 25⟩ 1)

/-- The same actor, sent across the gap. -/
def sentAcrossGap : Walker := besideGap.after (gapStage.startWalk ⟨250, 25⟩ none)

theorem gapStage_narrow : gapStage.room.Narrow := by
  have inField : gapStage.room.BoxesInField := by decide
  refine ⟨fun box member => (inField box member).narrow, fun ramp member => ?_⟩
  cases List.eq_of_mem_replicate member
  exact ⟨by decide, by decide, by decide, by decide, by decide, by decide⟩

/-- The actor as the routing is asked for the way across the gap. -/
def askingAtGap (walker : Walker) : Walker :=
  { walker with
    actor := { walker.actor with moving := walker.actor.moving.without Moving.newLeg } }

/-- Standing still when it is sent across the gap, the actor stays. -/
theorem refused_actor_stays_sentAcrossGap :
    (gapStage.Refuses sentAcrossGap (askingAtGap sentAcrossGap) 1 ∧
      (askingAtGap sentAcrossGap).actor.moving.has Moving.inLeg = false) ∧
    ∃ rounds after,
      (∀ fuel, rounds ≤ fuel →
        (gapStage.advance fuel).run sentAcrossGap = .ok ((), after)) ∧
      ∀ drives : List Drive, (∀ drive ∈ drives, drive.stage = gapStage) →
        (drives.forM Drive.carryOut).Gives (fun _ => False) after fun _ later =>
          later.actor.pos = ⟨20, 25⟩ ∧ later.actor.walkBox = some 1 ∧
            (4 ≤ drives.countP Drive.isTick → later.actor.isMoving = false) := by
  have refuses : gapStage.Refuses sentAcrossGap (askingAtGap sentAcrossGap) 1 :=
    ⟨⟨_, rfl, .here _⟩, rfl, by decide, rfl⟩
  have offLeg : (askingAtGap sentAcrossGap).actor.moving.has Moving.inLeg = false :=
    refuses.offLeg fun _ => rfl
  have fits : (askingAtGap sentAcrossGap).actor.FitsWords :=
    ⟨⟨by decide, by decide⟩, by decide, by rintro angle ⟨⟩⟩
  obtain ⟨rounds, after, ran, -, stays⟩ := refused_actor_stays refuses offLeg
  refine ⟨⟨refuses, offLeg⟩, rounds, after, ran, fun drives seen => ?_⟩
  refine ((stays drives seen).allow fun _ strained => strained ⟨gapStage_narrow, fits⟩).mono ?_
  rintro ⟨_, later⟩ ⟨⟨place, stands⟩, stops⟩
  exact ⟨place, stands, stops⟩

/-- The actor on its way to the second box. -/
def nearingGap : Walker :=
  (besideGap.after (gapStage.startWalk ⟨150, 25⟩ none)).after (gapStage.advance 256)

/-- The same actor, sent across the gap in the middle of its leg. -/
def divertedToGap : Walker := nearingGap.after (gapStage.startWalk ⟨250, 25⟩ none)

/-- Sent across the gap in the middle of a leg, the actor walks on. -/
theorem divertedToGap_walks_on :
    gapStage.Refuses divertedToGap (askingAtGap divertedToGap) 1 ∧
      (askingAtGap divertedToGap).actor.pos = ⟨27, 25⟩ ∧
      ∃ refused later, (gapStage.advance 256).run divertedToGap = .ok ((), refused) ∧
        (gapStage.advance 256).run refused = .ok ((), later) ∧ later.actor.pos = ⟨35, 25⟩ := by
  refine ⟨⟨⟨_, rfl, .here _⟩, rfl, by decide, rfl⟩, rfl, ?_⟩
  exact ⟨divertedToGap.after (gapStage.advance 256),
    (divertedToGap.after (gapStage.advance 256)).after (gapStage.advance 256), rfl, rfl, rfl⟩

end Stage

end Adventure
