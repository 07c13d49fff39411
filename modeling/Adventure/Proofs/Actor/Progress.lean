import Adventure.Proofs.Actor.Rounds
import Adventure.Proofs.Actor.Tour

/-!
# A walk only comes closer

The box of a walking actor is written in four places: at the end of a leg, between two
rounds of the search for the next leg, on the way when the actor stands in the box its leg
leads to, and on arrival.  The first three write the box the current leg leads to, and what
keeps the walk on its course is that this is always the actor's own box or the next hop from
there (`OnWay`).  So every box on the tour of a tick is a hop of the routing closer, or the
destination.
-/

set_option autoImplicit false

namespace Adventure

open Adventure.Matrix

variable {count : Nat} {neighbours : BoxId → BoxId → Bool} {d : BoxId}

/-! ## The boxes of a tour -/

/-- A room whose routing was rebuilt from adjacency; flags and ramps may have changed since. -/
structure Room.Routed (count : Nat) (neighbours : BoxId → BoxId → Bool) (room : Room) : Prop where
  boxes : room.boxes.length = count
  matrix : room.matrix = rebuild count neighbours

/-- What a part of a tick may do to the box of an actor on its way to box `d`. -/
inductive Visit.Follows (count : Nat) (neighbours : BoxId → BoxId → Bool) (d : BoxId)
    (before : Option BoxId) : Visit → Prop where
  /-- The actor stays in its box. -/
  | stays {arrival : Bool} : Follows count neighbours d before ⟨before, arrival⟩
  /-- The actor enters the next box on its way. -/
  | enters {box next : BoxId} (stood : before = some box)
      (hop : (rebuild count neighbours).nextBox (some box) (some d) = some next) :
      Follows count neighbours d before ⟨some next, false⟩
  /-- The actor arrives in its last box. -/
  | arrives : Follows count neighbours d before ⟨some d, true⟩

/-- A record of visits, from one box to another, in which each one follows from the one
before. -/
inductive Trail (count : Nat) (neighbours : BoxId → BoxId → Bool) (d : BoxId)
    (start : Option BoxId) : List Visit → Option BoxId → Prop where
  | start : Trail count neighbours d start [] start
  | visit {record : List Visit} {before : Option BoxId} {visit : Visit}
      (trail : Trail count neighbours d start record before)
      (follows : visit.Follows count neighbours d before) :
      Trail count neighbours d start (record ++ [visit]) visit.box

/-- A hop is one step closer, except that from the destination it leads nowhere else. -/
theorem hop_closer {box next : BoxId} {far : Nat}
    (distance : IsDistance neighbours (routable count) far box d)
    (hop : (rebuild count neighbours).nextBox (some box) (some d) = some next) :
    ∃ near, IsDistance neighbours (routable count) near next d ∧ near ≤ far := by
  by_cases same : box = d
  · rw [nextBox, if_pos same] at hop
    cases hop
    exact ⟨far, same ▸ distance, Nat.le_refl _⟩
  · obtain ⟨-, rest, fromBox, fromNext⟩ := nextBox_rebuild_closer count neighbours same hop
    obtain rfl := fromBox.unique distance
    exact ⟨rest, fromNext, Nat.le_succ _⟩

/-- **No visit of a trail is farther from the destination than its start.** -/
theorem Trail.closer {box : BoxId} {far : Nat} {record : List Visit} {last : Option BoxId}
    (trail : Trail count neighbours d (some box) record last)
    (distance : IsDistance neighbours (routable count) far box d) :
    ∃ next near, last = some next ∧ IsDistance neighbours (routable count) near next d ∧
      near ≤ far := by
  induction trail with
  | start => exact ⟨box, far, rfl, distance, Nat.le_refl _⟩
  | visit _ follows ih =>
    obtain ⟨middle, between, same, fromMiddle, le⟩ := ih
    cases follows with
    | stays => exact ⟨middle, between, same, fromMiddle, le⟩
    | enters stood hop =>
      obtain rfl := Option.some.inj (same.symm.trans stood)
      obtain ⟨near, fromNext, nearer⟩ := hop_closer fromMiddle hop
      exact ⟨_, near, rfl, fromNext, Nat.le_trans nearer le⟩
    | arrives =>
      have home : IsDistance neighbours (routable count) 0 d d :=
        ⟨.stay distance.1.target_lt, fun _ _ => Nat.zero_le _⟩
      exact ⟨d, 0, rfl, home, Nat.zero_le _⟩

/-! ## What keeps a walk on its course -/

/-- An actor on its way to box `d`: its leg leads to its own box or to the next one. -/
structure OnWay (count : Nat) (neighbours : BoxId → BoxId → Bool) (d box : BoxId)
    (actor : Actor) : Prop where
  stands : actor.walkBox = some box
  target : actor.walk.destBox = some d
  ahead : actor.walk.curBox = some box ∨
    actor.walk.curBox = (rebuild count neighbours).nextBox (some box) (some d)
  reachable : Reachable neighbours (routable count) box d

/-- An actor that has arrived in box `d`; it may still turn. -/
structure Arrived (d : BoxId) (actor : Actor) : Prop where
  stands : actor.walkBox = some d
  rests : actor.moving = .still ∨ actor.moving = ⟨Moving.turn⟩

theorem exists_hop {box : BoxId} (reachable : Reachable neighbours (routable count) box d) :
    ∃ next, (rebuild count neighbours).nextBox (some box) (some d) = some next ∧
      Reachable neighbours (routable count) next d := by
  by_cases same : box = d
  · exact ⟨d, by rw [nextBox, if_pos same], same ▸ reachable⟩
  · obtain ⟨next, hop⟩ := exists_nextBox_rebuild count neighbours same reachable
    obtain ⟨-, rest, -, fromNext⟩ := nextBox_rebuild_closer count neighbours same hop
    exact ⟨next, hop, rest, fromNext.1⟩

/-- What a part of a tick does with the boxes of an actor. -/
inductive Passing (before after : Actor) : Prop where
  /-- The boxes stay as they are. -/
  | stays (box : after.walkBox = before.walkBox) (target : after.walk.destBox = before.walk.destBox)
      (ahead : after.walk.curBox = before.walk.curBox)
  /-- The actor enters the box its leg leads to. -/
  | enters (box : after.walkBox = before.walk.curBox)
      (target : after.walk.destBox = before.walk.destBox)
      (ahead : after.walk.curBox = before.walk.curBox)

theorem Passing.ahead {before after : Actor} (passing : Passing before after) :
    after.walk.curBox = before.walk.curBox := by
  cases passing with
  | stays _ _ ahead => exact ahead
  | enters _ _ ahead => exact ahead

/-- The record of a tour so far, and the actor on its way. -/
structure Underway (count : Nat) (neighbours : BoxId → BoxId → Bool) (d : BoxId)
    (start : Option BoxId) (record : List Visit) (actor : Actor) : Prop where
  trail : Trail count neighbours d start record actor.walkBox
  onWay : ∃ box, OnWay count neighbours d box actor

variable {start : Option BoxId} {record : List Visit} {actor after : Actor}

/-- **No part leads off the way**: an actor that enters the box its leg leads to enters the next
one. -/
theorem Underway.passing (underway : Underway count neighbours d start record actor)
    (passing : Passing actor after) :
    Underway count neighbours d start (record ++ [⟨after.walkBox, false⟩]) after := by
  obtain ⟨trail, box, onWay⟩ := underway
  cases passing with
  | stays sameBox sameTarget sameAhead =>
    refine ⟨trail.visit (sameBox ▸ .stays), box, ?_⟩
    exact ⟨sameBox.trans onWay.stands, sameTarget.trans onWay.target,
      sameAhead ▸ onWay.ahead, onWay.reachable⟩
  | enters entered sameTarget sameAhead =>
    rcases onWay.ahead with own | next
    · have stays : after.walkBox = actor.walkBox := entered.trans (own.trans onWay.stands.symm)
      refine ⟨trail.visit (stays ▸ .stays), box, ?_⟩
      exact ⟨stays.trans onWay.stands, sameTarget.trans onWay.target, .inl (sameAhead.trans own),
        onWay.reachable⟩
    · obtain ⟨hop, found, reachable⟩ := exists_hop onWay.reachable
      have ahead : actor.walk.curBox = some hop := next.trans found
      have inside : after.walkBox = some hop := entered.trans ahead
      refine ⟨trail.visit (inside ▸ .enters onWay.stands found), hop, ?_⟩
      exact ⟨inside, sameTarget.trans onWay.target, .inl (sameAhead.trans ahead), reachable⟩

/-- An actor on its way to box `d`, or in it for good. -/
def Heading (count : Nat) (neighbours : BoxId → BoxId → Bool) (d : BoxId) (actor : Actor) : Prop :=
  (∃ box, OnWay count neighbours d box actor) ∨ Arrived d actor

/-- The record of a tour so far, and the actor on its way or at home. -/
structure Toward (count : Nat) (neighbours : BoxId → BoxId → Bool) (d : BoxId)
    (start : Option BoxId) (record : List Visit) (actor : Actor) : Prop where
  trail : Trail count neighbours d start record actor.walkBox
  heading : Heading count neighbours d actor

theorem Underway.toward (underway : Underway count neighbours d start record actor) :
    Toward count neighbours d start record actor :=
  ⟨underway.trail, .inl underway.onWay⟩

/-! ## Parts of a tick -/

namespace Stage

variable {stage : Stage} {walker : Walker}

/-- A change that the rule itself shows to leave the boxes alone. -/
theorem passing_of_change {rule : Actor → Actor}
    (box : (rule walker.actor).walkBox = walker.actor.walkBox)
    (target : (rule walker.actor).walk.destBox = walker.actor.walk.destBox)
    (ahead : (rule walker.actor).walk.curBox = walker.actor.walk.curBox) :
    (Walk.change rule).Gives (fun _ => True) walker fun _ after =>
      Passing walker.actor after.actor :=
  .stays box target ahead

theorem faceLeg_passing :
    stage.faceLeg.Gives (fun _ => True) walker fun _ after => Passing walker.actor after.actor := by
  simp only [faceLeg, Walk.gives_bind, Walk.gives_actor, Walk.gives_lift, Walk.gives_ite,
    Walk.gives_change, Walk.gives_pure]
  refine Checked.gives_anything.mono fun facing _ => ?_
  split
  · split
    · refine startAnim_gives fun frame redraw events => ?_
      unfold Actor.setDirection
      split
      · exact .stays rfl rfl rfl
      · exact .stays rfl rfl rfl
    · exact .stays rfl rfl rfl
  · exact .stays rfl rfl rfl

theorem setBox_passing :
    (Walk.changeChecked fun actor => stage.setBox actor.walk.curBox actor).Gives (fun _ => True)
      walker fun _ after => Passing walker.actor after.actor := by
  rw [Walk.gives_changeChecked]
  refine (setBox_gives Checked.gives_anything).mono fun changed both => ?_
  obtain ⟨inside, ready⟩ := both
  exact .enters inside (by rw [ready.walk]) (by rw [ready.walk])

theorem enterBox_passing :
    stage.enterBox.Gives (fun _ => True) walker fun _ after =>
      Passing walker.actor after.actor := by
  simp only [enterBox, Walk.gives_bind, Walk.gives_actor, Walk.gives_lift, Walk.gives_ite,
    Walk.gives_pure]
  split
  · refine Checked.gives_anything.mono fun inside _ => ?_
    split
    · exact setBox_passing
    · exact .stays rfl rfl rfl
  · exact .stays rfl rfl rfl

theorem strideOn_passing :
    stage.strideOn.Gives (fun _ => True) walker fun _ after =>
      Passing walker.actor after.actor := by
  simp only [strideOn, endLeg, Leg.step, Walk.gives_bind, Walk.gives_actor, Walk.gives_lift,
    Walk.gives_ite, Walk.gives_change, Walk.gives_pure, Checked.gives_bind, Checked.gives_pure]
  refine Checked.gives_anything.mono fun lengthX _ => ?_
  refine Checked.gives_anything.mono fun lengthY _ => ?_
  refine Checked.gives_anything.mono fun ended _ => ?_
  split
  · exact .stays rfl rfl rfl
  · refine Checked.gives_anything.mono fun x _ => ?_
    refine Checked.gives_anything.mono fun y _ => ?_
    split
    · exact .stays rfl rfl rfl
    · exact .stays rfl rfl rfl

theorem planLeg_passing {next : Point} :
    (Walk.changeChecked (planLeg next)).Gives (fun _ => True) walker fun _ after =>
      Passing walker.actor after.actor := by
  simp only [planLeg, Walk.gives_changeChecked, Checked.gives_bind, Checked.gives_pure]
  refine Checked.gives_anything.mono fun diffX _ => ?_
  refine Checked.gives_anything.mono fun diffY _ => ?_
  exact Checked.gives_anything.mono fun velocity _ => .stays rfl rfl rfl

/-- A turn on the spot leaves the boxes alone, and ends or goes on. -/
theorem turnOnce_gives :
    stage.turnOnce.Gives (fun _ => True) walker fun _ after =>
      Passing walker.actor after.actor ∧ after.actor.walkBox = walker.actor.walkBox ∧
        (after.actor.moving = .still ∨ after.actor.moving = walker.actor.moving) := by
  simp only [turnOnce, Walk.gives_bind, Walk.gives_actor, Walk.gives_lift, Walk.gives_ite,
    Walk.gives_change]
  refine Checked.gives_anything.mono fun next _ => ?_
  split
  · exact ⟨.stays rfl rfl rfl, rfl, .inl rfl⟩
  · unfold Actor.setDirection
    split
    · exact ⟨.stays rfl rfl rfl, rfl, .inr rfl⟩
    · exact ⟨.stays rfl rfl rfl, rfl, .inr rfl⟩

theorem arrive_arrived (target : walker.actor.walk.destBox = some d) :
    stage.arrive.Gives (fun _ => True) walker fun _ after => Arrived d after.actor := by
  simp only [arrive, Walk.gives_bind, Walk.gives_actor, Walk.gives_change, Walk.gives_changeChecked,
    Walk.gives_log]
  refine (rescale_scales Checked.gives_anything).mono ?_
  rintro changed ⟨scaleX, scaleY, rfl, -⟩
  refine startAnim_gives fun frame redraw events => ?_
  dsimp only
  split
  · exact ⟨target, .inl rfl⟩
  · unfold Actor.turnTo
    split
    · exact ⟨target, .inr rfl⟩
    · exact ⟨target, .inl rfl⟩

/-! ## The search for the next leg -/

/-- A tour from which the actor comes back on its way, its leg leading where it led. -/
def KeepsOn (count : Nat) (neighbours : BoxId → BoxId → Bool) (d : BoxId)
    (start : Option BoxId) {α : Type} (tour : Tour α) : Prop :=
  ∀ record walker, Underway count neighbours d start record walker.actor →
    tour.Gives record walker fun _ record after =>
      Underway count neighbours d start record after.actor ∧
        after.actor.walk.curBox = walker.actor.walk.curBox

section Search

variable {α β : Type} {tour : Tour α}

theorem keepsOn_pure (value : α) :
    KeepsOn count neighbours d start (pure value : Tour α) :=
  fun _ _ underway => ⟨underway, rfl⟩

theorem KeepsOn.bind {next : α → Tour β} (first : KeepsOn count neighbours d start tour)
    (later : ∀ value, KeepsOn count neighbours d start (next value)) :
    KeepsOn count neighbours d start (tour >>= next) := by
  intro record walker underway
  rw [Tour.gives_bind]
  refine (first record walker underway).mono ?_
  rintro value record middle ⟨underway, ahead⟩
  refine (later value record middle underway).mono ?_
  rintro _ record after ⟨underway, aheadToo⟩
  exact ⟨underway, aheadToo.trans ahead⟩

theorem keepsOn_part {walk : Walk α}
    (passing : ∀ walker, walk.Gives (fun _ => True) walker fun _ after =>
      Passing walker.actor after.actor) :
    KeepsOn count neighbours d start (Tour.part walk) := by
  intro record walker underway
  rw [Tour.gives_part]
  exact (passing walker).mono fun _ after passing => ⟨underway.passing passing, passing.ahead⟩

theorem keepsOn_tourStep (stage : Stage) :
    KeepsOn count neighbours d start stage.tourStep :=
  (keepsOn_part fun _ => faceLeg_passing).bind fun _ =>
    (keepsOn_part fun _ => enterBox_passing).bind fun _ => keepsOn_part fun _ => strideOn_passing

theorem keepsOn_tourLeg (stage : Stage) (next : Point) :
    KeepsOn count neighbours d start (stage.tourLeg next) := by
  intro record walker underway
  simp only [tourLeg, Tour.gives_bind, Tour.gives_look, Walk.gives_actor, Tour.gives_ite,
    Tour.gives_pure]
  split
  · exact ⟨underway, trivial⟩
  · rw [← Tour.gives_bind]
    exact ((keepsOn_part fun _ => planLeg_passing).bind fun _ => keepsOn_tourStep stage)
      record walker underway

/-- A tour from which the actor comes back on its way. -/
def Stays (count : Nat) (neighbours : BoxId → BoxId → Bool) (d : BoxId)
    (start : Option BoxId) {α : Type} (tour : Tour α) : Prop :=
  ∀ record walker, Underway count neighbours d start record walker.actor →
    tour.Gives record walker fun _ record after =>
      Underway count neighbours d start record after.actor

theorem KeepsOn.stays (keeps : KeepsOn count neighbours d start tour) :
    Stays count neighbours d start tour :=
  fun record walker underway => (keeps record walker underway).mono fun _ _ _ both => both.1

theorem Stays.bind {next : α → Tour β} (first : Stays count neighbours d start tour)
    (later : ∀ value, Stays count neighbours d start (next value)) :
    Stays count neighbours d start (tour >>= next) := by
  intro record walker underway
  rw [Tour.gives_bind]
  exact (first record walker underway).mono fun value record middle underway =>
    later value record middle underway

theorem stays_tourOnce {stage : Stage} (routed : stage.room.Routed count neighbours) :
    Stays count neighbours d start stage.tourOnce := by
  intro record walker underway
  obtain ⟨trail, box, onWay⟩ := underway
  simp only [tourOnce, Tour.gives_bind, Tour.gives_look, Walk.gives_actor, onWay.stands,
    Tour.gives_ite, Tour.gives_pure]
  split
  · exact ⟨trail, box, onWay⟩
  · rw [onWay.target]
    obtain ⟨hop, found, reachable⟩ := exists_hop onWay.reachable
    have answer : stage.room.nextBox (some box) (some d) = some hop := by
      obtain ⟨_, trek⟩ := reachable
      have inside : hop.toNat < stage.room.boxes.length := by
        rw [routed.boxes]
        exact Nat.lt_of_lt_of_le trek.source_lt (Nat.min_le_left _ _)
      rw [Room.nextBox, routed.matrix, found]
      exact if_pos inside
    have aimed : Underway count neighbours d start (record ++ [⟨walker.actor.walkBox, false⟩])
        { walker.actor with walk := { walker.actor.walk with curBox := some hop } } :=
      ⟨trail.visit .stays, box, onWay.stands, onWay.target, .inr found.symm, onWay.reachable⟩
    simp only [answer, Tour.gives_bind, Tour.gives_part, Tour.gives_look, Walk.gives_change,
      Walk.gives_lift]
    refine Checked.gives_anything.mono fun crossing _ => ?_
    cases crossing with
    | arrived => exact aimed
    | notAdjacent => exact aimed
    | via point =>
      have approach : KeepsOn count neighbours d start
          ((Tour.part <| Walk.change fun actor =>
            { actor with walk := { actor.walk with checkpoint := some point } }) >>= fun _ =>
              stage.tourLeg point) :=
        (keepsOn_part fun _ => passing_of_change rfl rfl rfl).bind fun _ =>
          keepsOn_tourLeg stage point
      dsimp only
      rw [← bind_assoc, Tour.gives_bind]
      refine (approach _ _ aimed).mono ?_
      rintro walks longer later ⟨underway, ahead⟩
      rw [Tour.gives_ite]
      split
      · exact underway
      · -- The leg still leads to the next box, which is entered now.
        simp only [Tour.gives_bind, Tour.gives_part, Tour.gives_pure, Walk.gives_changeChecked]
        refine (setBox_gives Checked.gives_anything).mono fun changed both => ?_
        obtain ⟨inside, ready⟩ := both
        exact underway.passing
          (.enters (inside.trans ahead.symm) (by rw [ready.walk]) (by rw [ready.walk]))

theorem stays_tourRoute {stage : Stage} (routed : stage.room.Routed count neighbours)
    (fuel : Nat) : Stays count neighbours d start (stage.tourRoute fuel) := by
  induction fuel with
  | zero => exact fun _ _ _ => trivial
  | succ fuel ih =>
    refine (stays_tourOnce routed).bind fun round => ?_
    cases round with
    | done => exact (keepsOn_pure ()).stays
    | again => exact ih
    | straight =>
      refine (keepsOn_part fun _ => passing_of_change rfl rfl rfl).stays.bind fun _ => ?_
      intro record walker underway
      simp only [Tour.gives_bind, Tour.gives_look, Walk.gives_actor, Tour.gives_pure]
      exact (keepsOn_tourLeg stage _).stays record walker underway

theorem stays_tourStart {stage : Stage} (routed : stage.room.Routed count neighbours)
    (fuel : Nat) : Stays count neighbours d start (stage.tourStart fuel) :=
  (keepsOn_part fun _ => passing_of_change rfl rfl rfl).stays.bind fun _ =>
    stays_tourRoute routed fuel

end Search

/-! ## Whole ticks -/

variable {stage : Stage} {fuel : Nat}

theorem tourProceed_toward (routed : stage.room.Routed count neighbours)
    (underway : Underway count neighbours d start record walker.actor) :
    (stage.tourProceed fuel).Gives record walker fun _ record after =>
      Toward count neighbours d start record after.actor := by
  simp only [tourProceed, Tour.gives_bind, Tour.gives_look, Walk.gives_actor, Tour.gives_ite]
  split
  · obtain ⟨box, onWay⟩ := underway.onWay
    rw [Tour.gives_note]
    refine (arrive_arrived onWay.target).mono fun _ after arrived => ?_
    exact ⟨underway.trail.visit (arrived.stands ▸ .arrives), .inr arrived⟩
  · split
    · exact ((keepsOn_part fun _ => turnOnce_gives.mono fun _ _ both => both.1).stays record
        walker underway).mono fun _ _ _ => Underway.toward
    · have tour : Stays count neighbours d start (do
          Tour.part (Walk.changeChecked fun actor => stage.setBox actor.walk.curBox actor)
          Tour.part (Walk.change fun actor =>
            { actor with moving := actor.moving.only Moving.inLeg })
          stage.tourStart fuel) :=
        (keepsOn_part fun _ => setBox_passing).stays.bind fun _ =>
          (keepsOn_part fun _ => passing_of_change rfl rfl rfl).stays.bind fun _ =>
            stays_tourStart routed fuel
      simp only [← Tour.gives_bind]
      exact (tour record walker underway).mono fun _ _ _ => Underway.toward

/-- A tick of an actor on its way. -/
theorem tourAdvance_underway (routed : stage.room.Routed count neighbours)
    (underway : Underway count neighbours d start record walker.actor) :
    (stage.tourAdvance fuel).Gives record walker fun _ record after =>
      Toward count neighbours d start record after.actor := by
  simp only [tourAdvance, Tour.gives_bind, Tour.gives_look, Walk.gives_actor, Tour.gives_ite,
    Tour.gives_pure]
  split
  · exact underway.toward
  · split
    · exact (stays_tourStart routed fuel record walker underway).mono fun _ _ _ =>
        Underway.toward
    · split
      · refine (keepsOn_tourStep stage record walker underway).mono ?_
        rintro walking longer after ⟨underway, -⟩
        split
        · exact underway.toward
        · exact tourProceed_toward routed underway
      · exact tourProceed_toward routed underway

/-- A tick of an actor that has arrived: it may turn, but it goes nowhere. -/
theorem tourAdvance_arrived (trail : Trail count neighbours d start record walker.actor.walkBox)
    (arrived : Arrived d walker.actor) :
    (stage.tourAdvance fuel).Gives record walker fun _ record after =>
      Toward count neighbours d start record after.actor := by
  simp only [tourAdvance, Tour.gives_bind, Tour.gives_look, Walk.gives_actor, Tour.gives_ite,
    Tour.gives_pure, Actor.isMoving]
  rcases arrived.rests with still | turning
  · rw [still, if_pos (by decide)]
    exact ⟨trail, .inr arrived⟩
  · rw [turning, if_neg (by decide), if_neg (by decide), if_neg (by decide),
      if_neg Bool.false_ne_true]
    simp only [tourProceed, Tour.gives_bind, Tour.gives_look, Walk.gives_actor, Tour.gives_ite]
    rw [turning, if_neg (by decide), if_pos (by decide), Tour.gives_part]
    refine turnOnce_gives.mono ?_
    rintro _ after ⟨-, stands, rests⟩
    rw [turning] at rests
    exact ⟨trail.visit (stands ▸ .stays), .inr ⟨stands.trans arrived.stands, rests⟩⟩

/-- **A tick leads an actor along its way, or leaves it where it has arrived.** -/
theorem tourAdvance_toward (routed : stage.room.Routed count neighbours)
    (toward : Toward count neighbours d start record walker.actor) :
    (stage.tourAdvance fuel).Gives record walker fun _ record after =>
      Toward count neighbours d start record after.actor := by
  obtain ⟨trail, ⟨box, onWay⟩ | arrived⟩ := toward
  · exact tourAdvance_underway routed ⟨trail, box, onWay⟩
  · exact tourAdvance_arrived trail arrived

end Stage

/-! ## Walks -/

/-- A call that drives an actor or gives it the scale of its place. -/
inductive Drive where
  | advance (stage : Stage) (fuel : Nat)
  | rescale (stage : Stage)

namespace Drive

/-- What the actor sees in a call. -/
def stage : Drive → Stage
  | advance stage _ | rescale stage => stage

/-- Carries out a call. -/
def carryOut : Drive → Walk Unit
  | advance stage fuel => stage.advance fuel
  | rescale stage => Walk.changeChecked stage.rescale

/-- Carries out a call and notes the boxes on the way. -/
def tour : Drive → Tour Unit
  | advance stage fuel => stage.tourAdvance fuel
  | rescale stage => Tour.part (Walk.changeChecked stage.rescale)

/-- **A call that is toured is the call.** -/
theorem forgets_tour (drive : Drive) : Tour.Forgets drive.tour drive.carryOut := by
  cases drive with
  | advance stage fuel => exact stage.forgets_tourAdvance fuel
  | rescale stage => exact Tour.forgets_part _

variable {start : Option BoxId} {record : List Visit} {walker : Walker}

theorem tour_toward (drive : Drive) (routed : drive.stage.room.Routed count neighbours)
    (toward : Toward count neighbours d start record walker.actor) :
    drive.tour.Gives record walker fun _ record after =>
      Toward count neighbours d start record after.actor := by
  cases drive with
  | advance stage fuel => exact Stage.tourAdvance_toward routed toward
  | rescale stage =>
    rw [tour, Tour.gives_part, Walk.gives_changeChecked]
    refine (Stage.rescale_scales Checked.gives_anything).mono ?_
    rintro changed ⟨scaleX, scaleY, rfl, -⟩
    obtain ⟨trail, ⟨box, onWay⟩ | arrived⟩ := toward
    · have passing : Passing walker.actor { walker.actor with scaleX := scaleX, scaleY := scaleY } :=
        .stays rfl rfl rfl
      exact (Underway.passing ⟨trail, box, onWay⟩ passing).toward
    · exact ⟨trail.visit .stays, .inr ⟨arrived.stands, arrived.rests⟩⟩

/-- A call leads an actor along its way, and its tour is a trail. -/
theorem exists_tour {drive : Drive} (routed : drive.stage.room.Routed count neighbours)
    (heading : Heading count neighbours d walker.actor) {after : Walker}
    (ran : drive.carryOut.run walker = .ok ((), after)) :
    ∃ record, (drive.tour.run []).run walker = .ok (((), record), after) ∧
      Toward count neighbours d walker.actor.walkBox record after.actor := by
  obtain ⟨record, toured⟩ := drive.forgets_tour.exists_record ran []
  exact ⟨record, toured, (drive.tour_toward routed ⟨.start, heading⟩).of_ok toured⟩

/-- After any number of calls an actor is still on its way, or has arrived. -/
theorem heading_of_driven {drives : List Drive}
    (routed : ∀ drive ∈ drives, drive.stage.room.Routed count neighbours) :
    ∀ {walker after : Walker}, Heading count neighbours d walker.actor →
      (drives.forM carryOut).run walker = .ok ((), after) →
      Heading count neighbours d after.actor := by
  induction drives with
  | nil =>
    intro walker after heading ran
    cases ran
    exact heading
  | cons drive rest ih =>
    intro walker after heading ran
    change (drive.carryOut >>= fun _ => rest.forM carryOut).run walker = .ok ((), after) at ran
    rw [StateT.run_bind] at ran
    cases began : drive.carryOut.run walker with
    | error fault =>
      rw [began] at ran
      cases ran
    | ok ended =>
      obtain ⟨⟨⟩, middle⟩ := ended
      rw [began] at ran
      obtain ⟨_, -, toward⟩ := exists_tour (routed drive List.mem_cons_self) heading began
      exact ih (fun other member => routed other (List.mem_cons_of_mem _ member)) toward.heading ran

end Drive

/-- A walk that is announced starts from the actor's own box. -/
theorem Stage.startWalk_aims {stage : Stage} {walker : Walker} {dest : Point} {facing : Option Int}
    (minds : walker.actor.ignoreBoxes = false) :
    (stage.startWalk dest facing).Gives (fun _ => True) walker fun _ after =>
      after.events ≠ walker.events →
        after.actor.walkBox = walker.actor.walkBox ∧
          after.actor.walk.curBox = walker.actor.walkBox := by
  simp only [startWalk, Walk.gives_bind, Walk.gives_actor, Walk.gives_lift, Walk.gives_ite,
    Walk.gives_change, Walk.gives_pure]
  refine Checked.gives_anything.mono fun wanted _ => ?_
  split
  · exact fun announced => absurd rfl announced
  · refine Checked.gives_anything.mono fun wanted _ => ?_
    rw [minds, if_neg Bool.false_ne_true]
    split
    · exact fun announced => absurd rfl announced
    · split
      · -- The actor stands there already; it may turn, but no walk is announced.
        split
        · rw [Walk.gives_ite]
          split
          · exact fun announced => absurd rfl announced
          · exact fun announced => absurd rfl announced
        · exact fun announced => absurd rfl announced
      · simp only [commit, Walk.gives_bind, Walk.gives_actor, Walk.gives_change, Walk.gives_log]
        exact fun _ => ⟨trivial, trivial⟩

/-- **A routed walk only ever gets closer in boxes.**  An order to walk is announced to an actor
that minds boxes and stands in box `b`, and its destination box `d` can be reached from there.
From then on, whatever calls have driven the actor so far: in the next one, every box it enters
is the next hop from the box before or, on arrival, box `d`; and the call does not leave it
farther from `d`, in hops, than it found it. -/
theorem walk_comes_closer {stage : Stage} {walker started : Walker} {dest : Point}
    {facing : Option Int} {b d : BoxId} (minds : walker.actor.ignoreBoxes = false)
    (stands : walker.actor.walkBox = some b)
    (ordered : (stage.startWalk dest facing).run walker = .ok ((), started))
    (announced : started.events ≠ walker.events)
    (target : started.actor.walk.destBox = some d)
    (reachable : Reachable neighbours (routable count) b d)
    {drives : List Drive} (routed : ∀ drive ∈ drives, drive.stage.room.Routed count neighbours)
    {reached : Walker} (driven : (drives.forM Drive.carryOut).run started = .ok ((), reached))
    {next : Drive} (routedNext : next.stage.room.Routed count neighbours) {after : Walker}
    (ran : next.carryOut.run reached = .ok ((), after)) :
    (∃ record, (next.tour.run []).run reached = .ok (((), record), after) ∧
      Trail count neighbours d reached.actor.walkBox record after.actor.walkBox) ∧
    ∃ box near far hops,
      (reached.actor.walkBox = some box ∧ IsDistance neighbours (routable count) far box d) ∧
      (after.actor.walkBox = some near ∧ IsDistance neighbours (routable count) hops near d) ∧
      hops ≤ far := by
  have aims : (stage.startWalk dest facing).Gives (fun _ => True) walker _ :=
    Stage.startWalk_aims minds
  unfold Walk.Gives at aims
  rw [ordered] at aims
  obtain ⟨stays, ahead⟩ := aims announced
  rw [stands] at stays ahead
  have heading : Heading count neighbours d started.actor :=
    .inl ⟨b, stays, target, .inl ahead, reachable⟩
  have underway := Drive.heading_of_driven routed heading driven
  obtain ⟨record, toured, toward⟩ := Drive.exists_tour routedNext underway ran
  refine ⟨⟨record, toured, toward.trail⟩, ?_⟩
  obtain ⟨box, inside, far, distance⟩ : ∃ box, reached.actor.walkBox = some box ∧
      ∃ far, IsDistance neighbours (routable count) far box d := by
    rcases underway with ⟨box, onWay⟩ | arrived
    · exact ⟨box, onWay.stands, onWay.reachable.exists_distance⟩
    · obtain ⟨_, trek⟩ := reachable
      exact ⟨d, arrived.stands, 0, .stay trek.target_lt, fun _ _ => Nat.zero_le _⟩
  have trail := toward.trail
  rw [inside] at trail
  obtain ⟨near, hops, last, left, le⟩ := trail.closer distance
  exact ⟨box, near, far, hops, ⟨inside, distance⟩, ⟨last, left⟩, le⟩

namespace Stage

/-- An actor that stands in the first box of the row, on the border to the second. -/
def atBorder : Walker := ⟨{ Actor.fresh 1 with room := 1, pos := ⟨100, 25⟩, walkBox := some 1 }, []⟩

/-- The same actor, sent to the third box. -/
def sentOut : Walker :=
  ⟨{ atBorder.actor with
      moving := ⟨Moving.newLeg⟩
      walk := { atBorder.actor.walk with dest := ⟨280, 25⟩, destBox := some 3, curBox := some 1 } },
    ["actor.1.walk 280,25 box 3"]⟩

/-- The same actor one tick later. -/
def underWay : Walker := (((rowStage.advance 256).run sentOut).toOption.map (·.2)).getD sentOut

theorem rowStage_routed : (Drive.advance rowStage 256).stage.room.Routed 4
    (Room.plain 1 rowOfBoxes .empty).areNeighbours :=
  ⟨rfl, rfl⟩

/-- The first tick leads from the first box into the second, one hop closer to the third. -/
theorem walk_comes_closer_rowStage :
    ((rowStage.startWalk ⟨280, 25⟩ none).run atBorder = .ok ((), sentOut) ∧
      underWay.actor.walkBox = some 2) ∧
    (∃ record, ((Drive.advance rowStage 256).tour.run []).run sentOut =
        .ok (((), record), underWay) ∧
      Trail 4 (Room.plain 1 rowOfBoxes .empty).areNeighbours 3 (some 1) record (some 2)) := by
  have ordered : (rowStage.startWalk ⟨280, 25⟩ none).run atBorder = .ok ((), sentOut) := rfl
  have ran : (Drive.advance rowStage 256).carryOut.run sentOut = .ok ((), underWay) := rfl
  have entered : underWay.actor.walkBox = some 2 := rfl
  have onward : Trek (Room.plain 1 rowOfBoxes .empty).areNeighbours (routable 4) 1 2 3 :=
    .step (by decide) (by decide) (.stay (by decide))
  have reachable : Reachable (Room.plain 1 rowOfBoxes .empty).areNeighbours (routable 4) 1 3 :=
    ⟨2, .step (by decide) (by decide) onward⟩
  have idle : ∀ drive ∈ ([] : List Drive), drive.stage.room.Routed 4
      (Room.plain 1 rowOfBoxes .empty).areNeighbours :=
    fun _ member => absurd member List.not_mem_nil
  have closer := walk_comes_closer rfl rfl ordered (List.cons_ne_nil _ _) rfl reachable idle rfl
    rowStage_routed ran
  obtain ⟨record, toured, trail⟩ := closer.1
  rw [entered] at trail
  exact ⟨⟨ordered, entered⟩, record, toured, trail⟩

end Stage

end Adventure
