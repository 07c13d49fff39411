import Adventure.Machine.Tick
import Adventure.Proofs.Actor.Navigation
import Adventure.Proofs.Machine.Backstage

/-!
# Navigable games

A game is navigable when its rooms and its actors are in range, and every actor of the room
that is shown is on the lane of its leg (`Machine.Navigable`).  Only a few parts of a machine
touch the scene: an instruction that drives an actor, an instruction that changes the room,
and the moves at the end of a tick.  Each of them keeps a navigable game navigable, and none
leaves a word.

A new room is the hard case.  Actors may wait in it on legs they began elsewhere, and they are
settled one after the other; those who are still to be settled are `pending` meanwhile.
Instructions find an actor by its number, a byte, and ticks find it by its place in the cast.
So an actor behind the first 256 is never settled, and has to be on the lane of its leg in
whatever room it is.
-/

set_option autoImplicit false

namespace Adventure

variable {Allowed : Fault → Prop}

/-! ## Casts -/

/-- What navigation needs of the actor at a place of the cast. -/
structure Actor.Posted (shown : UInt8) (pending : List UInt8) (index : Nat) (actor : Actor) :
    Prop where
  inRange : actor.InRange (UInt8.ofNat index)
  fit : UInt8.ofNat index ∉ pending → actor.Fit shown (UInt8.ofNat index)
  /-- An actor that no number leads to is driven by ticks only. -/
  apart : index = 0 ∨ 256 ≤ index → actor.Navigates (UInt8.ofNat index)

theorem Actor.Navigates.posted {actor : Actor} {index : Nat}
    (navigates : actor.Navigates (UInt8.ofNat index)) (shown : UInt8) (pending : List UInt8) :
    actor.Posted shown pending index :=
  ⟨navigates.toInRange, fun _ => navigates.fit shown, fun _ => navigates⟩

/-- What navigation needs of a cast, apart from the actors with pending numbers. -/
def Cast.Posted (cast : Cast) (shown : UInt8) (pending : List UInt8) : Prop :=
  ∀ index (actor : Actor), cast[index]? = some actor → actor.Posted shown pending index

namespace Cast.Posted

variable {cast : Cast} {shown number : UInt8} {pending rest : List UInt8} {actor : Actor}

theorem get? (posted : cast.Posted shown pending) (found : cast.get? number = some actor) :
    actor.InRange number ∧ (number ∉ pending → actor.Fit shown number) := by
  unfold Cast.get? at found
  split at found
  · cases found
  · obtain ⟨inRange, fit, _⟩ := posted number.toNat actor found
    rw [UInt8.ofNat_toNat] at inRange fit
    exact ⟨inRange, fit⟩

/-- Once the actor with a number is fit, or there is none, the number is not pending any more. -/
theorem release (posted : cast.Posted shown pending)
    (left : ∀ other ∈ pending, other = number ∨ other ∈ rest)
    (fit : ∀ actor, cast.get? number = some actor → actor.Fit shown number) :
    cast.Posted shown rest := by
  intro index actor found
  have here := posted index actor found
  refine ⟨here.inRange, fun settled => ?_, here.apart⟩
  by_cases apart : index = 0 ∨ 256 ≤ index
  · exact (here.apart apart).fit shown
  · have place : (UInt8.ofNat index).toNat = index := by
      rw [UInt8.toNat_ofNat']
      omega
    have real : UInt8.ofNat index ≠ 0 := by
      intro zero
      rw [zero] at place
      exact apart (.inl place.symm)
    by_cases named : UInt8.ofNat index = number
    · subst named
      exact fit actor (by rw [Cast.get?, if_neg real, place, found])
    · exact here.fit fun waits => (left _ waits).elim named settled

theorem put (posted : cast.Posted shown pending) (real : number ≠ 0)
    (fit : actor.Fit shown number) : (cast.put number actor).Posted shown pending := by
  intro index other found
  rw [Cast.put, if_neg real, List.getElem?_set] at found
  split at found
  next here =>
    subst here
    split at found
    · cases found
      refine ⟨?_, fun _ => ?_, fun apart => ?_⟩
      · rw [UInt8.ofNat_toNat]
        exact fit.toInRange
      · rw [UInt8.ofNat_toNat]
        exact fit
      · have less := number.toNat_lt
        have positive : number.toNat ≠ 0 := fun zero => real (UInt8.toNat.inj zero)
        omega
    · cases found
  · exact posted index other found

end Cast.Posted

/-- What a cast has to be like that a host sets: every actor is in range, and those who are on a
leg are between its ends. -/
def Cast.InRange (cast : Cast) : Prop :=
  ∀ index (actor : Actor), cast[index]? = some actor → actor.Navigates (UInt8.ofNat index)

theorem Cast.InRange.posted {cast : Cast} (inRange : cast.InRange) (shown : UInt8)
    (pending : List UInt8) : cast.Posted shown pending :=
  fun index actor found => (inRange index actor found).posted shown pending

theorem Actor.fresh_inRange (number : UInt8) : (Actor.fresh number).InRange number where
  numbered := rfl
  pos := (by decide : Point.InField ⟨0, 0⟩)
  dest := (by decide : Point.InField ⟨0, 0⟩)
  speedX := (by decide : IsByte 8)
  speedY := (by decide : IsByte 2)
  scaleX := (by decide : IsByte 255)
  scaleY := (by decide : IsByte 255)
  facing := (by decide : Word.Fits16 180)
  targetFacing := (by decide : Word.Fits16 180)
  destFacing := fun _ none => by cases none

theorem Cast.fresh_inRange (count : Nat) : (Cast.fresh count).InRange := by
  intro index actor found
  rw [Cast.fresh, List.getElem?_map, Option.map_eq_some_iff] at found
  obtain ⟨place, there, rfl⟩ := found
  obtain ⟨_, rfl⟩ := List.getElem?_eq_some_iff.mp there
  rw [List.getElem_range]
  exact (Actor.fresh_inRange _).navigates_of_halted (by decide : Moving.has .still _ = false)

/-! ## Rooms -/

theorem ScaleRamp.vertical_narrow {y1 scale1 y2 scale2 : Int} (y1Fits : Word.Fits16 y1)
    (scale1Fits : Word.Fits16 scale1) (y2Fits : Word.Fits16 y2)
    (scale2Fits : Word.Fits16 scale2) : (vertical y1 scale1 y2 scale2).Narrow := by
  have inRange : ∀ {z : Int}, Word.Fits16 z → InRange z := fun fits => ⟨fits.1, by omega⟩
  have zero : InRange 0 := by decide
  exact ⟨zero, inRange y1Fits, inRange scale1Fits, zero, inRange y2Fits, inRange scale2Fits⟩

theorem Room.plain_inRange {boxes : List WalkBox} (inField : ∀ box ∈ boxes, box.outline.InField)
    (number : UInt8) (matrix : Matrix) : (plain number boxes matrix).InRange where
  boxes := inField
  ramps ramp member := by
    cases List.eq_of_mem_replicate member
    exact ScaleRamp.vertical_narrow (by decide) (by decide) (by decide) (by decide)

namespace Room.InRange

variable {room : Room}

theorem setBoxFlags (inRange : room.InRange) (id : BoxId) (value : UInt16) :
    (room.setBoxFlags id value).InRange := by
  unfold Room.setBoxFlags
  split
  · exact { inRange with }
  · refine { inRange with boxes := fun box member => ?_ }
    obtain ⟨index, found⟩ := List.getElem?_of_mem member
    rw [List.getElem?_modify] at found
    obtain ⟨before, there, rfl⟩ := Option.map_eq_some_iff.mp found
    have outline := inRange.boxes before (List.mem_of_getElem? there)
    split <;> exact outline

theorem rebuildMatrix (inRange : room.InRange) : room.rebuildMatrix.InRange := { inRange with }

theorem setRamp (inRange : room.InRange) (slot : UInt8) {ramp : ScaleRamp} (narrow : ramp.Narrow) :
    (room.setRamp slot ramp).InRange := by
  unfold Room.setRamp
  split
  · refine { inRange with ramps := fun other member => ?_ }
    rcases List.mem_or_eq_of_mem_set member with before | rfl
    · exact inRange.ramps other before
    · exact narrow
  · exact inRange

end Room.InRange

/-! ## Games -/

namespace Machine

/-- What navigation needs of a game, apart from the actors with pending numbers. -/
structure NavigableBut (pending : List UInt8) (m : Machine) : Prop where
  rooms : ∀ number loaded, m.rooms.get? number = some loaded → loaded.geometry.InRange
  room : m.room.InRange
  cast : m.cast.Posted m.room.number pending

/-- What navigation needs of a game. -/
abbrev Navigable (m : Machine) : Prop := m.NavigableBut []

/-- What a game has to be like at the start: every room is in range, and so is the cast. -/
structure InRange (m : Machine) : Prop where
  rooms : ∀ number loaded, m.rooms.get? number = some loaded → loaded.geometry.InRange
  room : m.room.InRange
  cast : m.cast.InRange

variable {m m' : Machine} {pending rest : List UInt8}

theorem boot_inRange (rules : Rules) (library : Library) {rooms : Keyed UInt8 LoadedRoom}
    (inRange : ∀ number loaded, rooms.get? number = some loaded → loaded.geometry.InRange) :
    (boot rules library rooms).InRange :=
  ⟨inRange, Room.plain_inRange (fun _ none => absurd none List.not_mem_nil) _ _,
    Cast.fresh_inRange _⟩

theorem InRange.navigable (inRange : m.InRange) : m.Navigable :=
  ⟨inRange.rooms, inRange.room, inRange.cast.posted _ _⟩

theorem NavigableBut.of_scene (navigable : m.NavigableBut pending) (same : m'.scene = m.scene) :
    m'.NavigableBut pending := by
  obtain ⟨rooms, room, cast⟩ := navigable
  simp only [scene, Prod.mk.injEq] at same
  obtain ⟨sameRooms, sameRoom, sameCast⟩ := same
  refine ⟨?_, ?_, ?_⟩
  · rw [sameRooms]
    exact rooms
  · rw [sameRoom]
    exact room
  · rw [sameRoom, sameCast]
    exact cast

/-- **Driving an actor** keeps a game navigable when the drive leaves the actor fit; afterwards the
actor is not pending any more. -/
theorem driveActor_navigable {number : UInt8} {drive : Stage → Walk Unit}
    (navigable : m.NavigableBut pending)
    (left : ∀ other ∈ pending, other = number ∨ other ∈ rest)
    (drives : ∀ actor : Actor, actor.InRange number →
      (number ∉ pending → actor.Fit m.room.number number) →
      (drive m.stage).Gives (fun _ => False) ⟨actor, []⟩ fun _ after =>
        after.actor.Fit m.room.number number) :
    ∃ m', Run.driveActor number drive m = .ok () m' ∧ m'.NavigableBut rest := by
  cases found : m.cast.get? number with
  | none =>
    refine ⟨m, ?_, { navigable with cast := navigable.cast.release left ?_ }⟩
    · simp only [Run.driveActor, Run.withActor, Run.bind_apply, Run.get_apply, found,
        Run.pure_apply]
    · intro actor present
      cases found.symm.trans present
  | some actor =>
    obtain ⟨inRange, fit⟩ := navigable.cast.get? found
    obtain ⟨⟨_, walker⟩, done, driven⟩ := Checked.gives_false_iff.mp (drives actor inRange fit)
    have real : number ≠ 0 := by
      rintro rfl
      cases found
    have posted := navigable.cast.put real driven
    refine ⟨
      { m with
        cast := m.cast.put number walker.actor
        events := m.events ++ walker.events }, ?_,
      { navigable with cast := posted.release left ?_ }⟩
    · simp only [Run.driveActor, Run.withActor, Run.bind_apply, Run.get_apply, found, done,
        Run.ofChecked, Run.pure_apply, Run.modify_apply]
    · intro other present
      have inside : number.toNat < m.cast.length := by
        rw [Cast.get?, if_neg real] at found
        exact (List.getElem?_eq_some_iff.mp found).1
      rw [Cast.get?, if_neg real, Cast.put, if_neg real, List.getElem?_set_self inside] at present
      cases present
      exact driven

/-- Settling every actor that is pending makes a game navigable. -/
theorem settle_pending (pending : List UInt8) :
    ∀ {m : Machine}, m.NavigableBut pending →
      ∃ m', pending.forM (fun number => Run.driveActor number Stage.settle) m = .ok () m' ∧
        m'.Navigable := by
  induction pending with
  | nil => exact fun {m} navigable => ⟨m, rfl, navigable⟩
  | cons number rest ih =>
    intro m navigable
    obtain ⟨middle, first, after⟩ : ∃ middle,
        Run.driveActor number Stage.settle m = .ok () middle ∧ middle.NavigableBut rest :=
      driveActor_navigable navigable (fun _ => List.mem_cons.mp) fun actor inRange _ =>
        (Stage.settle_navigates navigable.room inRange).mono fun _ _ navigates => navigates.fit _
    obtain ⟨m', later, navigable⟩ := ih after
    exact ⟨m', by rw [Run.forM_cons, Run.bind_apply, first]; exact later, navigable⟩

/-- **Entering a room** keeps a game navigable. -/
theorem changeRoom_navigable (navigable : m.Navigable) (number : UInt8) :
    ∃ m', changeRoom number m = .ok () m' ∧ m'.Navigable := by
  cases found : m.rooms.get? number with
  | none => exact ⟨m, by simp only [changeRoom, Run.get_bind_apply, found]; rfl, navigable⟩
  | some loaded =>
    simp only [changeRoom, Run.get_bind_apply, found]
    apply settle_pending
    have geometry := navigable.rooms number loaded found
    refine ⟨navigable.rooms, { geometry with }, ?_⟩
    intro index actor present
    obtain ⟨inRange, _, apart⟩ := navigable.cast index actor present
    refine ⟨inRange, fun settled => ?_, apart⟩
    by_cases first : index = 0
    · exact (apart (.inl first)).fit _
    · refine { inRange with course := fun shown _ => absurd ?_ settled }
      -- the actor is in the new room, so it is one of those to be settled
      have driven : actor ∈ m.cast.driven := by
        refine List.mem_of_getElem? (i := index - 1) ?_
        rw [Cast.driven, List.getElem?_drop, Nat.add_sub_cancel' (by omega)]
        exact present
      refine List.mem_map.mpr ⟨actor, List.mem_filter.mpr ⟨driven, ?_⟩, inRange.numbered⟩
      exact beq_iff_eq.mpr shown

/-! ## The moves at the end of a tick -/

/-- An actor that has moved is put before the others, which move after it. -/
theorem posted_before {current : UInt8} {walker : Walker} {base : Nat}
    {rest : Checked (List Actor × List String)}
    (moved : walker.actor.Posted current [] base)
    (others : rest.Gives Allowed fun result =>
      ∀ index (actor : Actor), result.1[index]? = some actor →
        actor.Posted current [] (base + 1 + index)) :
    (do
      let (others, events) ← rest
      pure (walker.actor :: others, walker.events ++ events) :
        Checked (List Actor × List String)).Gives Allowed fun result =>
      ∀ index (actor : Actor), result.1[index]? = some actor →
        actor.Posted current [] (base + index) := by
  rw [Checked.gives_bind]
  refine others.mono fun result others index other found => ?_
  cases index with
  | zero =>
    cases found
    exact moved
  | succ index =>
    have later := others index other found
    rw [Nat.add_assoc, Nat.add_comm 1] at later
    exact later

theorem tickActors_posted {stage : Stage} (room : stage.room.InRange) (spent : Allowed .outOfFuel)
    (fuel : Nat) (actors : List Actor) :
    ∀ base, (∀ index (actor : Actor), actors[index]? = some actor →
        actor.Posted stage.currentRoom [] (base + index)) →
      (stage.tickActors fuel actors).Gives Allowed fun result =>
        ∀ index (actor : Actor), result.1[index]? = some actor →
          actor.Posted stage.currentRoom [] (base + index) := by
  induction actors with
  | nil =>
    intro base _ index actor found
    cases found
  | cons actor rest ih =>
    intro base posted
    have here := posted 0 actor rfl
    have others := ih (base + 1) fun index other found => by
      rw [Nat.add_assoc, Nat.add_comm 1]
      exact posted (index + 1) other found
    rw [Stage.tickActors]
    split
    next shown =>
      have shown : actor.room = stage.currentRoom := by simpa [Stage.shows] using shown
      have fit := here.fit List.not_mem_nil
      have navigates : actor.Navigates _ := { fit with course := fit.course shown }
      rw [Checked.gives_bind]
      have moves : (stage.tickActor fuel).Gives Allowed ⟨actor, []⟩ fun _ after =>
          after.actor.Navigates (UInt8.ofNat base) :=
        Stage.tickActor_navigates room spent fuel navigates
      exact Checked.Gives.mono moves fun _ after => posted_before (after.posted _ _) others
    next =>
      have still : (⟨actor, []⟩ : Walker).actor.Posted stage.currentRoom [] base := here
      exact posted_before still others

/-- **The moves at the end of a tick** keep a game navigable. -/
theorem walkActors_navigable (navigable : m.Navigable) (spent : Allowed .outOfFuel) (fuel : Nat) :
    (m.walkActors fuel).Gives Allowed Navigable := by
  unfold walkActors
  split
  · exact navigable
  · simp only [Checked.gives_bind, Checked.gives_pure]
    cases cast : m.cast with
    | nil => exact { navigable with cast := fun index actor found => by cases found }
    | cons first others =>
      have posted := navigable.cast
      rw [cast] at posted
      have driven : ∀ index (actor : Actor), others[index]? = some actor →
          actor.Posted m.room.number [] (1 + index) := fun index actor found =>
        Nat.add_comm 1 index ▸ posted (index + 1) actor found
      have room : m.stage.room.InRange := navigable.room
      refine (tickActors_posted room spent fuel others 1 driven).mono
        fun result moved => { navigable with cast := fun index actor found => ?_ }
      cases index with
      | zero => exact posted 0 actor found
      | succ index => exact Nat.add_comm 1 index ▸ moved index actor found

end Machine

end Adventure
