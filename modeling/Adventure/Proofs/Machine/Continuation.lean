import Adventure.Proofs.Machine.Lodged
import Adventure.Proofs.Machine.Unison
import Adventure.Proofs.Room.Restored

/-!
# A restored game goes on as if nothing had happened

A snapshot leaves out what a game has in its files, and the traces that a machine carries
beside its game.  Restoring it into the game as it was built looks up the room and the code
again.  A game stays in its house, so both are found; and what is found differs from the
machine that was saved in traces only.  Machines that are alike carry out every order alike,
so a host that goes on with the restored game sees what it would have seen.
-/

set_option autoImplicit false

namespace Adventure.Machine

variable {past : Past} {level : Level} {start m r : Machine}

/-! ## What a host sees -/

/-- What a host sees of one order. -/
structure Report where
  /-- Why the order ended early, if it did. -/
  halt : Option Halt
  /-- The events that the order has added to the log. -/
  events : List String
  /-- The game afterwards. -/
  snapshot : Snapshot
  deriving DecidableEq

/-- What a host sees when it gives orders one after the other, up to the first that ends early. -/
def reports (fuel : Nat) : List Order → Machine → List Report
  | [], _ => []
  | order :: orders, m =>
    match order.carryOut fuel m with
    | .ok _ next =>
      ⟨none, next.events.drop m.events.length, next.snapshot⟩ :: reports fuel orders next
    | .error halt last => [⟨some halt, last.events.drop m.events.length, last.snapshot⟩]

namespace Alike

/-- Snapshots do not show traces. -/
theorem snapshot (alike : Alike past false level m r) : r.snapshot = m.snapshot := by
  cases alike with
  | intro guise fits =>
      have slots : guise.slots.cells.map (fun slot => { slot with executed := false }) =
          m.slots.cells.map fun slot => { slot with executed := false } := by
        have same := fits.slots
        rw [SlotTable.seen_false, SlotTable.seen_false] at same
        exact congrArg Bank.cells same
      unfold Machine.snapshot
      change Snapshot.mk _ _ (guise.slots.cells.map _) _ _ _ _ _ _ _ _ _ = _
      rw [slots]
      rfl

/-- The comparison can begin anew at any time, whatever the other log holds. -/
theorem anew (alike : Alike past false level m r) (events : List String) :
    Alike ⟨m.events, events⟩ false level m { r with events := events } := by
  cases alike with
  | intro guise fits =>
      exact .intro { guise with events := events }
        ⟨fits.slots, fits.reads, [], (List.append_nil _).symm, (List.append_nil _).symm⟩

theorem added (alike : Alike past false level m r) :
    r.events.drop past.other.length = m.events.drop past.log.length := by
  cases alike with
  | intro guise fits =>
      obtain ⟨later, own, other⟩ := fits.log
      change guise.events.drop _ = _
      rw [own, other, List.drop_left, List.drop_left]

/-- **A host cannot tell machines that are alike apart.** -/
theorem reports (alike : Alike past false .idle m r) (rest : m.current = none) (fuel : Nat)
    (orders : List Order) : reports fuel orders r = reports fuel orders m := by
  induction orders generalizing past m r with
  | nil => rfl
  | cons order orders ih =>
      have agree := (alike.anew r.events).carryOut rest order fuel
      unfold Machine.reports
      revert agree
      cases done : order.carryOut fuel m <;> cases order.carryOut fuel r <;> intro agree <;>
        cases agree
      next alike =>
        dsimp only
        rw [alike.added, alike.snapshot, ih alike (Order.carryOut_rest rest done)]
      next alike =>
        dsimp only
        rw [alike.added, alike.snapshot]

end Alike

/-! ## Restoring -/

/-- The code of every live script is found again. -/
theorem Lodged.missingSlot? (lodged : Lodged start m)
    (numbered : ∀ slot ∈ m.slots.cells, slot.isDead = false → slot.number ≠ 0) :
    missingSlot? m.library m.snapshot.slots = none := by
  apply List.find?_eq_none.mpr
  intro saved member missing
  obtain ⟨slot, listed, rfl⟩ := List.mem_map.mp member
  obtain ⟨id, present⟩ := List.mem_iff_getElem?.mp listed
  rw [Bool.and_eq_true, Bool.not_eq_true'] at missing
  obtain ⟨alive, lost⟩ := missing
  change slot.isDead = false at alive
  change (m.library.code? slot.number slot.location).isNone = true at lost
  have known := (lodged.scripts present (numbered slot listed alive)).2
  rw [Option.isNone_iff_eq_none.mp lost] at known
  cases known

/-- The game as it was built, with the snapshot of a game laid over it, is that game. -/
theorem Lodged.resume (lodged : Lodged start m) (rest : m.current = none) {loaded : LoadedRoom}
    (library : { start.library with room := loaded.code } = m.library)
    (room : loaded.geometry.withSnapshot m.room.snapshot = m.room.withTruncated false) :
    Alike ⟨m.events, start.events⟩ false .idle m (start.resume m.snapshot loaded) := by
  have slots : Bank.fit 80 Slot.empty m.snapshot.slots = SlotTable.seen false m.slots := by
    rw [SlotTable.seen_false]
    exact Bank.fit_cells _ (m.slots.map _)
  have vars : Bank.fit 256 0 m.snapshot.vars = m.vars := Bank.fit_cells _ _
  have saved : m.snapshot.room = m.room.snapshot := rfl
  have wears : start.resume m.snapshot loaded =
      m.wearing ⟨SlotTable.seen false m.slots, false, start.code, start.pc, start.opStart,
        start.events⟩ := by
    unfold Machine.resume Machine.wearing
    rw [library, slots, vars, saved, room, ← lodged.rules, ← lodged.rooms, ← rest]
    rfl
  rw [wears]
  refine .intro _ ⟨?_, trivial, [], (List.append_nil _).symm, (List.append_nil _).symm⟩
  exact SlotTable.seen_false_seen false m.slots

/-- **A snapshot of a game is restored into the game as it was built**, up to traces. -/
theorem Lodged.restore (lodged : Lodged start m) (rest : m.current = none)
    (shown : m.room.number ≠ 0)
    (plain : ∀ row ∈ m.room.matrix.rows, ∀ entry ∈ row, entry.low ≠ RouteBlock.rowEnd)
    (numbered : ∀ slot ∈ m.slots.cells, slot.isDead = false → slot.number ≠ 0) :
    ∃ resumed, start.restore m.snapshot = .ok resumed ∧
      Alike ⟨m.events, resumed.events⟩ false .idle m resumed := by
  obtain ⟨loaded, known, code, shape⟩ := lodged.room
  have library : { start.library with room := loaded.code } = m.library := by
    rw [lodged.library, code]
  have found : start.savedRoom? m.snapshot.room.number = some loaded := by
    unfold savedRoom?
    exact (if_neg shown).trans known
  have resumed := lodged.resume rest library (Room.withSnapshot_snapshot shape plain)
  unfold Machine.restore
  rw [found]
  dsimp only
  rw [library, lodged.missingSlot? numbered]
  exact ⟨_, rfl, resumed.anew _⟩

/-- **Saving and restoring cannot be noticed.**  The snapshot of a game that has been played for
any time is restored into the game as it was built, and from there on a host sees what it would
have seen without the interruption.  The conditions are what a snapshot can hold: it has no room
without a number, its routing has no entry that begins like the end of a row, and it looks a
script up by its number. -/
theorem restored_game_goes_on {scenario : Scenario} {source : FileSource} {directory : String}
    {rules : Rules} (built : scenario.build source directory rules = .ok start)
    (played : Played (fun _ => True) start m) (shown : m.room.number ≠ 0)
    (plain : ∀ row ∈ m.room.matrix.rows, ∀ entry ∈ row, entry.low ≠ 0xFF)
    (numbered : ∀ slot ∈ m.slots.cells, slot.isDead = false → slot.number ≠ 0) :
    ∃ resumed, start.restore m.snapshot = .ok resumed ∧ resumed.snapshot = m.snapshot ∧
      ∀ fuel orders, reports fuel orders resumed = reports fuel orders m := by
  obtain ⟨lodged, resting⟩ := Scenario.build_lodged built
  have stays := (Lodged.lasting _).played lodged resting played
  have rest := played.rest resting
  obtain ⟨resumed, restores, alike⟩ := stays.restore rest shown plain numbered
  refine ⟨resumed, restores, alike.snapshot, ?_⟩
  intro fuel orders
  exact alike.reports rest fuel orders

/-- A game of one room in which a script waits for ever. -/
def waiting : Scenario :=
  { generation := none
    startRoom := 1
    ego := none
    hooks := ⟨0, 0⟩
    rooms := [⟨1, [], none, none, [], [], []⟩]
    scripts := [(1, "again: break\njump again")]
    inventory := []
    floating := []
    actors := []
    boot := []
    abortAt := [] }

/-- The game as it is built. -/
def waitingGame : Machine :=
  (waiting.build (fun _ => .error .missing) "" .standard).toOption.getD
    (.boot .standard ⟨[], [], [], .empty⟩ [])

theorem waiting_built :
    waiting.build (fun _ => .error .missing) "" .standard = .ok waitingGame := by
  have ends : (waiting.build (fun _ => .error .missing) "" .standard).toOption.isSome = true := by
    decide +kernel
  unfold waitingGame
  cases built : waiting.build (fun _ => .error .missing) "" .standard with
  | ok => rfl
  | error =>
      rw [built] at ends
      cases ends

theorem restored_game_goes_on_waiting : ∃ (m resumed : Machine) (slot : Slot),
    Played (fun _ => True) waitingGame m ∧
      m.slots.get? 1 = some slot ∧ slot.status = .running ∧
      waitingGame.restore m.snapshot = .ok resumed ∧ resumed.snapshot = m.snapshot ∧
      reports 9 [.tick, .stopScript 1] resumed = reports 9 [.tick, .stopScript 1] m := by
  let order : Order := .startScript 1 false false []
  have started : order.carryOut 9 waitingGame = .ok () _ :=
    Run.eq_ok_of_value? (by decide +kernel)
  have played : Played (fun _ => True) waitingGame _ := .order .begin order trivial 9 started
  have runs : ((Run.last (order.carryOut 9) waitingGame).slots.get? 1).map Slot.status =
      some .running := by decide +kernel
  obtain ⟨slot, present, running⟩ := Option.map_eq_some_iff.mp runs
  obtain ⟨resumed, restores, same, alike⟩ := restored_game_goes_on waiting_built played
    (by decide +kernel) (by decide +kernel) (by decide +kernel)
  exact ⟨_, resumed, slot, played, present, running, restores, same, alike 9 _⟩

end Adventure.Machine
