import Adventure.Proofs.Machine.Lodged
import Adventure.Proofs.Room.Restored
import Adventure.Proofs.Routing.ShortestRoute
import Adventure.Proofs.Scale.Block

/-!
# Games that have just been built can be resumed

A game that has just been built is saved and restored into the game as it was built.  This
never fails: no script runs yet, and the first room is one of the game's own.

The room comes back as it was, with two exceptions.  A snapshot keeps the routing of a room
in the form of its block, and an entry that begins at box 255 reads as the end of a row
there.  Routing that is derived from boxes or read from a block has no such entry; only a
scenario can write one down.  And a snapshot of room zero is restored to no room, although a
scenario may call its first room so.
-/

set_option autoImplicit false

namespace Adventure

/-! ## Routing that survives as a block -/

namespace Matrix

/-- Gathered ranges begin at boxes that were there. -/
theorem gather_low_lt (hops : List (Option BoxId)) (position : Nat)
    (fits : position + hops.length ≤ 256) :
    ∀ entry ∈ gather position hops, entry.low.toNat < position + hops.length := by
  induction hops generalizing position with
  | nil =>
      intro entry member
      cases member
  | cons first rest ih =>
      rw [List.length_cons] at fits ⊢
      have later : ∀ entry ∈ gather (position + 1) rest,
          entry.low.toNat < position + (rest.length + 1) := by
        intro entry member
        have bound := ih (position + 1) (by omega) entry member
        omega
      have here : (UInt8.ofNat position).toNat < position + (rest.length + 1) := by
        rw [UInt8.toNat_ofNat', Nat.mod_eq_of_lt (by omega)]
        omega
      cases first with
      | none => exact later
      | some hop =>
          rw [gather]
          split
          next entry others found =>
            rw [found] at later
            obtain ⟨_, others⟩ := List.forall_mem_cons.mp later
            split
            · exact List.forall_mem_cons.mpr ⟨here, others⟩
            · exact List.forall_mem_cons.mpr ⟨here, later⟩
          next => exact List.forall_mem_cons.mpr ⟨here, fun _ none => absurd none List.not_mem_nil⟩

/-- Routing that is derived from boxes can be stored. -/
theorem rebuild_storable (count : Nat) (neighbours : BoxId → BoxId → Bool) :
    Storable (rebuild count neighbours).rows := by
  intro row member entry listed same
  obtain ⟨ways, found, rfl⟩ := List.mem_map.mp member
  have columns := (shortestWays_square (routable count) neighbours).columns ways found
  have few : routable count ≤ 255 := Nat.min_le_right _ _
  have bound := gather_low_lt (ways.map (·.hop)) 0 (by simp; omega) entry listed
  rw [same, List.length_map, columns] at bound
  change 255 < _ at bound
  omega

end Matrix

/-! ## The routing of built rooms -/

namespace Room

theorem ofBoxes_storable (number : UInt8) (boxes : List WalkBox) {matrix : Option Matrix}
    (given : ∀ found, matrix = some found → Matrix.Storable found.rows) :
    Matrix.Storable (ofBoxes number boxes matrix).matrix.rows := by
  cases matrix with
  | none => exact Matrix.rebuild_storable _ _
  | some matrix => exact given matrix rfl

theorem ofBlocks_storable (number : UInt8) (records : List BoxRecord) (block : Option Bytes)
    (entries : List ScaleBlock.Entry) :
    Matrix.Storable (ofBlocks number records (block.map RouteBlock.decode) entries).matrix.rows := by
  obtain ⟨ramps, only⟩ := installRamps_only _ entries
  rw [ofBlocks, only]
  refine ofBoxes_storable _ _ fun found same => ?_
  obtain ⟨block, _, rfl⟩ := Option.map_eq_some_iff.mp same
  exact RouteBlock.decode_storable block

end Room

namespace RoomSpec

variable {spec : RoomSpec} {source : FileSource} {directory : String} {rules : Rules}

/-- The routing that is written down in the scenario, if any, survives as a block. -/
def Storable (spec : RoomSpec) : Prop := ∀ rows, spec.matrix = some rows → Matrix.Storable rows

theorem geometry_storable {room : Room} (storable : spec.Storable)
    (built : spec.geometry source directory rules = .ok room) :
    Matrix.Storable room.matrix.rows := by
  have given : ∀ found, spec.matrix.map (fun rows => (⟨rows, false⟩ : Matrix)) = some found →
      Matrix.Storable found.rows := by
    intro found same
    obtain ⟨rows, written, rfl⟩ := Option.map_eq_some_iff.mp same
    exact storable rows written
  unfold geometry at built
  dsimp only at built
  split at built
  next files _ =>
    split at built
    · obtain ⟨records, _, built⟩ := Assembler.bind_eq_ok built
      obtain ⟨stored, _, built⟩ := Assembler.bind_eq_ok built
      obtain ⟨ramps, _, built⟩ := Assembler.bind_eq_ok built
      split at built
      next matrix same =>
        cases built
        exact given matrix same
      next =>
        cases built
        have block := Room.ofBlocks_storable spec.number records (stored.map (·.2)) ramps
        rw [Option.map_map] at block
        exact block
    · cases built
  next =>
    cases built
    exact Room.ofBoxes_storable _ _ given

theorem build_storable {loaded : LoadedRoom} (storable : spec.Storable)
    (built : spec.build source directory rules = .ok loaded) :
    Matrix.Storable loaded.geometry.matrix.rows := by
  obtain ⟨geometry, shaped, built⟩ := Assembler.bind_eq_ok built
  obtain ⟨locals, _, built⟩ := Assembler.bind_eq_ok built
  obtain ⟨objects, _, built⟩ := Assembler.bind_eq_ok built
  cases built
  obtain ⟨ramps, only⟩ := Room.foldl_setRamp Prod.fst Prod.snd spec.ramps geometry
  have kept := geometry_storable storable shaped
  dsimp only
  rwa [only]

end RoomSpec

namespace Scenario

variable {scenario : Scenario} {source : FileSource} {directory : String} {rules : Rules}

/-- Every room of a game is built from a room of the scenario. -/
theorem rooms_built {rooms : Keyed UInt8 LoadedRoom}
    (built : scenario.rooms.foldlM (addRoom source directory rules) [] = .ok rooms)
    {number : UInt8} {loaded : LoadedRoom} (known : rooms.get? number = some loaded) :
    ∃ spec ∈ scenario.rooms, spec.number = number ∧
      spec.build source directory rules = .ok loaded := by
  have all : ∀ entry ∈ rooms, ∃ spec ∈ scenario.rooms.reverse, spec.number = entry.1 ∧
      spec.build source directory rules = .ok entry.2 := by
    refine Assembler.foldlM_kept (fun done rooms => ∀ entry ∈ rooms, ∃ spec ∈ done,
      spec.number = entry.1 ∧ spec.build source directory rules = .ok entry.2) ?_
      (fun _ member => absurd member List.not_mem_nil) built
    intro done rooms next spec earlier added
    unfold addRoom at added
    split at added
    next => cases added
    next room shaped =>
      split at added
      next => cases added
      next =>
        cases added
        intro entry member
        rcases List.mem_append.mp member with old | new
        · obtain ⟨other, listed, facts⟩ := earlier entry (List.mem_filter.mp old).1
          exact ⟨other, List.mem_cons_of_mem _ listed, facts⟩
        · cases List.mem_singleton.mp new
          exact ⟨spec, List.mem_cons_self, rfl, shaped⟩
  obtain ⟨spec, listed, facts⟩ := all _ (Assembler.mem_of_lookup known)
  exact ⟨spec, List.mem_reverse.mp listed, facts⟩

theorem assemble_rooms {m : Machine} (assembled : scenario.assemble source directory rules = .ok m) :
    scenario.rooms.foldlM (addRoom source directory rules) [] = .ok m.rooms := by
  obtain ⟨library, _, assembled⟩ := Assembler.bind_eq_ok assembled
  obtain ⟨rooms, built, assembled⟩ := Assembler.bind_eq_ok assembled
  split at assembled
  next =>
    obtain ⟨cast, _, assembled⟩ := Assembler.bind_eq_ok assembled
    cases assembled
    exact built
  next => cases assembled

/-- The routing of a game that has been built survives as a block if the scenario writes none
down for the first room, or one that does. -/
theorem build_storable {start : Machine} (built : scenario.build source directory rules = .ok start)
    (storable : ∀ spec ∈ scenario.rooms, spec.number = scenario.startRoom → spec.Storable) :
    Matrix.Storable start.room.matrix.rows := by
  obtain ⟨m, loaded, cast, events, assembled, known, _, rfl⟩ := build_ok built
  obtain ⟨spec, listed, number, shaped⟩ := rooms_built (assemble_rooms assembled) known
  exact RoomSpec.build_storable (storable spec listed number) shaped

/-! ## Saving and resuming -/

/-- Restoring a game that has just been built never misses a script. -/
theorem build_missingSlot? {start : Machine}
    (built : scenario.build source directory rules = .ok start) (library : Library) :
    Machine.missingSlot? library start.snapshot.slots = none := by
  apply List.find?_eq_none.mpr
  intro saved member missing
  obtain ⟨slot, listed, rfl⟩ := List.mem_map.mp member
  obtain ⟨id, present⟩ := List.mem_iff_getElem?.mp listed
  rw [build_slots built present] at missing
  cases missing

/-- Restoring a game that has just been built loads its first room again. -/
theorem build_savedRoom? {start : Machine}
    (built : scenario.build source directory rules = .ok start) :
    ∃ loaded, start.savedRoom? start.snapshot.room.number = some loaded ∧
      (scenario.startRoom ≠ 0 → start.library.room = loaded.code ∧
        loaded.geometry.withSnapshot start.room.snapshot =
          { start.room with
            matrix := RouteBlock.decode (RouteBlock.encode start.room.matrix.rows) }) := by
  obtain ⟨m, loaded, cast, events, _, known, _, rfl⟩ := build_ok built
  by_cases zero : scenario.startRoom = 0
  · exact ⟨_, if_pos zero, fun shown => absurd zero shown⟩
  · refine ⟨loaded, (if_neg zero).trans known, fun _ => ⟨rfl, ?_⟩⟩
    exact Room.withSnapshot_eq (.refl _)

/-- **A game that has just been built can be saved and resumed.**  Restoring its snapshot into the
game as it was built always succeeds.  Unless its first room is room zero, the restored game has
the boxes of the room, with their flags, and its code.  If moreover no routing entry that the
scenario writes down for this room begins at box 255, routing gives the same answers. -/
theorem built_game_resumes {start : Machine}
    (built : scenario.build source directory rules = .ok start) :
    ∃ resumed, start.restore start.snapshot = .ok resumed ∧
      (scenario.startRoom ≠ 0 →
        resumed.room.boxes = start.room.boxes ∧
          resumed.room.extraFlags = start.room.extraFlags ∧
          resumed.library.room = start.library.room ∧
          ((∀ spec ∈ scenario.rooms, spec.number = scenario.startRoom → ∀ rows,
              spec.matrix = some rows → ∀ row ∈ rows, ∀ entry ∈ row, entry.low ≠ 0xFF) →
            ∀ here there, resumed.room.nextBox here there = start.room.nextBox here there)) := by
  obtain ⟨loaded, found, again⟩ := build_savedRoom? built
  have missing := build_missingSlot? built { start.library with room := loaded.code }
  have restores : start.restore start.snapshot = .ok ((start.resume start.snapshot loaded).logged
      s!"vm.restore tick {start.snapshot.tick}") := by
    simp only [Machine.restore, found, missing]
  refine ⟨_, restores, fun shown => ?_⟩
  obtain ⟨code, room⟩ := again shown
  have same : (start.resume start.snapshot loaded).room =
      { start.room with
        matrix := RouteBlock.decode (RouteBlock.encode start.room.matrix.rows) } := room
  have boxes : (start.resume start.snapshot loaded).room.boxes = start.room.boxes := by
    rw [same]
  have flags : (start.resume start.snapshot loaded).room.extraFlags = start.room.extraFlags := by
    rw [same]
  refine ⟨boxes, flags, code.symm, ?_⟩
  intro storable here there
  change (start.resume start.snapshot loaded).room.nextBox here there = _
  rw [same, RouteBlock.decode_encode (build_storable built storable)]
  exact Room.nextBox_withTruncated start.room false here there

/-! ## Small scenarios -/

/-- A scenario of one room with two boxes side by side, and routing rows that are written down. -/
def ofRows (number : UInt8) (rows : List (List RouteEntry)) : Scenario :=
  let left : WalkBox := ⟨⟨⟨0, 0⟩, ⟨9, 0⟩, ⟨9, 9⟩, ⟨0, 9⟩⟩, 0, ⟨0⟩, .fixed 255⟩
  let right : WalkBox := ⟨⟨⟨9, 0⟩, ⟨19, 0⟩, ⟨19, 9⟩, ⟨9, 9⟩⟩, 0, ⟨0⟩, .fixed 255⟩
  { generation := none
    startRoom := number
    ego := none
    hooks := ⟨0, 0⟩
    rooms := [⟨number, [left, right], none, some rows, [], [], []⟩]
    scripts := []
    inventory := []
    floating := []
    actors := []
    boot := []
    abortAt := [] }

/-- The game of a scenario without files, as it was built and as it is resumed. -/
def games? (scenario : Scenario) : Option (Machine × Machine) := do
  let start ← (scenario.build (fun _ => .error .missing) "" .standard).toOption
  let resumed ← (start.restore start.snapshot).toOption
  return (start, resumed)

/-- What is asked of the game of a scenario as it was built and as it is resumed. -/
theorem games_of_map {α : Type} (scenario : Scenario) (question : Machine → α)
    {answer again : α}
    (asked : scenario.games?.map (fun pair => (question pair.1, question pair.2)) =
      some (answer, again)) :
    ∃ start resumed, scenario.build (fun _ => .error .missing) "" .standard = .ok start ∧
      start.restore start.snapshot = .ok resumed ∧
      question start = answer ∧ question resumed = again := by
  unfold games? at asked
  cases built : scenario.build (fun _ => .error .missing) "" .standard with
  | error fault =>
      rw [built] at asked
      cases asked
  | ok start =>
      rw [built] at asked
      cases restores : start.restore start.snapshot with
      | error fault => simp [Except.toOption, restores] at asked
      | ok resumed =>
          refine ⟨start, resumed, rfl, restores, ?_⟩
          simpa [Except.toOption, restores] using asked

/-- Of the rows for two boxes, the first leads from the left box to the right one. -/
theorem built_game_resumes_twoBoxes :
    ∃ start resumed, (ofRows 1 [[⟨1, 1, 1⟩], [⟨0, 0, 0⟩]]).build (fun _ => .error .missing) ""
        .standard = .ok start ∧
      start.restore start.snapshot = .ok resumed ∧ resumed.room.boxes.length = 2 ∧
      resumed.room.nextBox (some 0) (some 1) = some 1 := by
  have asked : (ofRows 1 [[⟨1, 1, 1⟩], [⟨0, 0, 0⟩]]).games?.map (fun pair =>
      ((pair.1.room.boxes.length, pair.1.room.nextBox (some 0) (some 1)),
        (pair.2.room.boxes.length, pair.2.room.nextBox (some 0) (some 1)))) =
      some ((2, some 1), (2, some 1)) := by
    decide +kernel
  obtain ⟨start, _, built, _, before, _⟩ := games_of_map _
    (fun game => (game.room.boxes.length, game.room.nextBox (some 0) (some 1))) asked
  obtain ⟨resumed, restores, shown⟩ := built_game_resumes built
  obtain ⟨boxes, _, _, routes⟩ := shown (by decide)
  obtain ⟨count, way⟩ := Prod.mk.inj before
  refine ⟨start, resumed, built, restores, by rw [boxes, count], ?_⟩
  rw [routes (by decide), way]

/-- **Not every game comes back as it was built.**  A row that begins with an entry at box 255 is
lost with all that follows, and room zero comes back without its boxes. -/
theorem built_games_change :
    (∃ start resumed, (ofRows 1 [[⟨0xFF, 0, 0⟩, ⟨1, 1, 1⟩], []]).build (fun _ => .error .missing)
        "" .standard = .ok start ∧
      start.restore start.snapshot = .ok resumed ∧
      start.room.nextBox (some 0) (some 1) = some 1 ∧
      resumed.room.nextBox (some 0) (some 1) = none) ∧
    (∃ start resumed, (ofRows 0 []).build (fun _ => .error .missing) "" .standard = .ok start ∧
      start.restore start.snapshot = .ok resumed ∧
      start.room.boxes.length = 2 ∧ resumed.room.boxes.length = 0) :=
  ⟨games_of_map _ (fun game => game.room.nextBox (some 0) (some 1)) (by decide +kernel),
    games_of_map _ (fun game => game.room.boxes.length) (by decide +kernel)⟩

end Scenario

end Adventure
