import Adventure.Machine.Snapshot
import Adventure.Proofs.Machine.Running

/-!
# Restoring in place

A snapshot is restored into a running machine step by step, and half way the library already
holds the code of another room.  A slot without code found there ends the computation, so the
old code has to be back by then.  Restoring in place comes to what `restore` says in one step
(`reinstate_eq`): it fails exactly if something is lacking, and a machine that it failed on is
the machine it was.
-/

set_option autoImplicit false

namespace Adventure.Machine

/-! ## The steps -/

theorem swapRoomCode_apply (code : RoomCode) (m : Machine) :
    swapRoomCode code m =
      .ok m.library.room { m with library := { m.library with room := code } } := rfl

theorem demandCode_apply (old : RoomCode) (slot : Slot) (m : Machine) :
    demandCode old slot m =
      if (m.library.code? slot.number slot.location).isNone then
        .error (.failed (.missingScript slot.number slot.location))
          { m with library := { m.library with room := old } }
      else .ok ⟨⟩ m := by
  unfold demandCode
  rw [Run.get_bind_apply]
  split <;> rfl

/-- The first live slot without code ends the search, and the old code is in the library again. -/
theorem demandCodes_apply (old : RoomCode) (slots : List Slot) (m : Machine) :
    (slots.filter fun slot => !slot.isDead).forM (demandCode old) m =
      match missingSlot? m.library slots with
      | some slot => .error (.failed (.missingScript slot.number slot.location))
          { m with library := { m.library with room := old } }
      | none => .ok ⟨⟩ m := by
  induction slots with
  | nil => rfl
  | cons slot slots ih =>
      cases dead : slot.isDead with
      | true =>
          have passed : missingSlot? m.library (slot :: slots) = missingSlot? m.library slots :=
            List.find?_cons_of_neg (by simp [dead])
          rw [List.filter_cons_of_neg (by simp [dead]), passed, ih]
      | false =>
          rw [List.filter_cons_of_pos (by simp [dead]), Run.forM_cons, Run.bind_apply,
            demandCode_apply]
          by_cases lost : (m.library.code? slot.number slot.location).isNone
          · have found : missingSlot? m.library (slot :: slots) = some slot :=
              List.find?_cons_of_pos (by simp [dead, lost])
            rw [if_pos lost, found]
          · have passed : missingSlot? m.library (slot :: slots) = missingSlot? m.library slots :=
              List.find?_cons_of_neg (by simp [lost])
            rw [if_neg lost, passed]
            exact ih

/-- **Restoring in place** comes to a restored machine, or to a failure that leaves the machine
as it was. -/
theorem reinstate_eq (saved : Snapshot) (m : Machine) :
    reinstate saved m =
      match m.restore saved with
      | .ok next => .ok ⟨⟩ next
      | .error error => .error (.failed error) m := by
  unfold reinstate restore
  rw [Run.get_bind_apply]
  cases m.savedRoom? saved.room.number with
  | none => rfl
  | some loaded =>
      dsimp only
      rw [Run.bind_apply, swapRoomCode_apply]
      dsimp only
      rw [Run.bind_apply, demandCodes_apply]
      dsimp only
      cases missingSlot? { m.library with room := loaded.code } saved.slots with
      | some slot => rfl
      | none => rfl

/-! ## What can be lacking -/

/-- The code that comes with a room: that of the room as it is loaded, and none for room zero. -/
inductive Furnishes (m : Machine) : UInt8 → RoomCode → Prop where
  | nowhere : Furnishes m 0 .empty
  | room {number : UInt8} {loaded : LoadedRoom} (shown : number ≠ 0)
      (known : m.rooms.get? number = some loaded) : Furnishes m number loaded.code

/-- What a machine lacks for a snapshot, as the error that reports it.  This is its room, if it
has one, or else the code of its first live slot that has none among the code of that room and
the code that is always there. -/
inductive Lacks (m : Machine) (saved : Snapshot) : ScriptError → Prop where
  | room (shown : saved.room.number ≠ 0) (absent : m.rooms.get? saved.room.number = none) :
      Lacks m saved (.missingRoom saved.room.number)
  | script {code : RoomCode} {before after : List Slot} {slot : Slot}
      (furnished : m.Furnishes saved.room.number code)
      (listed : saved.slots = before ++ slot :: after)
      (earlier : ∀ other ∈ before, other.isDead = false →
        ({ m.library with room := code }.code? other.number other.location).isSome)
      (alive : slot.isDead = false)
      (lost : { m.library with room := code }.code? slot.number slot.location = none) :
      Lacks m saved (.missingScript slot.number slot.location)

variable {m : Machine} {saved : Snapshot}

theorem savedRoom?_eq_none_iff {number : UInt8} :
    m.savedRoom? number = none ↔ number ≠ 0 ∧ m.rooms.get? number = none := by
  unfold savedRoom?
  split
  next zero => simp [zero]
  next shown => simp [shown]

theorem furnishes_iff {number : UInt8} {code : RoomCode} :
    m.Furnishes number code ↔ ∃ loaded, m.savedRoom? number = some loaded ∧ loaded.code = code := by
  constructor
  · rintro (_ | ⟨shown, known⟩)
    · exact ⟨_, if_pos rfl, rfl⟩
    · exact ⟨_, (if_neg shown).trans known, rfl⟩
  · rintro ⟨loaded, known, rfl⟩
    unfold savedRoom? at known
    split at known
    next zero =>
      cases known
      rw [zero]
      exact .nowhere
    next shown => exact .room shown known

theorem missingSlot?_eq_some_iff {library : Library} {slots : List Slot} {slot : Slot} :
    missingSlot? library slots = some slot ↔
      (slot.isDead = false ∧ library.code? slot.number slot.location = none) ∧
        ∃ before after, slots = before ++ slot :: after ∧ ∀ other ∈ before,
          other.isDead = false → (library.code? other.number other.location).isSome := by
  have passed : ∀ other : Slot,
      (!(!other.isDead && (library.code? other.number other.location).isNone)) = true ↔
        (other.isDead = false → (library.code? other.number other.location).isSome) := by
    intro other
    cases other.isDead <;> simp
  unfold missingSlot?
  simp only [List.find?_eq_some_iff_append, passed, Bool.and_eq_true, Bool.not_eq_true',
    Option.isNone_iff_eq_none]

theorem restore_eq_error_iff {error : ScriptError} :
    m.restore saved = .error error ↔ m.Lacks saved error := by
  unfold restore
  constructor
  · intro failed
    split at failed
    next none =>
      cases failed
      obtain ⟨shown, absent⟩ := savedRoom?_eq_none_iff.mp none
      exact .room shown absent
    next loaded known =>
      split at failed
      next slot missing =>
        cases failed
        obtain ⟨⟨alive, lost⟩, before, after, listed, earlier⟩ := missingSlot?_eq_some_iff.mp missing
        exact .script (furnishes_iff.mpr ⟨loaded, known, rfl⟩) listed earlier alive lost
      next => cases failed
  · rintro (⟨shown, absent⟩ | ⟨furnished, listed, earlier, alive, lost⟩)
    · rw [savedRoom?_eq_none_iff.mpr ⟨shown, absent⟩]
    · obtain ⟨loaded, known, rfl⟩ := furnishes_iff.mp furnished
      rw [known]
      dsimp only
      rw [missingSlot?_eq_some_iff.mpr ⟨⟨alive, lost⟩, _, _, listed, earlier⟩]

/-- **A failed restore changes nothing.**  Restoring fails exactly if something is lacking, which
is what it reports, and then every part of the machine is as it was before. -/
theorem failed_restore_changes_nothing (m : Machine) (saved : Snapshot) (halt : Halt)
    (last : Machine) :
    reinstate saved m = .error halt last ↔
      (∃ error, halt = .failed error ∧ m.Lacks saved error) ∧ last = m := by
  rw [reinstate_eq]
  constructor
  · intro failed
    cases restored : m.restore saved with
    | ok next =>
        rw [restored] at failed
        cases failed
    | error error =>
        rw [restored] at failed
        cases failed
        exact ⟨⟨error, rfl, restore_eq_error_iff.mp restored⟩, rfl⟩
  · rintro ⟨⟨error, rfl, lacks⟩, rfl⟩
    rw [restore_eq_error_iff.mpr lacks]

/-- A machine in no room, whose library holds the code of a script from a room it has left. -/
def leftBehind : Machine :=
  boot .standard ⟨[], [], [], ⟨[(200, [0x00])], []⟩⟩ []

/-- A snapshot with more slots than there are, the last of which runs that script. -/
def crowded : Snapshot :=
  { leftBehind.snapshot with
    slots := List.replicate 85 .empty ++ [.start 200 .local_ 0 false false []] }

/-- The script is looked for in room zero, which has no code, and where it was before it is
found again afterwards. -/
theorem failed_restore_changes_nothing_crowded : ∃ last,
    reinstate crowded leftBehind = .error (.failed (.missingScript 200 .local_)) last ∧
      last.library.code? 200 .local_ = some [0x00] := by
  have lacks : leftBehind.Lacks crowded (.missingScript 200 .local_) := by
    have furnished : leftBehind.Furnishes crowded.room.number .empty := .nowhere
    have listed : crowded.slots =
        List.replicate 85 .empty ++ .start 200 .local_ 0 false false [] :: [] := rfl
    refine .script furnished listed ?_ rfl rfl
    intro other listed alive
    rw [List.eq_of_mem_replicate listed] at alive
    cases alive
  exact ⟨leftBehind, (failed_restore_changes_nothing _ _ _ _).mpr ⟨⟨_, rfl, lacks⟩, rfl⟩, rfl⟩

end Adventure.Machine
