import Adventure.Proofs.Data.Bytes
import Adventure.Room.Adjacency

/-!
# Scale slots from a block

The entries of a `SCAL` block are installed one after the other.  The slot of an entry is its
position counted from one, kept in a byte, so the 257th entry comes round to slot 1 again.  A
slot holds the last used entry whose number comes down to the slot, or what it held before.

Up to the 256th entry no number comes round: slot `k` then holds the `k`-th entry if that one is
used, and entries from the 21st on change nothing.
-/

set_option autoImplicit false

namespace Adventure

namespace ScaleBlock

/-! ## Entries by position -/

/-- The word at a place of a byte string, zero past its end. -/
def wordAt (input : Bytes) (place : Nat) : UInt16 :=
  Bytes.wordLow (input.getD place 0) (input.getD (place + 1) 0)

/-- The ramp an entry describes.  Positions are counted from zero. -/
def rampAt (input : Bytes) (position : Nat) : ScaleRamp :=
  .vertical (wordAt input (entrySize * position + 2)).toNat
    (wordAt input (entrySize * position)).toNat
    (wordAt input (entrySize * position + 6)).toNat
    (wordAt input (entrySize * position + 4)).toNat

/-- A block has an entry at a position, and its scales are not both zero. -/
structure Uses (input : Bytes) (position : Nat) : Prop where
  inside : entrySize * (position + 1) ≤ input.length
  scaled : ¬ (wordAt input (entrySize * position) = 0 ∧
    wordAt input (entrySize * position + 4) = 0)

instance (input : Bytes) (position : Nat) : Decidable (Uses input position) :=
  decidable_of_iff (entrySize * (position + 1) ≤ input.length ∧
      ¬ (wordAt input (entrySize * position) = 0 ∧ wordAt input (entrySize * position + 4) = 0))
    ⟨fun ⟨inside, scaled⟩ => ⟨inside, scaled⟩, fun ⟨inside, scaled⟩ => ⟨inside, scaled⟩⟩

theorem wordAt_drop (input : Bytes) (count place : Nat) :
    wordAt (input.drop count) place = wordAt input (count + place) := by
  simp only [wordAt, List.getD_eq_getElem?_getD, List.getElem?_drop, Nat.add_assoc]

/-- Where the entry after one entry and some more starts. -/
theorem start_succ (position : Nat) :
    entrySize * (position + 1) = entrySize + entrySize * position := by
  rw [Nat.mul_add_one, Nat.add_comm]

theorem rampAt_drop (input : Bytes) (position : Nat) :
    rampAt (input.drop entrySize) position = rampAt input (position + 1) := by
  simp only [rampAt, wordAt_drop, start_succ, Nat.add_assoc]

theorem uses_drop {input : Bytes} {position : Nat} :
    Uses (input.drop entrySize) position ↔ Uses input (position + 1) := by
  constructor
  · rintro ⟨inside, scaled⟩
    rw [List.length_drop] at inside
    refine ⟨by simp only [entrySize] at inside ⊢; omega, ?_⟩
    rwa [start_succ, Nat.add_assoc, ← wordAt_drop, ← wordAt_drop]
  · rintro ⟨inside, scaled⟩
    refine ⟨by rw [List.length_drop]; simp only [entrySize] at inside ⊢; omega, ?_⟩
    rwa [start_succ, Nat.add_assoc, ← wordAt_drop, ← wordAt_drop] at scaled

/-! ## What fills a slot -/

/-- What a slot holds after a block whose first entry has a given number: the last used entry
that names the slot, or what the slot held before. -/
inductive Fills (input : Bytes) (first slot : Nat) (before : ScaleRamp) : ScaleRamp → Prop
  | entry {position : Nat} (named : (first + position) % 256 = slot) (used : Uses input position)
      (last : ∀ later, position < later → (first + later) % 256 = slot → ¬ Uses input later) :
      Fills input first slot before (rampAt input position)
  | kept (unnamed : ∀ position, (first + position) % 256 = slot → ¬ Uses input position) :
      Fills input first slot before before

/-- One entry and the entries after it. -/
theorem Fills.cons {input : Bytes} {first slot : Nat} {before ramp : ScaleRamp}
    (fills : Fills (input.drop entrySize) (first + 1) slot
      (if Uses input 0 ∧ first % 256 = slot then rampAt input 0 else before) ramp) :
    Fills input first slot before ramp := by
  cases fills with
  | @entry position named used last =>
      rw [rampAt_drop]
      refine .entry (by rwa [Nat.add_right_comm] at named) (uses_drop.mp used) ?_
      rintro (_ | later) after names
      · exact absurd after (Nat.not_lt_zero _)
      · rw [← uses_drop]
        exact last later (by omega) (by rwa [Nat.add_right_comm])
  | kept unnamed =>
      have rest : ∀ later, (first + (later + 1)) % 256 = slot → ¬ Uses input (later + 1) := by
        intro later names
        rw [← uses_drop]
        exact unnamed later (by rwa [Nat.add_right_comm])
      split
      next fresh =>
        refine .entry fresh.2 fresh.1 ?_
        rintro (_ | later) after names
        · exact absurd after (Nat.lt_irrefl _)
        · exact rest later names
      next old =>
        refine .kept ?_
        rintro (_ | later) names
        · exact fun used => old ⟨used, names⟩
        · exact rest later names

theorem length_lt_of_ragged {input : Bytes}
    (ragged : ∀ a0 a1 b0 b1 c0 c1 d0 d1 rest,
      input = a0 :: a1 :: b0 :: b1 :: c0 :: c1 :: d0 :: d1 :: rest → False) :
    input.length < entrySize := by
  rcases input with _ | ⟨a0, _ | ⟨a1, _ | ⟨b0, _ | ⟨b1, _ | ⟨c0, _ | ⟨c1, _ | ⟨d0, _ | ⟨d1, rest⟩⟩⟩⟩⟩⟩⟩⟩
  iterate 8 exact Nat.le_of_ble_eq_true rfl
  exact (ragged _ _ _ _ _ _ _ _ rest rfl).elim

/-- A rest that is shorter than an entry fills nothing. -/
theorem Fills.short {input : Bytes} {first slot : Nat} {before : ScaleRamp}
    (short : input.length < entrySize) : Fills input first slot before before := by
  refine .kept fun position _ used => ?_
  have inside := used.inside
  simp only [entrySize] at inside short
  omega

/-! ## Blocks whose numbers do not come round -/

/-- A block uses an entry from the 257th on whose number comes round to a scale slot. -/
def ComesRound (input : Bytes) : Prop :=
  ∃ position, 256 ≤ position ∧ Uses input position ∧
    1 ≤ (1 + position) % 256 ∧ (1 + position) % 256 ≤ 20

theorem not_comesRound {input : Bytes} (short : input.length ≤ entrySize * 256) :
    ¬ ComesRound input := by
  rintro ⟨position, far, ⟨inside, _⟩, _⟩
  simp only [entrySize] at short inside
  omega

/-- A slot takes its own entry. -/
theorem Fills.own {input : Bytes} {slot : Nat} {before ramp : ScaleRamp}
    (fills : Fills input 1 slot before ramp) (apart : ¬ ComesRound input) (named : 1 ≤ slot)
    (few : slot ≤ 20) :
    ramp = if Uses input (slot - 1) then rampAt input (slot - 1) else before := by
  cases fills with
  | @entry position names used last =>
      have near : position < 256 := by
        by_contra far
        exact apart ⟨position, Nat.le_of_not_lt far, used, by omega, by omega⟩
      have own : position = slot - 1 := by omega
      rw [← own, if_pos used]
  | kept unnamed => rw [if_neg (unnamed (slot - 1) (by omega))]

theorem wordAt_take {input : Bytes} {count place : Nat} (inside : place + 1 < count) :
    wordAt (input.take count) place = wordAt input place := by
  simp only [wordAt, List.getD_eq_getElem?_getD, List.getElem?_take_of_lt inside,
    List.getElem?_take_of_lt (Nat.lt_of_succ_lt inside)]

section Front

variable {input : Bytes} {count position : Nat}

theorem wordAt_entry_take (front : position < count) {offset : Nat}
    (inside : offset + 1 < entrySize) :
    wordAt (input.take (entrySize * count)) (entrySize * position + offset) =
      wordAt input (entrySize * position + offset) :=
  wordAt_take (by simp only [entrySize] at inside ⊢; omega)

theorem wordAt_start_take (front : position < count) :
    wordAt (input.take (entrySize * count)) (entrySize * position) =
      wordAt input (entrySize * position) :=
  wordAt_take (by simp only [entrySize]; omega)

theorem rampAt_take (front : position < count) :
    rampAt (input.take (entrySize * count)) position = rampAt input position := by
  simp (disch := decide) only [rampAt, wordAt_start_take front, wordAt_entry_take front]

theorem uses_take (front : position < count) :
    Uses (input.take (entrySize * count)) position ↔ Uses input position := by
  have within : entrySize * (position + 1) ≤ (input.take (entrySize * count)).length ↔
      entrySize * (position + 1) ≤ input.length := by
    rw [List.length_take]
    simp only [entrySize]
    omega
  constructor
  · rintro ⟨inside, scaled⟩
    rw [wordAt_start_take front, wordAt_entry_take front (by decide)] at scaled
    exact ⟨within.mp inside, scaled⟩
  · rintro ⟨inside, scaled⟩
    rw [← wordAt_start_take front, ← wordAt_entry_take front (by decide)] at scaled
    exact ⟨within.mpr inside, scaled⟩

end Front

end ScaleBlock

namespace Room

open ScaleBlock

theorem slotIndex?_named {slot : UInt8} (named : slot ≠ 0) :
    slotIndex? slot = some (slot.toNat - 1) := if_neg named

/-- A ramp is found in the slot it is put into, and every other slot keeps its own. -/
theorem ramp?_setRamp (room : Room) (slot other : UInt8) (ramp : ScaleRamp) :
    (room.setRamp slot ramp).ramp? other =
      if slot = other then (room.ramp? other).map fun _ => ramp else room.ramp? other := by
  by_cases named : slot = 0
  · subst named
    by_cases same : 0 = other
    · subst same
      rfl
    · rw [if_neg same]
      rfl
  · by_cases asked : other = 0
    · subst asked
      rw [if_neg named]
      rfl
    · have apart : slot.toNat - 1 = other.toNat - 1 ↔ slot = other := by
        rw [← UInt8.toNat_inj]
        rw [← UInt8.toNat_inj, UInt8.toNat_zero] at named asked
        omega
      simp only [setRamp, ramp?, slotIndex?_named named, slotIndex?_named asked, Bank.get?,
        Bank.cells_set, List.getElem?_set', apart]
      split <;> rfl

theorem installRamps_read {slot : UInt8} (number : Nat) (input : Bytes) {room : Room}
    {before : ScaleRamp} (held : room.ramp? slot = some before) :
    ∃ ramp, (room.installRamps (read number input)).ramp? slot = some ramp ∧
      Fills input number slot.toNat before ramp := by
  fun_induction ScaleBlock.read number input generalizing room before
  case case1 number a0 a1 b0 b1 c0 c1 d0 d1 rest entry unused ih =>
    obtain ⟨ramp, holds, fills⟩ := ih held
    refine ⟨ramp, holds, .cons ?_⟩
    rwa [if_neg fun both => both.1.scaled unused]
  case case2 number a0 a1 b0 b1 c0 c1 d0 d1 rest entry used ih =>
    have uses : Uses (a0 :: a1 :: b0 :: b1 :: c0 :: c1 :: d0 :: d1 :: rest) 0 :=
      ⟨Nat.le_add_left entrySize rest.length, used⟩
    have set := ramp?_setRamp room (UInt8.ofNat number) slot
      (rampAt (a0 :: a1 :: b0 :: b1 :: c0 :: c1 :: d0 :: d1 :: rest) 0)
    simp only [held, ← UInt8.toNat_inj, UInt8.toNat_ofNat', Option.map_some] at set
    obtain ⟨ramp, holds, fills⟩ := ih (set.trans (apply_ite some _ _ _).symm)
    refine ⟨ramp, holds, .cons ?_⟩
    simp only [uses, true_and]
    exact fills
  case case3 input number ragged =>
    exact ⟨before, held, .short (length_lt_of_ragged ragged)⟩

/-- Setting scale slots changes nothing else. -/
theorem foldl_setRamp {α : Type} (slot : α → UInt8) (ramp : α → ScaleRamp) (entries : List α)
    (room : Room) :
    ∃ ramps, entries.foldl (fun room entry => room.setRamp (slot entry) (ramp entry)) room =
      { room with ramps := ramps } := by
  induction entries generalizing room with
  | nil => exact ⟨room.ramps, rfl⟩
  | cons entry entries ih =>
      have once : ∃ ramps, room.setRamp (slot entry) (ramp entry) = { room with ramps := ramps } := by
        unfold setRamp
        split
        · exact ⟨_, rfl⟩
        · exact ⟨room.ramps, rfl⟩
      obtain ⟨one, once⟩ := once
      obtain ⟨ramps, rest⟩ := ih { room with ramps := one }
      exact ⟨ramps, by rw [List.foldl_cons, once, rest]⟩

theorem installRamps_only (room : Room) (entries : List ScaleBlock.Entry) :
    ∃ ramps, room.installRamps entries = { room with ramps := ramps } :=
  foldl_setRamp _ _ entries room

/-- Scale slots that hold the same hold it cell by cell. -/
theorem ramps_eq {room : Room} {one two : Bank ScaleRamp 20}
    (same : ∀ slot : UInt8, 1 ≤ slot → slot ≤ 20 →
      ({ room with ramps := one } : Room).ramp? slot =
        ({ room with ramps := two } : Room).ramp? slot) : one = two := by
  refine Bank.ext_get? fun index => ?_
  by_cases inside : index < 20
  · have value : (UInt8.ofNat (index + 1)).toNat = index + 1 := by
      rw [UInt8.toNat_ofNat']
      omega
    have named : UInt8.ofNat (index + 1) ≠ 0 := by
      rw [Ne, ← UInt8.toNat_inj, value, UInt8.toNat_zero]
      exact Nat.succ_ne_zero index
    have cell := same (UInt8.ofNat (index + 1))
      (by rw [UInt8.le_iff_toNat_le, value]; exact Nat.le_add_left 1 index)
      (by rw [UInt8.le_iff_toNat_le, value]; exact inside)
    simpa only [ramp?, slotIndex?_named named, value, Nat.add_sub_cancel] using cell
  · have outside : ∀ ramps : Bank ScaleRamp 20, ramps.get? index = none := fun ramps =>
      List.getElem?_eq_none (by rw [ramps.length_cells]; omega)
    rw [outside, outside]

/-- Two lists of ramps that leave the same in every slot make the same room. -/
theorem installRamps_same {room : Room} {entries others : List ScaleBlock.Entry}
    (same : ∀ slot : UInt8, 1 ≤ slot → slot ≤ 20 →
      (room.installRamps entries).ramp? slot = (room.installRamps others).ramp? slot) :
    room.installRamps entries = room.installRamps others := by
  obtain ⟨one, first⟩ := installRamps_only room entries
  obtain ⟨two, second⟩ := installRamps_only room others
  rw [first, second] at same ⊢
  rw [ramps_eq same]

theorem slot_index_lt {slot : UInt8} (named : 1 ≤ slot) (few : slot ≤ 20) : slot.toNat - 1 < 20 :=
  Nat.sub_one_lt_of_le (UInt8.le_iff_toNat_le.mp named) (UInt8.le_iff_toNat_le.mp few)

theorem ramp?_ofBoxes (number : UInt8) (boxes : List WalkBox) (matrix : Option Matrix)
    {slot : UInt8} (named : 1 ≤ slot) (few : slot ≤ 20) :
    (ofBoxes number boxes matrix).ramp? slot = some .blank := by
  have ramps : (ofBoxes number boxes matrix).ramps = .replicate 20 .blank := by
    cases matrix <;> rfl
  have own : slot ≠ 0 := by
    rintro rfl
    exact absurd named (by decide)
  rw [ramp?, slotIndex?_named own, ramps]
  exact List.getElem?_replicate_of_lt (slot_index_lt named few)

/-- What a slot holds once a block has been installed. -/
theorem ramp?_ofBlocks (number : UInt8) (records : List BoxRecord) (matrix : Option Matrix)
    (input : Bytes) {slot : UInt8} (named : 1 ≤ slot) (few : slot ≤ 20) :
    ∃ ramp, (ofBlocks number records matrix (ScaleBlock.read 1 input)).ramp? slot = some ramp ∧
      Fills input 1 slot.toNat .blank ramp :=
  installRamps_read 1 input (ramp?_ofBoxes _ _ _ named few)

/-- **The scale slots of a room are those its block fills.**  A block whose length is no multiple
of an entry is refused.  Any other block fills each of the twenty slots with the last used entry
whose number, kept in a byte, is the slot, and leaves it blank if there is none.  Unless an entry
from the 257th on comes round to a scale slot, slot `k` is filled by the `k`-th entry and the
entries after the twentieth change nothing. -/
theorem scale_slots_filled (number : UInt8) (records : List BoxRecord) (matrix : Option Matrix)
    (input : Bytes) :
    (input.length % entrySize ≠ 0 → decode input = .error ⟨input.length⟩) ∧
      (input.length % entrySize = 0 → ∃ entries, decode input = .ok entries ∧
        (∀ slot : UInt8, 1 ≤ slot → slot ≤ 20 → ∃ ramp,
          (ofBlocks number records matrix entries).ramp? slot = some ramp ∧
            Fills input 1 slot.toNat .blank ramp) ∧
        (¬ ComesRound input →
          (∀ slot : UInt8, 1 ≤ slot → slot ≤ 20 →
            (ofBlocks number records matrix entries).ramp? slot =
              some (if Uses input (slot.toNat - 1) then rampAt input (slot.toNat - 1)
                else .blank)) ∧
          ∃ front, decode (input.take (entrySize * 20)) = .ok front ∧
            ofBlocks number records matrix entries = ofBlocks number records matrix front)) := by
  refine ⟨fun ragged => if_neg ragged, fun aligned => ⟨_, if_pos aligned,
    fun slot named few => ramp?_ofBlocks number records matrix input named few, fun apart => ?_⟩⟩
  have own {block : Bytes} (apart : ¬ ComesRound block) {slot : UInt8} (named : 1 ≤ slot)
      (few : slot ≤ 20) :
      (ofBlocks number records matrix (ScaleBlock.read 1 block)).ramp? slot =
        some (if Uses block (slot.toNat - 1) then rampAt block (slot.toNat - 1) else .blank) := by
    obtain ⟨ramp, holds, fills⟩ := ramp?_ofBlocks number records matrix block named few
    rw [holds, fills.own apart (UInt8.le_iff_toNat_le.mp named) (UInt8.le_iff_toNat_le.mp few)]
  refine ⟨fun slot named few => own apart named few, _, if_pos ?_, installRamps_same ?_⟩
  · rw [List.length_take]
    simp only [entrySize] at aligned ⊢
    omega
  · intro slot named few
    have front := slot_index_lt named few
    have short : ¬ ComesRound (input.take (entrySize * 20)) :=
      not_comesRound (Nat.le_trans (List.length_take_le _ _) (by decide))
    refine (own apart named few).trans (.trans ?_ (own short named few).symm)
    simp only [uses_take front, rampAt_take front]

/-- Two used entries with unused ones between them. -/
def twoRamps (unused : Nat) : Bytes :=
  [100, 0, 0, 0, 200, 0, 100, 0] ++ List.replicate (entrySize * unused) 0 ++
    [50, 0, 0, 0, 60, 0, 10, 0]

theorem scale_slots_filled_twentyOne :
    decode [0, 1, 2] = .error ⟨3⟩ ∧
      ∃ entries, decode (twoRamps 19) = .ok entries ∧
        (ofBlocks 1 [] none entries).ramp? 1 = some (.vertical 0 100 100 200) ∧
        (ofBlocks 1 [] none entries).ramp? 2 = some .blank ∧
        ∃ front, decode ((twoRamps 19).take 160) = .ok front ∧
          ofBlocks 1 [] none entries = ofBlocks 1 [] none front := by
  obtain ⟨entries, read, _, filled⟩ :=
    (scale_slots_filled 1 [] none (twoRamps 19)).2 (by decide +kernel)
  obtain ⟨own, front⟩ := filled (not_comesRound (by decide +kernel))
  refine ⟨(scale_slots_filled 1 [] none [0, 1, 2]).1 (by decide), entries, read, ?_, ?_, front⟩
  · rw [own 1 (by decide) (by decide)]
    decide +kernel
  · rw [own 2 (by decide) (by decide)]
    decide +kernel

/-- The number of the 257th entry comes round to slot 1 and replaces the first ramp. -/
theorem first_ramp_replaced :
    ∃ entries, decode (twoRamps 255) = .ok entries ∧ Uses (twoRamps 255) 0 ∧
      rampAt (twoRamps 255) 0 = .vertical 0 100 100 200 ∧
      (ofBlocks 1 [] none entries).ramp? 1 = some (.vertical 0 50 10 60) :=
  ⟨[⟨1, 100, 0, 200, 100⟩, ⟨1, 50, 0, 60, 10⟩], by decide +kernel, by decide +kernel,
    by decide +kernel, by decide⟩

end Room

end Adventure
