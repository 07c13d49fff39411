import Adventure.Actor.Record
import Adventure.Data.Bank
import Adventure.Data.Checked
import Adventure.Proofs.Datum.Packed

/-!
# Records read back

A value is stored as a datum when a reader gives it back from the datum and the datum can be
packed.  This is so for numbers within their words, for texts and byte strings, for lists of
stored values, and for records whose fields are stored one by one, in the order in which they
are read.

The fields of a record are read by a program, so what is stated of records is a rule for
each of its steps: a required field, an optional one, and the end.
-/

set_option autoImplicit false

namespace Adventure.Datum

open Packed (Packable)

variable {α β : Type}

/-- A reader gives a value back from a datum, and the datum can be packed at a depth. -/
structure Stores (depth : Nat) (read : Datum → Option α) (datum : Datum) (value : α) : Prop where
  packable : Packable depth datum
  reads : read datum = some value

namespace Stores

variable {depth : Nat} {read : Datum → Option α} {write : α → Datum}

/-! ## Values without fields -/

theorem readInt_of_mem {low high value : Int} (least : low ≤ value) (most : value ≤ high) :
    readInt low high (.int value) = some value :=
  if_pos ⟨least, most⟩

theorem int32 (depth : Nat) {value : Int} (fits : Word.Fits32 value) :
    Stores depth readInt32 (.int value) value := by
  obtain ⟨low, high⟩ := fits
  exact ⟨.int depth (by omega) (by omega), readInt_of_mem low high⟩

theorem nat64 (depth : Nat) {value : Nat} (fits : value < 2 ^ 64) :
    Stores depth readNat64 (.nat value) value := by
  refine ⟨.int depth (by omega) (by omega), ?_⟩
  rw [readNat64, nat, readInt_of_mem (by omega) (by omega)]
  rfl

theorem byte (depth : Nat) (value : UInt8) : Stores depth readByte (.byte value) value := by
  have small := value.toNat_lt
  refine ⟨.int depth (by omega) (by omega), ?_⟩
  rw [readByte, Datum.byte, nat, readInt_of_mem (by omega) (by omega)]
  simp

theorem word (depth : Nat) (value : UInt16) : Stores depth readWord (.word value) value := by
  have small := value.toNat_lt
  refine ⟨.int depth (by omega) (by omega), ?_⟩
  rw [readWord, Datum.word, nat, readInt_of_mem (by omega) (by omega)]
  simp

theorem bool (depth : Nat) (value : Bool) : Stores depth readBool (.bool value) value :=
  ⟨.bool depth value, rfl⟩

theorem text (depth : Nat) (value : String) : Stores depth readText (.text value) value :=
  ⟨.text depth value, rfl⟩

theorem blob (depth : Nat) (bytes : Bytes) : Stores depth readBytes (.blob bytes) bytes :=
  ⟨.blob depth bytes, rfl⟩

/-- A name stands for the only value of a list that has it. -/
theorem named (depth : Nat) (form : Form) {name : α → String} {all : List α} {value : α}
    (listed : value ∈ all) (only : ∀ other ∈ all, name other = name value → other = value) :
    Stores depth (readName form name all) (.text (name value)) value := by
  refine ⟨.text depth _, ?_⟩
  change (all.find? fun other => name other == name value) = some value
  cases found : all.find? fun other => name other == name value with
  | none =>
      have absent := List.find?_eq_none.mp found value listed
      simp at absent
  | some other =>
      have same := List.find?_some found
      rw [only other (List.mem_of_find?_eq_some found) (beq_iff_eq.mp same)]

/-- A value that may be missing is stored if it is stored, and not as null, when it is there. -/
theorem maybe {value : Option α}
    (each : ∀ given ∈ value, Stores depth read (write given) given)
    (present : ∀ given, write given ≠ .null) :
    Stores depth (readMaybe read) (.maybe write value) value := by
  cases value with
  | none => exact ⟨.null depth, rfl⟩
  | some given =>
      obtain ⟨packable, reads⟩ := each given rfl
      refine ⟨packable, ?_⟩
      unfold readMaybe
      split
      next null => exact absurd null (present given)
      next =>
        rw [Datum.maybe, reads]
        rfl

theorem maybeByte (depth : Nat) (value : Option UInt8) :
    Stores depth (readMaybe readByte) (.maybe Datum.byte value) value :=
  maybe (fun given _ => byte depth given) fun _ => Datum.noConfusion

theorem maybeInt32 (depth : Nat) {value : Option Int} (fits : ∀ given ∈ value, Word.Fits32 given) :
    Stores depth (readMaybe readInt32) (.maybe Datum.int value) value :=
  maybe (fun given same => int32 depth (fits given same)) fun _ => Datum.noConfusion

theorem maybeNat64 (depth : Nat) {value : Option Nat} (fits : ∀ given ∈ value, given < 2 ^ 64) :
    Stores depth (readMaybe readNat64) (.maybe Datum.nat value) value :=
  maybe (fun given same => nat64 depth (fits given same)) fun _ => Datum.noConfusion

/-! ## Lists -/

theorem readItems_map {values : List α}
    (each : ∀ value ∈ values, Stores depth read (write value) value) :
    readItems read (values.map write) = some values := by
  induction values with
  | nil => rfl
  | cons value values ih =>
      obtain ⟨first, later⟩ := List.forall_mem_cons.mp each
      rw [List.map_cons, readItems, first.reads, ih later]

theorem packable_listOf {values : List α}
    (each : ∀ value ∈ values, Stores depth read (write value) value) :
    Packable (depth + 1) (.listOf write values) := by
  refine .list fun item member => ?_
  obtain ⟨value, listed, rfl⟩ := List.mem_map.mp member
  exact (each value listed).packable

theorem listOf {values : List α}
    (each : ∀ value ∈ values, Stores depth read (write value) value) :
    Stores (depth + 1) (readList read) (.listOf write values) values :=
  ⟨packable_listOf each, readItems_map each⟩

/-- The cells of a bank are as many as are asked for. -/
theorem count {size : Nat} {bank : Bank α size}
    (each : ∀ value ∈ bank.cells, Stores depth read (write value) value) :
    Stores (depth + 1) (readCount size read) (.listOf write bank.cells) bank.cells := by
  refine ⟨packable_listOf each, ?_⟩
  rw [Datum.listOf, readCount, if_pos (by rw [List.length_map, bank.length_cells]),
    readItems_map each]

end Stores

/-! ## Records -/

/-- A program that reads fields gives a value from given ones, and leaves none. -/
structure Fills (depth : Nat) (fields : Fields α) (given : List Datum) (value : α) : Prop where
  packable : ∀ datum ∈ given, Packable depth datum
  runs : fields.run (given.map .given) = some (value, [])

namespace Fills

variable {depth : Nat} {read : Datum → Option α} {next : α → Fields β} {datum : Datum}
  {given : List Datum} {value : α} {result : β}

theorem pure (value : α) : Fills depth (Pure.pure value) [] value :=
  ⟨fun _ member => absurd member List.not_mem_nil, rfl⟩

/-- A field that takes the first of what is given, before the fields that take the rest. -/
theorem step {field : Fields α} (packable : Packable depth datum)
    (takes : ∀ rest, field.run (.given datum :: rest) = some (value, rest))
    (rest : Fills depth (next value) given result) :
    Fills depth (field >>= next) (datum :: given) result := by
  refine ⟨List.forall_mem_cons.mpr ⟨packable, rest.packable⟩, ?_⟩
  rw [List.map_cons, StateT.run_bind, takes]
  exact rest.runs

theorem required (first : Stores depth read datum value)
    (rest : Fills depth (next value) given result) :
    Fills depth (Fields.required read >>= next) (datum :: given) result := by
  refine step first.packable (fun rest => ?_) rest
  change (read datum).bind _ = _
  rw [first.reads]
  rfl

theorem optional {next : Option α → Fields β} {value : Option α}
    (first : Stores depth (readMaybe read) datum value)
    (rest : Fills depth (next value) given result) :
    Fills depth (Fields.optional read >>= next) (datum :: given) result := by
  refine step first.packable (fun rest => ?_) rest
  change (readMaybe read datum).bind _ = _
  rw [first.reads]
  rfl

theorem defaulted {fallback : α} (first : Stores depth read datum value)
    (rest : Fills depth (next value) given result) :
    Fills depth (Fields.defaulted read fallback >>= next) (datum :: given) result := by
  refine step first.packable (fun rest => ?_) rest
  change (read datum).bind _ = _
  rw [first.reads]
  rfl

end Fills

theorem fieldIndex?_append {earlier later : List String} {name : String}
    (distinct : (earlier ++ name :: later).Nodup) :
    fieldIndex? (earlier ++ name :: later) (.text name) = some (some earlier.length) := by
  have fresh : name ∉ earlier := fun old =>
    (List.nodup_append.mp distinct).2.2 name old name List.mem_cons_self rfl
  refine congrArg some (List.idxOf?_eq_some_iff.mpr ⟨by simp, by simp, ?_⟩)
  intro index before same
  rw [List.getElem_append_left before] at same
  exact fresh (same ▸ List.getElem_mem before)

/-- Entries in the order of the fields find their places one after the other. -/
theorem place_zip (earlier : List String) {later : List String} (closed : Bool)
    (found : List Found) {given : List Datum} (distinct : (earlier ++ later).Nodup)
    (done : found.length = earlier.length) (left : given.length = later.length) :
    place (earlier ++ later) closed ((later.map text).zip given)
        (found ++ List.replicate later.length .absent) =
      some (found ++ given.map .given) := by
  induction later generalizing earlier found given with
  | nil =>
      cases List.eq_nil_of_length_eq_zero left
      simp [place]
  | cons name later ih =>
      cases given with
      | nil => cases left
      | cons datum given =>
          have empty : (found ++ List.replicate (name :: later).length .absent)[earlier.length]? =
              some .absent := by
            rw [List.getElem?_append_right (by omega)]
            simp [done]
          have filled : (found ++ List.replicate (name :: later).length Found.absent).set
              earlier.length (.given datum) =
              (found ++ [.given datum]) ++ List.replicate later.length Found.absent := by
            rw [List.set_append_right _ _ (by omega)]
            simp [done, List.replicate_succ]
          have shifted : earlier ++ name :: later = (earlier ++ [name]) ++ later := by simp
          rw [List.map_cons, List.zip_cons_cons, place, fieldIndex?_append distinct]
          simp only [empty, filled]
          rw [shifted] at distinct ⊢
          rw [ih (earlier ++ [name]) _ distinct (by simp [done]) (Nat.succ.inj left)]
          simp

/-- **A record reads back** when its fields do, one after the other. -/
theorem Stores.record {names : List String} {closed : Bool} {fields : Fields α} {depth : Nat}
    {given : List Datum} {value : α} (distinct : names.Nodup) (same : given.length = names.length)
    (fills : Fills depth fields given value) :
    Stores (depth + 1) (readRecord names closed fields) (.record names given) value := by
  have found : fields? names closed (.record names given) = some (given.map .given) :=
    place_zip [] closed [] distinct rfl same
  refine ⟨.map ?_ ?_, ?_⟩
  · intro entry member
    obtain ⟨name, _, named⟩ := List.mem_map.mp (List.of_mem_zip member).1
    rw [← named]
    exact .text depth name
  · intro entry member
    exact fills.packable _ (List.of_mem_zip member).2
  · rw [readRecord, found]
    dsimp only
    rw [fills.runs]
    rfl

end Adventure.Datum
