import Adventure.Proofs.Data.Bytes
import Adventure.WalkBox.Block
import Mathlib.Data.Nat.Bitwise

/-!
# Boxes and their block

A block of walk boxes is a count and so many records.  Every byte string that is long enough
begins with a record, and with a count, so a block can be read exactly if it is as long as its
count demands; what is read is then what the block was written from, and bytes after the last
record play no part.

A game keeps boxes in another form.  Corners, mask and flags survive the change there and back.
A scale word does not survive if it names a scale slot beyond the last one that fits a byte,
slot 255: such a slot becomes slot 255.
-/

set_option autoImplicit false

namespace Adventure

namespace BoxBlock

/-! ## Records -/

theorem int16_ofWordLow (z : Int16) :
    int16 z.toUInt16.toUInt8 (z.toUInt16 >>> 8).toUInt8 = z := by
  rw [int16, Bytes.wordLow_ofWordLow, Int16.toInt16_toUInt16]

@[simp] theorem length_encodeRecord (r : BoxRecord) : (encodeRecord r).length = recordSize := rfl

theorem length_flatMap_encodeRecord (records : List BoxRecord) :
    (records.flatMap encodeRecord).length = recordSize * records.length := by
  induction records with
  | nil => rfl
  | cons r records ih =>
      rw [List.flatMap_cons, List.length_append, ih, length_encodeRecord, List.length_cons,
        Nat.mul_add_one, Nat.add_comm]

theorem decodeRecords_record (count : Nat) (r : BoxRecord) (rest : Bytes)
    (seen : List BoxRecord) :
    decodeRecords (count + 1) (encodeRecord r ++ rest) seen =
      decodeRecords count rest (r :: seen) := by
  obtain ⟨⟨ulx, uly⟩, ⟨urx, ury⟩, ⟨lrx, lry⟩, ⟨llx, lly⟩, mask, flags, scale⟩ := r
  simp only [encodeRecord, encodePoint, Bytes.ofWordLow, List.cons_append, List.nil_append,
    decodeRecords, int16_ofWordLow, Bytes.wordLow_ofWordLow]

/-- Records are read back, and what follows them is left. -/
theorem decodeRecords_append (records : List BoxRecord) (rest : Bytes) (seen : List BoxRecord) :
    decodeRecords records.length (records.flatMap encodeRecord ++ rest) seen =
      some (seen.reverse ++ records) := by
  induction records generalizing seen with
  | nil => simp [decodeRecords]
  | cons r records ih =>
      rw [List.flatMap_cons, List.append_assoc, List.length_cons, decodeRecords_record, ih]
      simp

theorem decodeRecords_long {count : Nat} {body : Bytes} {seen found : List BoxRecord}
    (read : decodeRecords count body seen = some found) : recordSize * count ≤ body.length := by
  fun_induction decodeRecords count body seen with
  | case1 => exact Nat.zero_le _
  | case2 seen count a0 a1 a2 a3 b0 b1 b2 b3 c0 c1 c2 c3 d0 d1 d2 d3 mask flags s0 s1 rest ih =>
      have more := ih read
      simp only [List.length_cons, recordSize] at more ⊢
      omega
  | case3 => cases read

/-- What is left of a byte string that was longer than its front. -/
theorem length_rest {count : Nat} (front : Bytes) {rest : Bytes}
    (long : front.length + count ≤ (front ++ rest).length) : count ≤ rest.length := by
  rw [List.length_append] at long
  exact Nat.le_of_add_le_add_left long

/-- A byte string that is long enough begins with a corner. -/
theorem exists_point {bytes : Bytes} (long : 4 ≤ bytes.length) :
    ∃ p rest, bytes = encodePoint p ++ rest := by
  obtain ⟨x, rest, rfl⟩ := Bytes.exists_ofWordLow (Nat.le_trans (by decide) long)
  have more : 2 ≤ rest.length := length_rest (Bytes.ofWordLow x) long
  obtain ⟨y, rest, rfl⟩ := Bytes.exists_ofWordLow more
  refine ⟨⟨x.toInt16, y.toInt16⟩, rest, ?_⟩
  rw [encodePoint, UInt16.toUInt16_toInt16, UInt16.toUInt16_toInt16, List.append_assoc]

/-- A byte string that is long enough begins with a record. -/
theorem exists_record {bytes : Bytes} (long : recordSize ≤ bytes.length) :
    ∃ r rest, bytes = encodeRecord r ++ rest := by
  obtain ⟨ul, bytes, rfl⟩ := exists_point (Nat.le_trans (by decide) long)
  have long : 16 ≤ bytes.length := length_rest (encodePoint ul) long
  obtain ⟨ur, bytes, rfl⟩ := exists_point (Nat.le_trans (by decide) long)
  have long : 12 ≤ bytes.length := length_rest (encodePoint ur) long
  obtain ⟨lr, bytes, rfl⟩ := exists_point (Nat.le_trans (by decide) long)
  have long : 8 ≤ bytes.length := length_rest (encodePoint lr) long
  obtain ⟨ll, bytes, rfl⟩ := exists_point (Nat.le_trans (by decide) long)
  have long : 4 ≤ bytes.length := length_rest (encodePoint ll) long
  match bytes, long with
  | mask :: flags :: bytes, long =>
      have long : 2 ≤ bytes.length := length_rest [mask, flags] long
      obtain ⟨scale, rest, rfl⟩ := Bytes.exists_ofWordLow long
      exact ⟨⟨ul, ur, lr, ll, mask, flags, scale⟩, rest, by simp [encodeRecord]⟩

/-- A byte string that is long enough begins with so many records. -/
theorem exists_records (count : Nat) {body : Bytes} (long : recordSize * count ≤ body.length) :
    ∃ (records : List BoxRecord) (rest : Bytes), records.length = count ∧
      body = records.flatMap encodeRecord ++ rest := by
  induction count generalizing body with
  | zero => exact ⟨[], body, rfl, rfl⟩
  | succ count ih =>
      rw [Nat.mul_add_one, Nat.add_comm] at long
      obtain ⟨r, body, rfl⟩ := exists_record (Nat.le_trans (Nat.le_add_right _ _) long)
      obtain ⟨records, rest, rfl, rfl⟩ := ih (length_rest (encodeRecord r) long)
      exact ⟨r :: records, rest, rfl, by simp⟩

/-! ## Counts -/

theorem length_encodeCount (width : CountWidth) (count : Nat) :
    (encodeCount width count).length = width.size := by
  cases width <;> rfl

theorem decodeCount_encodeCount {width : CountWidth} {count : Nat} (fits : count ≤ width.limit)
    (body : Bytes) : decodeCount width (encodeCount width count ++ body) = some (count, body) := by
  cases width with
  | byte =>
      have number : (UInt8.ofNat count).toNat = count :=
        UInt8.toNat_ofNat_of_lt' (Nat.lt_succ_of_le fits)
      simp only [encodeCount, List.singleton_append, decodeCount, number]
  | word =>
      have number : (UInt16.ofNat count).toNat = count :=
        UInt16.toNat_ofNat_of_lt' (Nat.lt_succ_of_le fits)
      simp only [encodeCount, Bytes.ofWordLow, List.cons_append, List.nil_append, decodeCount,
        Bytes.wordLow_ofWordLow, number]

/-- A byte string that is long enough begins with a count. -/
theorem exists_count {width : CountWidth} {input : Bytes} (long : width.size ≤ input.length) :
    ∃ count body, count ≤ width.limit ∧ input = encodeCount width count ++ body := by
  cases width with
  | byte =>
      match input, long with
      | count :: body, _ =>
          refine ⟨count.toNat, body, Nat.le_of_lt_succ count.toNat_lt, ?_⟩
          rw [encodeCount, UInt8.ofNat_toNat, List.singleton_append]
  | word =>
      obtain ⟨count, body, rfl⟩ := Bytes.exists_ofWordLow long
      refine ⟨count.toNat, body, Nat.le_of_lt_succ count.toNat_lt, ?_⟩
      rw [encodeCount, UInt16.ofNat_toNat]

theorem decodeCount_short {width : CountWidth} {input : Bytes} (short : input.length < width.size) :
    decodeCount width input = none := by
  cases width with
  | byte =>
      match input, short with
      | [], _ => rfl
  | word =>
      match input, short with
      | [], _ => rfl
      | [_], _ => rfl

/-- How many boxes the start of a block declares. -/
def declared : CountWidth → Bytes → Nat
  | .byte, input => (input.getD 0 0).toNat
  | .word, input => (input.getD 0 0).toNat + 256 * (input.getD 1 0).toNat

theorem declared_encodeCount {width : CountWidth} {count : Nat} (fits : count ≤ width.limit)
    (body : Bytes) : declared width (encodeCount width count ++ body) = count := by
  cases width with
  | byte => exact UInt8.toNat_ofNat_of_lt' (Nat.lt_succ_of_le fits)
  | word =>
      have number : (UInt16.ofNat count).toNat = count :=
        UInt16.toNat_ofNat_of_lt' (Nat.lt_succ_of_le fits)
      change (UInt16.ofNat count).toUInt8.toNat + 256 * (UInt16.ofNat count >>> 8).toUInt8.toNat = _
      rw [← Bytes.toNat_wordLow, Bytes.wordLow_ofWordLow, number]

/-- Where the boxes that a block declares end. -/
def extent (width : CountWidth) (input : Bytes) : Nat :=
  width.size + recordSize * declared width input

/-! ## Blocks -/

theorem encode_eq_ok_iff {width : CountWidth} {records : List BoxRecord} {bytes : Bytes} :
    encode width records = .ok bytes ↔ records.length ≤ width.limit ∧
      bytes = encodeCount width records.length ++ records.flatMap encodeRecord := by
  unfold encode
  split
  next fits => simp [fits, eq_comm]
  next many => simp [many]

/-- **What a block holds.**  Records are read from a block exactly if it begins with their count
and then with the records themselves. -/
theorem decode_eq_ok_iff {width : CountWidth} {input : Bytes} {records : List BoxRecord} :
    decode width input = .ok records ↔ records.length ≤ width.limit ∧
      ∃ rest, input = encodeCount width records.length ++
        (records.flatMap encodeRecord ++ rest) := by
  constructor
  · intro read
    by_cases long : width.size ≤ input.length
    · obtain ⟨count, body, fits, rfl⟩ := exists_count long
      rw [decode, decodeCount_encodeCount fits] at read
      dsimp only at read
      split at read
      next found =>
        cases read
        obtain ⟨listed, rest, rfl, rfl⟩ := exists_records count (decodeRecords_long found)
        rw [decodeRecords_append] at found
        cases found
        exact ⟨fits, rest, rfl⟩
      next => cases read
    · rw [decode, decodeCount_short (Nat.lt_of_not_le long)] at read
      cases read
  · rintro ⟨fits, rest, rfl⟩
    rw [decode, decodeCount_encodeCount fits]
    dsimp only
    rw [decodeRecords_append]
    rfl

theorem decode_encode {width : CountWidth} {records : List BoxRecord} {bytes : Bytes}
    (written : encode width records = .ok bytes) : decode width bytes = .ok records := by
  obtain ⟨fits, rfl⟩ := encode_eq_ok_iff.mp written
  exact decode_eq_ok_iff.mpr ⟨fits, [], by rw [List.append_nil]⟩

theorem length_block (width : CountWidth) (records : List BoxRecord) :
    (encodeCount width records.length ++ records.flatMap encodeRecord).length =
      width.size + recordSize * records.length := by
  rw [List.length_append, length_encodeCount, length_flatMap_encodeRecord]

/-- A block that could be read is written as far as its boxes reach. -/
theorem encode_decode {width : CountWidth} {input : Bytes} {records : List BoxRecord}
    (read : decode width input = .ok records) :
    encode width records = .ok (input.take (extent width input)) := by
  obtain ⟨fits, rest, rfl⟩ := decode_eq_ok_iff.mp read
  refine encode_eq_ok_iff.mpr ⟨fits, ?_⟩
  rw [extent, declared_encodeCount fits, ← length_block, ← List.append_assoc, List.take_left]

/-- A block can be read exactly if it is as long as its count demands. -/
theorem decode_succeeds_iff (width : CountWidth) (input : Bytes) :
    (∃ records, decode width input = .ok records) ↔ extent width input ≤ input.length := by
  constructor
  · rintro ⟨records, read⟩
    obtain ⟨fits, rest, rfl⟩ := decode_eq_ok_iff.mp read
    rw [extent, declared_encodeCount fits, ← length_block, ← List.append_assoc]
    exact (List.prefix_append _ rest).length_le
  · intro long
    obtain ⟨count, body, fits, rfl⟩ := exists_count (Nat.le_trans (Nat.le_add_right _ _) long)
    rw [extent, declared_encodeCount fits, List.length_append, length_encodeCount] at long
    obtain ⟨records, rest, rfl, rfl⟩ := exists_records count (Nat.le_of_add_le_add_left long)
    exact ⟨records, decode_eq_ok_iff.mpr ⟨fits, rest, rfl⟩⟩

/-- Changing the records one by one changes the bytes unless no record is changed. -/
theorem encode_map_eq_iff {width : CountWidth} {records : List BoxRecord} {bytes : Bytes}
    (written : encode width records = .ok bytes) (change : BoxRecord → BoxRecord) :
    encode width (records.map change) = .ok bytes ↔ ∀ r ∈ records, change r = r := by
  constructor
  · intro again
    have same := (decode_encode again).symm.trans (decode_encode written)
    exact List.map_inj_left.mp ((Except.ok.inj same).trans (List.map_id records).symm)
  · intro kept
    rw [List.map_congr_left kept, List.map_id']
    exact written

end BoxBlock

/-! ## Boxes as a game keeps them -/

namespace BoxScale

theorem slotBit_eq_zero_iff (raw : UInt16) : raw &&& 0x8000 = 0 ↔ raw.toNat < 32768 := by
  have bound := raw.toNat_lt
  have bit : (raw &&& 0x8000).toNat = (raw.toNat.testBit 15).toNat * 32768 := by
    rw [UInt16.toNat_and]
    exact Nat.and_two_pow raw.toNat 15
  have top : raw.toNat.testBit 15 = decide (¬raw.toNat < 32768) := by
    rw [Nat.testBit_eq_decide_div_mod_eq]
    exact decide_eq_decide.mpr (by omega)
  rw [← UInt16.toNat_inj, bit, top]
  by_cases low : raw.toNat < 32768 <;> simp [low]

theorem toNat_slotPart (raw : UInt16) : (raw &&& 0x7FFF).toNat = raw.toNat % 32768 := by
  rw [UInt16.toNat_and]
  exact Nat.and_two_pow_sub_one_eq_mod raw.toNat 15

/-- The stored word of a slot. -/
theorem toNat_toRaw_slot (number : UInt8) :
    (toRaw (.slot number)).toNat = 32768 + (number.toNat - 1) := by
  have bound := number.toNat_lt
  have small : (UInt16.ofNat (number.toNat - 1)).toNat = number.toNat - 1 :=
    UInt16.toNat_ofNat_of_lt' (show number.toNat - 1 < 2 ^ 16 by omega)
  rw [toRaw, UInt16.toNat_or, small]
  exact (Nat.two_pow_add_eq_or_of_lt (by omega : number.toNat - 1 < 2 ^ 15) 1).symm

/-- A scale word comes back unless it names a slot beyond the last one that fits a byte. -/
theorem toRaw_ofRaw_iff (raw : UInt16) :
    (ofRaw raw).toRaw = raw ↔ (raw &&& 0x8000 ≠ 0 → raw &&& 0x7FFF ≤ 0xFE) := by
  have bound := raw.toNat_lt
  by_cases fixed : raw &&& 0x8000 = 0
  · simp [ofRaw, fixed, toRaw]
  · have high := mt (slotBit_eq_zero_iff raw).mpr fixed
    have number : (UInt8.ofNat (min ((raw &&& 0x7FFF).toNat + 1) 255)).toNat =
        min (raw.toNat % 32768 + 1) 255 := by
      rw [toNat_slotPart]
      exact UInt8.toNat_ofNat_of_lt' (show min (raw.toNat % 32768 + 1) 255 < 2 ^ 8 by omega)
    rw [ofRaw, if_pos fixed, ← UInt16.toNat_inj, toNat_toRaw_slot, number, UInt16.le_iff_toNat_le,
      toNat_slotPart]
    simp only [ne_eq, fixed, not_false_eq_true, forall_const]
    change _ ↔ raw.toNat % 32768 ≤ 254
    omega

end BoxScale

namespace WalkBox

/-- Of a record, a box keeps everything as it is but the scale. -/
theorem toRecord_ofRecord (r : BoxRecord) :
    (ofRecord r).toRecord = { r with scale := (BoxScale.ofRaw r.scale).toRaw } := by
  have corner : ∀ p : StoredPoint, StoredPoint.ofPoint p.toPoint = p := by
    intro p
    simp only [StoredPoint.ofPoint, StoredPoint.toPoint, Int16.ofInt_toInt]
  simp only [ofRecord, toRecord, corner]

theorem toRecord_ofRecord_eq_iff (r : BoxRecord) :
    (ofRecord r).toRecord = r ↔ (r.scale &&& 0x8000 ≠ 0 → r.scale &&& 0x7FFF ≤ 0xFE) := by
  rw [toRecord_ofRecord, ← BoxScale.toRaw_ofRaw_iff]
  constructor
  · exact congrArg BoxRecord.scale
  · intro same
    rw [same]

end WalkBox

namespace BoxBlock

/-- **Boxes and their block.**  A list of boxes is written exactly if the count of its width can
tell how many there are, and reads back.  A block is read exactly if it is as long as the count
in front demands, and is written again as far as its boxes reach.  If a game keeps the boxes in
between, the same bytes are written exactly if no scale word has its top bit set and more than
`0xFE` below. -/
theorem blocks_keep_boxes (width : CountWidth) (records : List BoxRecord) (input : Bytes) :
    ((∃ bytes, encode width records = .ok bytes) ↔ records.length ≤ width.limit) ∧
      (∀ bytes, encode width records = .ok bytes → decode width bytes = .ok records) ∧
      ((∃ found, decode width input = .ok found) ↔ extent width input ≤ input.length) ∧
      ∀ found, decode width input = .ok found →
        encode width found = .ok (input.take (extent width input)) ∧
          (encode width (found.map fun r => (WalkBox.ofRecord r).toRecord) =
              .ok (input.take (extent width input)) ↔
            ∀ r ∈ found, r.scale &&& 0x8000 ≠ 0 → r.scale &&& 0x7FFF ≤ 0xFE) := by
  refine ⟨⟨?_, ?_⟩, fun _ => decode_encode, decode_succeeds_iff width input, ?_⟩
  · rintro ⟨bytes, written⟩
    exact (encode_eq_ok_iff.mp written).1
  · intro fits
    exact ⟨_, encode_eq_ok_iff.mpr ⟨fits, rfl⟩⟩
  · intro found read
    have written := encode_decode read
    refine ⟨written, (encode_map_eq_iff written _).trans ?_⟩
    simp only [WalkBox.toRecord_ofRecord_eq_iff]

/-- Two boxes whose scale words name the last slot that fits a byte, and the one after it. -/
def lastSlots : List BoxRecord :=
  [⟨⟨0, 0⟩, ⟨9, 0⟩, ⟨9, 9⟩, ⟨0, 9⟩, 0, 0, 0x80FE⟩, ⟨⟨-9, 0⟩, ⟨0, 0⟩, ⟨0, 9⟩, ⟨-9, 9⟩, 0, 0x80, 0x80FF⟩]

/-- A byte after the last record is left out, and a game turns the second slot into the first. -/
theorem blocks_keep_boxes_lastSlots :
    ∃ bytes input, encode .byte lastSlots = .ok bytes ∧ input = bytes ++ [7] ∧
      decode .byte input = .ok lastSlots ∧ input.take (extent .byte input) = bytes ∧
      encode .byte (lastSlots.map fun r => (WalkBox.ofRecord r).toRecord) ≠ .ok bytes := by
  have known := blocks_keep_boxes .byte lastSlots
  obtain ⟨bytes, written⟩ := (known []).1.mpr (by decide)
  have read : decode .byte (bytes ++ [7]) = .ok lastSlots := by
    obtain ⟨_, rfl⟩ := encode_eq_ok_iff.mp written
    rfl
  obtain ⟨_, _, _, back⟩ := known (bytes ++ [7])
  obtain ⟨again, kept⟩ := back lastSlots read
  have cut := Except.ok.inj (again.symm.trans written)
  rw [cut] at kept
  exact ⟨bytes, _, written, rfl, read, cut, fun same => absurd (kept.mp same) (by decide)⟩

end BoxBlock

end Adventure
