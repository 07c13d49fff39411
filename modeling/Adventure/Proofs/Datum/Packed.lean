import Adventure.Datum.Packed
import Adventure.Proofs.Data.Bytes

/-!
# What is packed can be read

A value that is written in the packed notation reads back as itself, and leaves what follows
it.  Every form that writing may choose is looked at once: the four widths of a number above
and below zero, and the heads of texts, byte strings, lists and maps.

A number has to fit into 64 bits, and nothing may be longer than 32 bits can tell.  The
latter follows when the bytes as a whole are fewer, because every item takes a byte at least.
-/

set_option autoImplicit false

namespace Adventure

namespace Packed

/-! ## Leading bytes -/

theorem readNat_append {width value : Nat} (fits : value < 256 ^ width) (rest : Bytes) :
    readNat width (Bytes.ofNatHigh width value ++ rest) = some (value, rest) := by
  have parts := Bytes.split?_append (Bytes.ofNatHigh width value) rest
  rw [Bytes.length_ofNatHigh] at parts
  rw [readNat, parts, Option.map_some, Bytes.natHigh_ofNatHigh fits]

theorem readWithin_scalar (depth : Nat) {tag : UInt8} {bytes : Bytes}
    (single : containerHead? tag bytes = none) (known : isExtension tag = false) :
    readWithin depth (tag :: bytes) = readScalar tag bytes := by
  rw [readWithin, single]
  simp [known]

theorem readWithin_container (isMap : Bool) {depth : Nat} {tag : UInt8} {bytes rest : Bytes}
    {length : Nat} (head : containerHead? tag bytes = some (isMap, some (length, rest))) :
    readWithin (depth + 1) (tag :: bytes) =
      if isMap then readMap (readWithin depth) length rest
      else readList (readWithin depth) length rest := by
  rw [readWithin, head]

/-- A leading byte and a length in so many bytes, before what has that length. -/
theorem readWithin_sized (depth : Nat) {tag : UInt8} {width length : Nat}
    {read : Nat → Bytes → Reading Datum} (single : ∀ bytes, containerHead? tag bytes = none)
    (known : isExtension tag = false)
    (form : ∀ bytes, readScalar tag bytes = sized width read bytes)
    (fits : length < 256 ^ width) (rest : Bytes) :
    readWithin depth (tagged tag width length ++ rest) = read length rest := by
  rw [tagged, List.cons_append, readWithin_scalar depth (single _) known, form, sized,
    readNat_append fits]

/-- A leading byte and a number in so many bytes. -/
theorem readWithin_unsigned (depth : Nat) {tag : UInt8} {width value : Nat}
    (single : ∀ bytes, containerHead? tag bytes = none) (known : isExtension tag = false)
    (form : ∀ bytes, readScalar tag bytes = readUnsigned width bytes)
    (fits : value < 256 ^ width) (rest : Bytes) :
    readWithin depth (tagged tag width value ++ rest) = some (.int value, rest) := by
  rw [tagged, List.cons_append, readWithin_scalar depth (single _) known, form, readUnsigned,
    readNat_append fits]
  rfl

/-- A leading byte and a number below zero in so many bytes. -/
theorem readWithin_signed (depth : Nat) {tag : UInt8} {width : Nat} {value size : Int}
    (single : ∀ bytes, containerHead? tag bytes = none) (known : isExtension tag = false)
    (form : ∀ bytes, readScalar tag bytes = readSigned width bytes)
    (whole : size = (256 ^ width : Nat)) (fits : -size ≤ 2 * value) (below : value < 0)
    (rest : Bytes) :
    readWithin depth (tagged tag width (value + size).toNat ++ rest) =
      some (.int value, rest) := by
  have room : (value + size).toNat < 256 ^ width := by omega
  have upper : ¬2 * (value + size).toNat < Nat.pow 256 width := by
    change ¬2 * _ < 256 ^ width
    omega
  have back : ((value + size).toNat : Int) - (Nat.pow 256 width : Nat) = value := by
    change _ - ((256 ^ width : Nat) : Int) = value
    omega
  rw [tagged, List.cons_append, readWithin_scalar depth (single _) known, form, readSigned,
    readNat_append room, Option.map_some, if_neg upper, back]

/-- The value of a leading byte. -/
theorem toNat_leading {n : Nat} (small : n < 256) : (UInt8.ofNat n).toNat = n :=
  UInt8.toNat_ofNat_of_lt' small

/-- A leading byte that holds a number, or the length of a text. -/
theorem readWithin_leading (depth : Nat) {n : Nat}
    (alone : n < 0x80 ∨ (0xA0 ≤ n ∧ n < 0xC0) ∨ (0xE0 ≤ n ∧ n < 0x100)) (bytes : Bytes) :
    readWithin depth ([UInt8.ofNat n] ++ bytes) = readScalar (UInt8.ofNat n) bytes := by
  have leading := toNat_leading (n := n) (by omega)
  refine readWithin_scalar depth ?_ ?_
  · simp only [containerHead?, leading]
    rw [if_neg (by omega), if_neg (by omega), if_neg (by omega), if_neg (by omega),
      if_neg (by omega), if_neg (by omega)]
  · simp only [isExtension, leading, Bool.or_eq_false_iff, Bool.and_eq_false_iff,
      decide_eq_false_iff_not]
    omega

/-! ## Heads -/

theorem readWithin_writeInt (depth : Nat) {value : Int} (low : -2 ^ 63 ≤ value)
    (high : value < 2 ^ 64) (rest : Bytes) :
    readWithin depth (writeInt value ++ rest) = some (.int value, rest) := by
  unfold writeInt
  split
  next nonneg =>
    obtain ⟨n, rfl⟩ := Int.eq_ofNat_of_zero_le nonneg
    simp only [Int.toNat_natCast]
    split_ifs
    · rw [readWithin_leading depth (by omega)]
      simp only [readScalar, toNat_leading (n := n) (by omega)]
      rw [if_pos (by omega)]
      rfl
    · exact readWithin_unsigned depth (fun _ => rfl) rfl (fun _ => rfl) (by omega) rest
    · exact readWithin_unsigned depth (fun _ => rfl) rfl (fun _ => rfl) (by omega) rest
    · exact readWithin_unsigned depth (fun _ => rfl) rfl (fun _ => rfl) (by omega) rest
    · exact readWithin_unsigned depth (fun _ => rfl) rfl (fun _ => rfl) (by omega) rest
  next negative =>
    split_ifs
    · rw [readWithin_leading depth (by omega)]
      simp only [readScalar, toNat_leading (n := (value + 0x100).toNat) (by omega)]
      rw [if_neg (by omega), if_pos (by omega)]
      congr 3
      omega
    · exact readWithin_signed depth (fun _ => rfl) rfl (fun _ => rfl) rfl (by omega) (by omega) rest
    · exact readWithin_signed depth (fun _ => rfl) rfl (fun _ => rfl) rfl (by omega) (by omega) rest
    · exact readWithin_signed depth (fun _ => rfl) rfl (fun _ => rfl) rfl (by omega) (by omega) rest
    · exact readWithin_signed depth (fun _ => rfl) rfl (fun _ => rfl) rfl (by omega) (by omega) rest

theorem readWithin_textHead (depth : Nat) {length : Nat} (short : length < 2 ^ 32)
    (bytes : Bytes) :
    readWithin depth (textHead length ++ bytes) = readText length bytes := by
  unfold textHead
  split_ifs
  · rw [readWithin_leading depth (by omega)]
    simp only [readScalar, toNat_leading (n := 0xA0 + length) (by omega)]
    rw [if_neg (by omega), if_neg (by omega), if_pos (by omega), Nat.add_sub_cancel_left]
  · exact readWithin_sized depth (fun _ => rfl) rfl (fun _ => rfl) (by omega) bytes
  · exact readWithin_sized depth (fun _ => rfl) rfl (fun _ => rfl) (by omega) bytes
  · exact readWithin_sized depth (fun _ => rfl) rfl (fun _ => rfl) (by omega) bytes

theorem readWithin_blobHead (depth : Nat) {length : Nat} (short : length < 2 ^ 32)
    (bytes : Bytes) :
    readWithin depth (blobHead length ++ bytes) = readBlob length bytes := by
  unfold blobHead
  split_ifs
  · exact readWithin_sized depth (fun _ => rfl) rfl (fun _ => rfl) (by omega) bytes
  · exact readWithin_sized depth (fun _ => rfl) rfl (fun _ => rfl) (by omega) bytes
  · exact readWithin_sized depth (fun _ => rfl) rfl (fun _ => rfl) (by omega) bytes

/-- A leading byte and a count of items or entries in so many bytes. -/
theorem readWithin_counted (isMap : Bool) {depth : Nat} {tag : UInt8} {width length : Nat}
    (form : ∀ bytes, containerHead? tag bytes = some (isMap, readNat width bytes))
    (fits : length < 256 ^ width) (rest : Bytes) :
    readWithin (depth + 1) (tagged tag width length ++ rest) =
      if isMap then readMap (readWithin depth) length rest
      else readList (readWithin depth) length rest := by
  apply readWithin_container isMap
  rw [form, ← readNat_append fits rest]
  rfl

theorem readWithin_listHead {depth length : Nat} (short : length < 2 ^ 32) (bytes : Bytes) :
    readWithin (depth + 1) (listHead length ++ bytes) =
      readList (readWithin depth) length bytes := by
  unfold listHead
  split_ifs
  · refine readWithin_container false ?_
    simp only [containerHead?, toNat_leading (n := 0x90 + length) (by omega)]
    rw [if_neg (by omega), if_pos (by omega), Nat.add_sub_cancel_left]
    rfl
  · exact readWithin_counted false (fun _ => rfl) (by omega) bytes
  · exact readWithin_counted false (fun _ => rfl) (by omega) bytes

theorem readWithin_mapHead {depth length : Nat} (short : length < 2 ^ 32) (bytes : Bytes) :
    readWithin (depth + 1) (mapHead length ++ bytes) =
      readMap (readWithin depth) length bytes := by
  unfold mapHead
  split_ifs
  · refine readWithin_container true ?_
    simp only [containerHead?, toNat_leading (n := 0x80 + length) (by omega)]
    rw [if_pos (by omega), Nat.add_sub_cancel_left]
    rfl
  · exact readWithin_counted true (fun _ => rfl) (by omega) bytes
  · exact readWithin_counted true (fun _ => rfl) (by omega) bytes

/-! ## Values that can be packed -/

/-- A value that the packed notation can tell, in which lists and maps are nested at most so
deep: numbers fit into 64 bits, and there are no numbers of other kinds. -/
inductive Packable : Nat → Datum → Prop
  | null (depth : Nat) : Packable depth .null
  | bool (depth : Nat) (value : Bool) : Packable depth (.bool value)
  | int (depth : Nat) {value : Int} (low : -2 ^ 63 ≤ value) (high : value < 2 ^ 64) :
      Packable depth (.int value)
  | text (depth : Nat) (value : String) : Packable depth (.text value)
  | blob (depth : Nat) (bytes : Bytes) : Packable depth (.blob bytes)
  | list {depth : Nat} {items : List Datum} (each : ∀ item ∈ items, Packable depth item) :
      Packable (depth + 1) (.list items)
  | map {depth : Nat} {entries : List (Datum × Datum)}
      (keys : ∀ entry ∈ entries, Packable depth entry.1)
      (values : ∀ entry ∈ entries, Packable depth entry.2) : Packable (depth + 1) (.map entries)

/-- A value takes a byte at least. -/
theorem write_length_pos (datum : Datum) : 0 < (write datum).length := by
  cases datum with
  | bool value => cases value <;> simp [write]
  | int value =>
      simp only [write, writeInt]
      split_ifs <;> simp [tagged]
  | null => simp [write]
  | bare | float => simp [write, tagged]
  | text | garbled | torn =>
      simp only [write, textHead]
      split_ifs <;> simp [tagged]
  | blob | extension =>
      simp only [write, blobHead, extensionHead]
      split_ifs <;> simp [tagged]
  | list | map =>
      simp only [write, listHead, mapHead]
      split_ifs <;> simp [tagged]

theorem length_le_writeItems (items : List Datum) :
    items.length ≤ (writeItems items).length := by
  induction items with
  | nil => exact Nat.zero_le _
  | cons item items ih =>
      have first := write_length_pos item
      rw [writeItems, List.length_cons, List.length_append]
      omega

theorem length_le_writeEntries (entries : List (Datum × Datum)) :
    entries.length ≤ (writeEntries entries).length := by
  induction entries with
  | nil => exact Nat.zero_le _
  | cons entry entries ih =>
      have first := write_length_pos entry.1
      rw [writeEntries, List.length_cons, List.length_append, List.length_append]
      omega

/-- Items that read back one by one read back together. -/
theorem readItems_writeItems {item : Bytes → Reading Datum} {items : List Datum}
    (back : ∀ datum ∈ items, ∀ rest, item (write datum ++ rest) = some (datum, rest))
    (rest : Bytes) (seen : List Datum) :
    readItems item items.length (writeItems items ++ rest) seen =
      some (seen.reverse ++ items, rest) := by
  induction items generalizing seen with
  | nil => simp [readItems, writeItems]
  | cons datum items ih =>
      obtain ⟨first, later⟩ := List.forall_mem_cons.mp back
      rw [List.length_cons, writeItems, List.append_assoc, readItems, first]
      simp [ih later]

/-- Entries whose keys and values read back one by one read back together. -/
theorem readEntries_writeEntries {item : Bytes → Reading Datum} {entries : List (Datum × Datum)}
    (keys : ∀ entry ∈ entries, ∀ rest, item (write entry.1 ++ rest) = some (entry.1, rest))
    (values : ∀ entry ∈ entries, ∀ rest, item (write entry.2 ++ rest) = some (entry.2, rest))
    (rest : Bytes) (seen : List (Datum × Datum)) :
    readEntries item entries.length (writeEntries entries ++ rest) seen =
      some (seen.reverse ++ entries, rest) := by
  induction entries generalizing seen with
  | nil => simp [readEntries, writeEntries]
  | cons entry entries ih =>
      obtain ⟨key, keys⟩ := List.forall_mem_cons.mp keys
      obtain ⟨value, values⟩ := List.forall_mem_cons.mp values
      rw [List.length_cons, writeEntries, List.append_assoc, List.append_assoc, readEntries, key]
      simp [value, ih keys values]

theorem writeItems_length_of_mem {items : List Datum} {datum : Datum} (member : datum ∈ items) :
    (write datum).length ≤ (writeItems items).length := by
  induction items with
  | nil => cases member
  | cons item items ih =>
      rw [writeItems, List.length_append]
      rcases List.mem_cons.mp member with rfl | member
      · exact Nat.le_add_right _ _
      · exact Nat.le_add_left_of_le (ih member)

theorem writeEntries_length_of_mem {entries : List (Datum × Datum)} {entry : Datum × Datum}
    (member : entry ∈ entries) :
    (write entry.1).length + (write entry.2).length ≤ (writeEntries entries).length := by
  induction entries with
  | nil => cases member
  | cons first entries ih =>
      rw [writeEntries, List.length_append, List.length_append]
      rcases List.mem_cons.mp member with rfl | member
      · omega
      · have later := ih member
        omega

/-- A list reads back when its items do. -/
theorem readWithin_write_list {depth : Nat} {items : List Datum}
    (back : ∀ datum ∈ items, ∀ rest, readWithin depth (write datum ++ rest) = some (datum, rest))
    (short : (write (.list items)).length < 2 ^ 32) (rest : Bytes) :
    readWithin (depth + 1) (write (.list items) ++ rest) = some (.list items, rest) := by
  have few := length_le_writeItems items
  rw [write, List.length_append] at short
  rw [write, List.append_assoc, readWithin_listHead (by omega), readList,
    readItems_writeItems back]
  rfl

/-- A map reads back when its keys and values do. -/
theorem readWithin_write_map {depth : Nat} {entries : List (Datum × Datum)}
    (keys : ∀ entry ∈ entries, ∀ rest,
      readWithin depth (write entry.1 ++ rest) = some (entry.1, rest))
    (values : ∀ entry ∈ entries, ∀ rest,
      readWithin depth (write entry.2 ++ rest) = some (entry.2, rest))
    (short : (write (.map entries)).length < 2 ^ 32) (rest : Bytes) :
    readWithin (depth + 1) (write (.map entries) ++ rest) = some (.map entries, rest) := by
  have few := length_le_writeEntries entries
  rw [write, List.length_append] at short
  rw [write, List.append_assoc, readWithin_mapHead (by omega), readMap,
    readEntries_writeEntries keys values]
  rfl

/-- **What is packed can be read.**  A value is read back from its bytes, whatever follows
them, when there are fewer than 32 bits can tell. -/
theorem readWithin_write {depth : Nat} {datum : Datum} (packable : Packable depth datum)
    (short : (write datum).length < 2 ^ 32) (rest : Bytes) :
    readWithin depth (write datum ++ rest) = some (datum, rest) := by
  induction packable generalizing rest with
  | null depth => exact readWithin_scalar depth rfl rfl
  | bool depth value => cases value <;> exact readWithin_scalar depth rfl rfl
  | int depth low high => exact readWithin_writeInt depth low high rest
  | text depth value =>
      rw [write, List.length_append] at short
      rw [write, List.append_assoc, readWithin_textHead depth (by omega), readText,
        Bytes.split?_append, Option.map_some, Bytes.text?_ofText]
  | blob depth bytes =>
      rw [write, List.length_append] at short
      rw [write, List.append_assoc, readWithin_blobHead depth (by omega), readBlob,
        Bytes.split?_append, Option.map_some]
  | @list depth items each ih =>
      -- An item is no longer than the list, so its bytes are few enough as well.
      refine readWithin_write_list (fun datum member => ih datum member ?_) short rest
      have part := writeItems_length_of_mem member
      rw [write, List.length_append] at short
      omega
  | @map depth entries keys values keysBack valuesBack =>
      refine readWithin_write_map (fun entry member => keysBack entry member ?_)
        (fun entry member => valuesBack entry member ?_) short rest
      all_goals
        have part := writeEntries_length_of_mem member
        rw [write, List.length_append] at short
        omega

end Packed

end Adventure
