import Adventure.Data.Bytes
import Mathlib.Tactic.Ring

/-!
# Numbers as bytes

A whole number is written as a fixed count of bytes, the high byte first, and a word of 16 bits
as two bytes, the low byte first.  Writing and reading undo each other in both directions: a
number that fits comes back, and so do the bytes.  Hence every byte string that is long enough
begins with the bytes of some number.
-/

set_option autoImplicit false

namespace Adventure.Bytes

/-! ## High byte first -/

theorem ofNatHigh_succ (count value : Nat) :
    ofNatHigh (count + 1) value = UInt8.ofNat (value / 256 ^ count) :: ofNatHigh count value := rfl

@[simp] theorem length_ofNatHigh (count value : Nat) : (ofNatHigh count value).length = count := by
  induction count with
  | zero => rfl
  | succ count ih => rw [ofNatHigh_succ, List.length_cons, ih]

theorem natHigh_cons (byte : UInt8) (bytes : Bytes) :
    natHigh (byte :: bytes) = byte.toNat * 256 ^ bytes.length + natHigh bytes := by
  have shifted : ∀ (bytes : Bytes) (total : Nat),
      bytes.foldl (fun total byte => total * 256 + byte.toNat) total =
        total * 256 ^ bytes.length + natHigh bytes := by
    intro bytes
    induction bytes with
    | nil => simp [natHigh]
    | cons byte bytes ih =>
        intro total
        rw [natHigh, List.foldl_cons, List.foldl_cons, ih, ih (0 * 256 + byte.toNat),
          List.length_cons, pow_succ]
        ring
  rw [natHigh, List.foldl_cons, shifted]
  simp

theorem natHigh_lt (bytes : Bytes) : natHigh bytes < 256 ^ bytes.length := by
  induction bytes with
  | nil => decide
  | cons byte bytes ih =>
      have first := byte.toNat_lt
      rw [natHigh_cons, List.length_cons, pow_succ]
      calc byte.toNat * 256 ^ bytes.length + natHigh bytes
          < byte.toNat * 256 ^ bytes.length + 256 ^ bytes.length := by omega
        _ = (byte.toNat + 1) * 256 ^ bytes.length := by ring
        _ ≤ 256 * 256 ^ bytes.length := Nat.mul_le_mul_right _ (by omega)
        _ = 256 ^ bytes.length * 256 := Nat.mul_comm _ _

/-- A number that fits is the number of its bytes. -/
theorem natHigh_ofNatHigh {count value : Nat} (fits : value < 256 ^ count) :
    natHigh (ofNatHigh count value) = value := by
  have low : ∀ count, natHigh (ofNatHigh count value) = value % 256 ^ count := by
    intro count
    induction count with
    | zero => exact (Nat.mod_one value).symm
    | succ count ih =>
        rw [ofNatHigh_succ, natHigh_cons, length_ofNatHigh, ih, UInt8.toNat_ofNat',
          pow_succ 256 count, Nat.mod_mul, Nat.add_comm, Nat.mul_comm]
  rw [low, Nat.mod_eq_of_lt fits]

/-- What does not fit into the bytes is not written. -/
theorem ofNatHigh_mul_add (count high low : Nat) :
    ofNatHigh count (high * 256 ^ count + low) = ofNatHigh count low := by
  induction count generalizing high with
  | zero => rfl
  | succ count ih =>
      have shifted : high * 256 ^ (count + 1) + low = high * 256 * 256 ^ count + low := by
        rw [pow_succ]
        ring
      have digit : UInt8.ofNat ((high * 256 * 256 ^ count + low) / 256 ^ count) =
          UInt8.ofNat (low / 256 ^ count) := by
        rw [Nat.add_comm, Nat.add_mul_div_right _ _ (Nat.pow_pos (by decide))]
        apply UInt8.toNat_inj.mp
        rw [UInt8.toNat_ofNat', UInt8.toNat_ofNat']
        omega
      rw [shifted, ofNatHigh_succ, ofNatHigh_succ, ih, digit]

/-- A byte string is the bytes of its number. -/
theorem ofNatHigh_natHigh (bytes : Bytes) : ofNatHigh bytes.length (natHigh bytes) = bytes := by
  induction bytes with
  | nil => rfl
  | cons byte bytes ih =>
      have digit : (byte.toNat * 256 ^ bytes.length + natHigh bytes) / 256 ^ bytes.length =
          byte.toNat := by
        rw [Nat.add_comm, Nat.add_mul_div_right _ _ (Nat.pow_pos (by decide)),
          Nat.div_eq_of_lt (natHigh_lt bytes), Nat.zero_add]
      rw [natHigh_cons, List.length_cons, ofNatHigh_succ, ofNatHigh_mul_add, ih, digit,
        UInt8.ofNat_toNat]

/-- A byte string that is long enough begins with the bytes of a number. -/
theorem exists_ofNatHigh {count : Nat} {bytes : Bytes} (long : count ≤ bytes.length) :
    ∃ value rest, value < 256 ^ count ∧ bytes = ofNatHigh count value ++ rest := by
  have length : (bytes.take count).length = count := List.length_take_of_le long
  have fits := natHigh_lt (bytes.take count)
  have front := ofNatHigh_natHigh (bytes.take count)
  rw [length] at fits front
  exact ⟨_, bytes.drop count, fits, by rw [front, List.take_append_drop]⟩

/-! ## Words, low byte first -/

theorem toNat_wordLow (low high : UInt8) :
    (wordLow low high).toNat = low.toNat + 256 * high.toNat := by
  have first := low.toNat_lt
  have second := high.toNat_lt
  have eight : UInt16.toNat 8 % 16 = 8 := rfl
  have shifted : high.toNat <<< 8 % 2 ^ 16 = high.toNat <<< 8 := by
    rw [Nat.shiftLeft_eq]
    omega
  simp only [wordLow, UInt16.toNat_or, UInt8.toNat_toUInt16, UInt16.toNat_shiftLeft, eight,
    shifted]
  -- the two halves share no bit
  rw [Nat.or_comm, ← Nat.shiftLeft_add_eq_or_of_lt first, Nat.shiftLeft_eq]
  omega

theorem wordLow_ofWordLow (w : UInt16) : wordLow w.toUInt8 (w >>> 8).toUInt8 = w := by
  apply UInt16.toNat_inj.mp
  have bound := w.toNat_lt
  have eight : UInt16.toNat 8 % 16 = 8 := rfl
  rw [toNat_wordLow, UInt16.toNat_toUInt8, UInt16.toNat_toUInt8, UInt16.toNat_shiftRight, eight,
    Nat.shiftRight_eq_div_pow]
  omega

theorem ofWordLow_wordLow (low high : UInt8) : ofWordLow (wordLow low high) = [low, high] := by
  have first := low.toNat_lt
  have second := high.toNat_lt
  have eight : UInt16.toNat 8 % 16 = 8 := rfl
  have front : (wordLow low high).toUInt8 = low := by
    apply UInt8.toNat_inj.mp
    rw [UInt16.toNat_toUInt8, toNat_wordLow]
    omega
  have back : (wordLow low high >>> 8).toUInt8 = high := by
    apply UInt8.toNat_inj.mp
    rw [UInt16.toNat_toUInt8, UInt16.toNat_shiftRight, eight, Nat.shiftRight_eq_div_pow,
      toNat_wordLow]
    omega
  rw [ofWordLow, front, back]

/-- A byte string that is long enough begins with a word. -/
theorem exists_ofWordLow {bytes : Bytes} (long : 2 ≤ bytes.length) :
    ∃ w rest, bytes = ofWordLow w ++ rest := by
  match bytes, long with
  | low :: high :: rest, _ =>
      exact ⟨wordLow low high, rest, by rw [ofWordLow_wordLow, List.cons_append, List.singleton_append]⟩

/-- Membership in a signed word of 16 bits. -/
abbrev Fits16 (z : Int) : Prop := -32768 ≤ z ∧ z ≤ 32767

theorem signed16_word16 {z : Int} (fits : Fits16 z) : signed16 (word16 z) = z := by
  unfold signed16 word16
  rw [Int16.toInt16_toUInt16]
  exact Int16.toInt_ofInt_of_le (by omega) (by omega)

theorem signed16_fits (w : UInt16) : Fits16 (signed16 w) := by
  have low := w.toInt16.le_toInt
  have high := w.toInt16.toInt_lt
  unfold signed16
  omega

/-! ## Parts of byte strings -/

@[simp] theorem split?_append (front back : Bytes) :
    split? front.length (front ++ back) = some (front, back) := by
  simp [split?]

@[simp] theorem text?_ofText (text : String) : text? (ofText text) = some text := by
  have valid : text.toByteArray.IsValidUTF8 := text.isValidUTF8
  simp [text?, ofText, String.fromUTF8?, valid]
  rfl

end Adventure.Bytes
