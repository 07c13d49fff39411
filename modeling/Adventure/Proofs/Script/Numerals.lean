import Adventure.Script.Assembler
import Mathlib.Data.Nat.Digits.Lemmas

/-!
# Numbers in assembly text

A number in assembly text is an optional minus, an optional mark for hexadecimal digits, an
optional sign and at least one digit.  `numeral?` gives the number that a text of this form
stands for, of any size.  The assembler computes in words: a number it reads is the one that
stands there (`number_ok`), and the only way to leave the word is a minus in front of the
least word, which has no negative (`number_faults_iff`).
-/

set_option autoImplicit false

namespace Adventure

open Word

namespace Digits

variable {base limit total n : Nat} {tooFar : ReadError} {text : List Char}

/-! ## Rows of digits -/

/-- The number that a row of digits stands for, the highest digit first. -/
def natural? (base : Nat) (text : List Char) : Option Nat :=
  if text = [] then none
  else (text.mapM (digit? base)).map fun digits => Nat.ofDigits base digits.reverse

/-- Digits are read as the number they stand for, after the digits read before, unless it is
above the limit. -/
theorem magnitude_eq_ok_iff (real : 0 < base) (within : total ≤ limit) :
    magnitude base limit tooFar text total = .ok n ↔
      n ≤ limit ∧ ∃ digits, text.mapM (digit? base) = some digits ∧
        Nat.ofDigits base digits.reverse + base ^ digits.length * total = n := by
  induction text generalizing total with
  | nil =>
    simp only [magnitude, List.mapM_nil, Except.ok.injEq, Option.pure_def, Option.some.injEq,
      exists_eq_left', List.reverse_nil, Nat.ofDigits_nil, List.length_nil, pow_zero, one_mul,
      zero_add]
    exact ⟨fun same => ⟨same ▸ within, same⟩, fun both => both.2⟩
  | cons c rest ih =>
    rw [magnitude]
    cases known : digit? base c with
    | none => simp [known]
    | some value =>
      have read (digits : List Nat) :
          (c :: rest).mapM (digit? base) = some digits ↔
            ∃ others, rest.mapM (digit? base) = some others ∧ value :: others = digits := by
        simp [known, Option.bind_eq_some_iff]
      have shifted (others : List Nat) : Nat.ofDigits base (value :: others).reverse +
          base ^ (value :: others).length * total =
            Nat.ofDigits base others.reverse + base ^ others.length * (total * base + value) := by
        rw [Nat.ofDigits_reverse_cons, List.length_cons, pow_succ]
        ring
      dsimp only
      simp only [read, exists_exists_and_eq_and, shifted]
      split
      next small => exact ih small
      next large =>
        simp only [reduceCtorEq, false_iff, not_and, not_exists]
        rintro below others - rfl
        -- digits that follow only make the number larger
        have grows := Nat.le_mul_of_pos_left (total * base + value)
          (Nat.pow_pos (n := others.length) real)
        omega

/-- A row of digits on its own, of at least one digit. -/
theorem magnitude_zero_eq_ok_iff (real : 0 < base) (some_ : text ≠ []) :
    magnitude base limit tooFar text 0 = .ok n ↔ natural? base text = some n ∧ n ≤ limit := by
  rw [magnitude_eq_ok_iff real (Nat.zero_le _), natural?, if_neg some_, Option.map_eq_some_iff,
    and_comm]
  simp only [Nat.mul_zero, Nat.add_zero]

/-! ## Signs -/

/-- The number that digits with an optional sign stand for. -/
def signed? (base : Nat) : List Char → Option Int
  | '+' :: digits => (natural? base digits).map Int.ofNat
  | '-' :: digits => (natural? base digits).map fun n : Nat => -(n : Int)
  | digits => (natural? base digits).map Int.ofNat

theorem map_eq_ok_iff {change : Nat → Int} {result : Except ReadError Nat} {value : Int} :
    result.map change = .ok value ↔ ∃ n, result = .ok n ∧ change n = value := by
  cases result <;> simp [Except.map]

/-- A row of digits with a sign, when the limit is the end of the word on that side. -/
theorem map_magnitude_eq_ok_iff (real : 0 < base) (some_ : text ≠ []) {change : Nat → Int}
    (within : ∀ n, Fits64 (change n) ↔ n ≤ limit) {value : Int} :
    (magnitude base limit tooFar text 0).map change = .ok value ↔
      (natural? base text).map change = some value ∧ Fits64 value := by
  simp only [map_eq_ok_iff, magnitude_zero_eq_ok_iff real some_, Option.map_eq_some_iff]
  constructor
  · rintro ⟨n, ⟨found, small⟩, rfl⟩
    exact ⟨⟨n, found, rfl⟩, (within n).mpr small⟩
  · rintro ⟨⟨n, found, rfl⟩, fits⟩
    exact ⟨n, ⟨found, (within n).mp fits⟩, rfl⟩

/-- **A number of 64 bits is read exactly when it fits.** -/
theorem int64_eq_ok_iff (real : 0 < base) {value : Int} :
    int64 base text = .ok value ↔ signed? base text = some value ∧ Fits64 value := by
  have upward (n : Nat) : Fits64 (Int.ofNat n) ↔ n ≤ 9223372036854775807 := by
    rw [Int.ofNat_eq_natCast]
    omega
  have downward (n : Nat) : Fits64 (-(n : Int)) ↔ n ≤ 9223372036854775808 := by omega
  unfold int64
  split
  next => simp [signed?, natural?]
  next => simp [signed?, natural?]
  next => simp [signed?, natural?]
  next digits lone => exact map_magnitude_eq_ok_iff real (by simpa using lone) upward
  next digits lone =>
    have both (result : Except ReadError Nat) :
        (result >>= fun n => pure (n : Int)).map (- ·) = result.map fun n : Nat => -(n : Int) := by
      cases result <;> rfl
    rw [both]
    exact map_magnitude_eq_ok_iff real (by simpa using lone) downward
  next some_ _ _ plus minus =>
    rw [signed?]
    · exact map_magnitude_eq_ok_iff real some_ upward
    · exact plus
    · exact minus

end Digits

namespace Assembler

variable {token : String} {value : Int}

/-! ## Numbers -/

/-- The number that digits with an optional mark and sign stand for. -/
def marked? : List Char → Option Int
  | '0' :: 'x' :: hex => Digits.signed? 16 hex
  | '0' :: 'X' :: hex => Digits.signed? 16 hex
  | decimal => Digits.signed? 10 decimal

/-- The number that a text stands for, whatever its size. -/
def numeral? : List Char → Option Int
  | '-' :: digits => (marked? digits).map (- ·)
  | digits => marked? digits

/-- What the assembler reads after a minus, or without one. -/
def readMarked (digits : List Char) : Except Digits.ReadError Int :=
  match digits with
  | '0' :: 'x' :: hex => Digits.int64 16 hex
  | '0' :: 'X' :: hex => Digits.int64 16 hex
  | decimal => Digits.int64 10 decimal

theorem readMarked_eq_ok_iff {digits : List Char} :
    readMarked digits = .ok value ↔ marked? digits = some value ∧ Fits64 value := by
  unfold readMarked
  split
  next => exact Digits.int64_eq_ok_iff (by decide)
  next => exact Digits.int64_eq_ok_iff (by decide)
  next lower upper =>
    rw [marked?]
    · exact Digits.int64_eq_ok_iff (by decide)
    · exact lower
    · exact upper

/-- The number with the minus that stands in front of it, if there is one. -/
def applyMinus (negative : Bool) (unsigned : Int) : Except Cause Int :=
  if negative then (Word.int64 (-unsigned)).mapError .fault else .ok unsigned

theorem applyMinus_ok {negative : Bool} {unsigned : Int}
    (applied : applyMinus negative unsigned = .ok value) :
    value = if negative then -unsigned else unsigned := by
  cases negative with
  | false => exact (Except.ok.inj applied).symm
  | true =>
    simp only [applyMinus, if_true, Word.int64] at applied
    split at applied
    · exact (Except.ok.inj applied).symm
    · cases applied

/-- Of the numbers of a word only the least has no negative. -/
theorem applyMinus_faults_iff {negative : Bool} {unsigned : Int} (fits : Fits64 unsigned) :
    (∃ fault, applyMinus negative unsigned = .error (.fault fault)) ↔
      negative = true ∧ unsigned = -9223372036854775808 := by
  cases negative with
  | false => simp [applyMinus]
  | true =>
    simp only [applyMinus, if_true, Word.int64, true_and]
    split
    next inside =>
      simp only [Except.mapError, reduceCtorEq, exists_false, false_iff]
      omega
    next outside =>
      simp only [Except.mapError, Except.error.injEq, Cause.fault.injEq, exists_eq', true_iff]
      omega

/-- A minus in front is taken off, and what follows is read and then negated. -/
theorem number_eq (token : String) : ∃ negative digits,
    (negative = true ∧ token.toList = '-' :: digits ∨
      negative = false ∧ token.toList = digits ∧ ∀ rest, digits ≠ '-' :: rest) ∧
    number token = match readMarked digits with
      | .error error => .error (.badNumber token error)
      | .ok unsigned => applyMinus negative unsigned := by
  unfold number
  split
  next negative digits parts =>
    refine ⟨negative, digits, ?_, rfl⟩
    split at parts
    next rest minus =>
      cases parts
      exact .inl ⟨rfl, minus⟩
    next plain =>
      cases parts
      exact .inr ⟨rfl, rfl, plain⟩

/-- **A number that is read is the one that stands there.** -/
theorem number_ok (read : number token = .ok value) : numeral? token.toList = some value := by
  obtain ⟨negative, digits, text, same⟩ := number_eq token
  rw [same] at read
  split at read
  next => cases read
  next unsigned marked =>
    obtain ⟨stands, -⟩ := readMarked_eq_ok_iff.mp marked
    rw [applyMinus_ok read]
    rcases text with ⟨rfl, text⟩ | ⟨rfl, rfl, plain⟩
    · rw [text, numeral?, stands, Option.map_some, if_pos rfl]
    · rw [numeral?, stands, if_neg Bool.false_ne_true]
      exact plain

/-- A minus in front of the least number of 64 bits, which has no negative. -/
def NegatesLeast (token : String) : Prop :=
  ∃ digits, token.toList = '-' :: digits ∧ marked? digits = some (-9223372036854775808)

/-- **A number leaves its word only where the least one is negated.** -/
theorem number_faults_iff :
    (∃ fault, number token = .error (.fault fault)) ↔ NegatesLeast token := by
  obtain ⟨negative, digits, text, same⟩ := number_eq token
  rw [same]
  have least (minus : token.toList = '-' :: digits) :
      NegatesLeast token ↔ marked? digits = some (-9223372036854775808) := by
    simp [NegatesLeast, minus]
  rcases text with ⟨rfl, minus⟩ | ⟨rfl, rfl, plain⟩
  · rw [least minus]
    split
    next error refused =>
      simp only [Except.error.injEq, reduceCtorEq, exists_false, false_iff]
      intro stands
      have accepted := readMarked_eq_ok_iff.mpr ⟨stands, by decide⟩
      cases refused.symm.trans accepted
    next unsigned marked =>
      obtain ⟨stands, fits⟩ := readMarked_eq_ok_iff.mp marked
      rw [applyMinus_faults_iff fits, stands, Option.some.injEq]
      exact and_iff_right rfl
  · have never : ¬NegatesLeast token := fun ⟨rest, minus, _⟩ => plain rest minus
    split <;> simp [never, applyMinus]

end Assembler

end Adventure
