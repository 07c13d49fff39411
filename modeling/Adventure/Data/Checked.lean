/-!
# Arithmetic that may leave its word

Coordinates, velocities and scales are whole numbers kept in signed words of 32
bits, and their products in signed words of 64 bits.  A result that does not fit
its word is a fault: the computation it belongs to has no value.  So every sum,
difference or product that may leave its word is written with one of the checked
operations below, and a computation built from them is a value of `Checked`.

Casts to a narrower word never fail: they keep the low bits, which is what
`wrap32` computes.
-/

set_option autoImplicit false

namespace Adventure

/-- Why a computation has no value. -/
inductive Fault where
  /-- A result did not fit its word. -/
  | overflow
  /-- A quotient by zero was asked for. -/
  | divideByZero
  /-- A bounded search used up its bound. -/
  | outOfFuel
  deriving DecidableEq, Repr, Inhabited

/-- A computation that either has a value or stops with a fault. -/
abbrev Checked := Except Fault

namespace Word

/-- Membership in a signed word of 32 bits. -/
abbrev Fits32 (z : Int) : Prop := -2147483648 ≤ z ∧ z ≤ 2147483647

/-- Membership in a signed word of 64 bits. -/
abbrev Fits64 (z : Int) : Prop := -9223372036854775808 ≤ z ∧ z ≤ 9223372036854775807

/-- The value itself when it fits a signed word of 32 bits. -/
def int32 (z : Int) : Checked Int :=
  if Fits32 z then .ok z else .error .overflow

/-- The value itself when it fits a signed word of 64 bits. -/
def int64 (z : Int) : Checked Int :=
  if Fits64 z then .ok z else .error .overflow

@[simp] theorem int32_eq_ok_iff {z w : Int} : int32 z = .ok w ↔ Fits32 z ∧ z = w := by
  by_cases fits : Fits32 z
  · rw [int32, if_pos fits]
    exact ⟨fun same => ⟨fits, Except.ok.inj same⟩, fun both => congrArg Except.ok both.2⟩
  · rw [int32, if_neg fits]
    exact ⟨fun same => (by cases same), fun both => absurd both.1 fits⟩

@[simp] theorem int64_eq_ok_iff {z w : Int} : int64 z = .ok w ↔ Fits64 z ∧ z = w := by
  by_cases fits : Fits64 z
  · rw [int64, if_pos fits]
    exact ⟨fun same => ⟨fits, Except.ok.inj same⟩, fun both => congrArg Except.ok both.2⟩
  · rw [int64, if_neg fits]
    exact ⟨fun same => (by cases same), fun both => absurd both.1 fits⟩

/-- A sum in 32 bits. -/
def add32 (a b : Int) : Checked Int := int32 (a + b)

/-- A difference in 32 bits. -/
def sub32 (a b : Int) : Checked Int := int32 (a - b)

/-- A product in 32 bits. -/
def mul32 (a b : Int) : Checked Int := int32 (a * b)

/-- An absolute value in 32 bits; the least word has none. -/
def abs32 (a : Int) : Checked Int := int32 a.natAbs

/-- A sum in 64 bits. -/
def add64 (a b : Int) : Checked Int := int64 (a + b)

/-- A difference in 64 bits. -/
def sub64 (a b : Int) : Checked Int := int64 (a - b)

/-- A product in 64 bits. -/
def mul64 (a b : Int) : Checked Int := int64 (a * b)

/-- A quotient in 64 bits, rounded toward zero. -/
def div64 (a b : Int) : Checked Int :=
  if b = 0 then .error .divideByZero else int64 (a.tdiv b)

/-- The signed word of 32 bits with the same low bits. -/
def wrap32 (z : Int) : Int := z.bmod 4294967296

/-- The greatest value of an unsigned word of 32 bits. -/
def greatestUnsigned32 : Nat := 4294967295

/-- The square of a difference in unsigned 32 bits, cut off at the greatest word. -/
def squareCapped (d : Int) : Nat := min (d.natAbs * d.natAbs) greatestUnsigned32

/-- A sum in unsigned 32 bits, cut off at the greatest word. -/
def addCapped (a b : Nat) : Nat := min (a + b) greatestUnsigned32

end Word

namespace Checked

/-- Conjunction that does not compute its second part when the first is false. -/
def andThen (first second : Checked Bool) : Checked Bool := do
  if ← first then second else pure false

end Checked

end Adventure
