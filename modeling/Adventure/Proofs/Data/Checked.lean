import Adventure.Data.Checked

/-!
# Reading computations that may fault

A checked computation gives a value or stops with a fault.  `Gives` says both at once: what
holds of the value, and which faults may come up.  Nothing but a value is possible when no
fault is allowed.  A computation that searches nothing is `Prompt`: it never uses up a
bound, whatever its words do.

`Gives` takes a sequence apart into its parts, so the equations below turn a statement
about a computation into statements about what it is built from.
-/

set_option autoImplicit false

namespace Adventure

variable {α β : Type} {Allowed : Fault → Prop}

/-- Not the fault of a search that has used up its bound. -/
def Fault.OfWord (fault : Fault) : Prop := fault ≠ .outOfFuel

namespace Checked

/-- A computation gives a value with a property, or stops with a fault that is allowed. -/
def Gives (Allowed : Fault → Prop) (computation : Checked α) (Holds : α → Prop) : Prop :=
  match computation with
  | .ok value => Holds value
  | .error fault => Allowed fault

variable {computation : Checked α} {Holds Follows : α → Prop}

theorem Gives.mono (gives : computation.Gives Allowed Holds)
    (follows : ∀ value, Holds value → Follows value) : computation.Gives Allowed Follows := by
  cases computation with
  | ok value => exact follows value gives
  | error fault => exact gives

theorem Gives.allow {Tolerated : Fault → Prop} (gives : computation.Gives Allowed Holds)
    (allow : ∀ fault, Allowed fault → Tolerated fault) : computation.Gives Tolerated Holds := by
  cases computation with
  | ok value => exact gives
  | error fault => exact allow fault gives

/-- What holds of every value holds whatever faults may come up. -/
theorem Gives.and_value (gives : computation.Gives Allowed Holds)
    (value : computation.Gives (fun _ => True) Follows) :
    computation.Gives Allowed fun value => Holds value ∧ Follows value := by
  cases computation with
  | ok result => exact ⟨gives, value⟩
  | error fault => exact gives

/-- What a computation gives is its value. -/
theorem Gives.and_ok (gives : computation.Gives Allowed Holds) :
    computation.Gives Allowed fun value => computation = .ok value ∧ Holds value := by
  cases computation with
  | ok value => exact ⟨rfl, gives⟩
  | error fault => exact gives

@[simp] theorem gives_anything : computation.Gives (fun _ => True) (fun _ => True) := by
  cases computation <;> trivial

/-- A computation that may not fault gives a value. -/
theorem gives_false_iff :
    computation.Gives (fun _ => False) Holds ↔ ∃ value, computation = .ok value ∧ Holds value := by
  cases computation with
  | ok value => simp [Gives]
  | error fault => simp [Gives]

@[simp] theorem gives_pure {value : α} :
    (pure value : Checked α).Gives Allowed Holds ↔ Holds value :=
  Iff.rfl

/-- A sequence gives what its second part gives after its first. -/
@[simp] theorem gives_bind {next : α → Checked β} {Holds : β → Prop} :
    (computation >>= next).Gives Allowed Holds ↔
      computation.Gives Allowed fun value => (next value).Gives Allowed Holds := by
  cases computation <;> rfl

@[simp] theorem gives_map {rule : α → β} {Holds : β → Prop} :
    Gives Allowed (rule <$> computation) Holds ↔
      computation.Gives Allowed fun value => Holds (rule value) := by
  cases computation <;> rfl

@[simp] theorem gives_ite {test : Prop} [Decidable test] {other : Checked α} :
    (if test then computation else other).Gives Allowed Holds ↔
      if test then computation.Gives Allowed Holds else other.Gives Allowed Holds := by
  split <;> rfl

/-- The computation searches nothing: it gives a value or stops with a fault of a word. -/
abbrev Prompt (computation : Checked α) : Prop := computation.Gives Fault.OfWord fun _ => True

theorem Prompt.gives {computation : Checked α} {Holds : α → Prop} (prompt : computation.Prompt)
    (holds : ∀ value, Holds value) : computation.Gives Fault.OfWord Holds :=
  Gives.mono prompt fun value _ => holds value

end Checked

namespace Word

/-! ## Results that fit their words -/

/-- Membership in a signed word of 16 bits. -/
abbrev Fits16 (z : Int) : Prop := -32768 ≤ z ∧ z ≤ 32767

variable {a b z : Int} {Holds : Int → Prop}

theorem gives_int32 (fits : Fits32 z) : (int32 z).Gives Allowed Holds ↔ Holds z := by
  rw [int32, if_pos fits]
  rfl

theorem gives_int64 (fits : Fits64 z) : (int64 z).Gives Allowed Holds ↔ Holds z := by
  rw [int64, if_pos fits]
  rfl

theorem gives_sub32 (fits : Fits32 (a - b)) : (sub32 a b).Gives Allowed Holds ↔ Holds (a - b) :=
  gives_int32 fits

theorem gives_abs32 (fits : Fits32 a.natAbs) : (abs32 a).Gives Allowed Holds ↔ Holds a.natAbs :=
  gives_int32 fits

theorem gives_mul32 (fits : Fits32 (a * b)) : (mul32 a b).Gives Allowed Holds ↔ Holds (a * b) :=
  gives_int32 fits

theorem gives_add64 (fits : Fits64 (a + b)) : (add64 a b).Gives Allowed Holds ↔ Holds (a + b) :=
  gives_int64 fits

theorem gives_sub64 (fits : Fits64 (a - b)) : (sub64 a b).Gives Allowed Holds ↔ Holds (a - b) :=
  gives_int64 fits

theorem gives_mul64 (fits : Fits64 (a * b)) : (mul64 a b).Gives Allowed Holds ↔ Holds (a * b) :=
  gives_int64 fits

/-- A quotient fits the word of the dividend, unless both are the odd ones out. -/
theorem gives_div64 (real : b ≠ 0) (fits : a.natAbs ≤ 9223372036854775807) :
    (div64 a b).Gives Allowed Holds ↔ Holds (a.tdiv b) := by
  rw [div64, if_neg real]
  have smaller := Int.natAbs_tdiv_le_natAbs a b
  exact gives_int64 (by omega)

theorem wrap32_eq (fits : Fits32 z) : wrap32 z = z := by
  unfold wrap32
  rw [Int.bmod_eq_of_le (by omega) (by omega)]

/-! ## Results that may not fit -/

@[simp] theorem int32_prompt (z : Int) : (int32 z).Prompt := by
  unfold int32
  split
  · trivial
  · rintro ⟨⟩

@[simp] theorem int64_prompt (z : Int) : (int64 z).Prompt := by
  unfold int64
  split
  · trivial
  · rintro ⟨⟩

@[simp] theorem add32_prompt (a b : Int) : (add32 a b).Prompt := int32_prompt _

@[simp] theorem sub32_prompt (a b : Int) : (sub32 a b).Prompt := int32_prompt _

@[simp] theorem mul32_prompt (a b : Int) : (mul32 a b).Prompt := int32_prompt _

@[simp] theorem abs32_prompt (a : Int) : (abs32 a).Prompt := int32_prompt _

@[simp] theorem add64_prompt (a b : Int) : (add64 a b).Prompt := int64_prompt _

@[simp] theorem sub64_prompt (a b : Int) : (sub64 a b).Prompt := int64_prompt _

@[simp] theorem mul64_prompt (a b : Int) : (mul64 a b).Prompt := int64_prompt _

@[simp] theorem div64_prompt (a b : Int) : (div64 a b).Prompt := by
  unfold div64
  split
  · rintro ⟨⟩
  · exact int64_prompt _

end Word

end Adventure
