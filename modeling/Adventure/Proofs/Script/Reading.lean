import Adventure.Proofs.Data.Bytes
import Adventure.Script.Instruction

/-!
# Reading code back

Code holds a byte string at an offset when the string stands there.  Reading an operand
where its bytes stand gives the operand again and moves the offset past it, provided the
operand fits its shape; `operands_of_holds` says so for all operands of an instruction.
-/

set_option autoImplicit false

namespace Adventure

/-! ## Computations that read -/

theorem Fetch.pure_apply {α : Type} (value : α) (offset : Nat) :
    (pure value : Fetch α) offset = .ok (value, offset) := rfl

theorem Fetch.bind_eq_ok_iff {α β : Type} {first : Fetch α} {next : α → Fetch β}
    {offset : Nat} {result : β × Nat} :
    (first >>= next) offset = .ok result ↔
      ∃ value middle, first offset = .ok (value, middle) ∧ next value middle = .ok result := by
  simp only [bind, StateT.bind, Except.bind]
  cases first offset with
  | error missing => simp
  | ok found =>
      constructor
      · intro ended
        exact ⟨found.1, found.2, rfl, ended⟩
      · rintro ⟨_, _, same, ended⟩
        cases same
        exact ended

theorem Fetch.bind_of_ok {α β : Type} {first : Fetch α} {offset middle : Nat} {value : α}
    (read : first offset = .ok (value, middle)) (next : α → Fetch β) :
    (first >>= next) offset = next value middle := by
  simp only [bind, StateT.bind, Except.bind, read]

theorem Fetch.bind_of_error {α β : Type} {first : Fetch α} {offset missing : Nat}
    (short : first offset = .error missing) (next : α → Fetch β) :
    (first >>= next) offset = .error missing := by
  simp only [bind, StateT.bind, Except.bind, short]

namespace Code

variable {code : Code} {offset next : Nat}

theorem byte_ok {value : UInt8} (read : code.byte offset = .ok (value, next)) :
    next = offset + 1 ∧ code[offset]? = some value := by
  unfold byte at read
  split at read
  next found =>
    cases read
    exact ⟨rfl, found⟩
  next => cases read

theorem byte_error (missing : code.byte offset = .error next) :
    next = offset ∧ code[offset]? = none := by
  unfold byte at missing
  split at missing
  next => cases missing
  next found =>
    cases missing
    exact ⟨rfl, found⟩

theorem word_ok {value : UInt16} (read : code.word offset = .ok (value, next)) :
    next = offset + 2 ∧ offset + 2 ≤ code.length := by
  simp only [word, Fetch.bind_eq_ok_iff] at read
  obtain ⟨_, _, low, _, _, high, ended⟩ := read
  obtain ⟨rfl, _⟩ := byte_ok low
  obtain ⟨rfl, found⟩ := byte_ok high
  cases ended
  obtain ⟨inside, _⟩ := List.getElem?_eq_some_iff.mp found
  exact ⟨rfl, inside⟩

theorem byte_of_getElem? {value : UInt8} (found : code[offset]? = some value) :
    code.byte offset = .ok (value, offset + 1) := by
  unfold byte
  rw [found]

theorem word_of_bytes {low high : UInt8} (first : code[offset]? = some low)
    (second : code[offset + 1]? = some high) :
    code.word offset = .ok (Bytes.wordLow low high, offset + 2) := by
  unfold word
  rw [Fetch.bind_of_ok (byte_of_getElem? first), Fetch.bind_of_ok (byte_of_getElem? second)]
  rfl

/-! ## Bytes that stand in code -/

/-- A byte string stands in the code at an offset. -/
def Holds (code : Code) (offset : Nat) (bytes : Bytes) : Prop :=
  ∃ before after, before.length = offset ∧ code = before ++ bytes ++ after

theorem Holds.append {first second : Bytes} (holds : code.Holds offset (first ++ second)) :
    code.Holds offset first ∧ code.Holds (offset + first.length) second := by
  obtain ⟨before, after, rfl, rfl⟩ := holds
  constructor
  · exact ⟨before, second ++ after, rfl, by simp⟩
  · exact ⟨before ++ first, after, by simp, by simp⟩

theorem Holds.cons {value : UInt8} {rest : Bytes} (holds : code.Holds offset (value :: rest)) :
    code[offset]? = some value ∧ code.Holds (offset + 1) rest := by
  obtain ⟨before, after, rfl, rfl⟩ := holds
  constructor
  · simp
  · exact ⟨before ++ [value], after, by simp, by simp⟩

theorem Holds.length_le {bytes : Bytes} (holds : code.Holds offset bytes) :
    offset + bytes.length ≤ code.length := by
  obtain ⟨before, after, rfl, rfl⟩ := holds
  simp only [List.length_append]
  omega

/-! ## Reading what stands in code -/

theorem word_of_holds {value : UInt16} (holds : code.Holds offset (Bytes.ofWordLow value)) :
    code.word offset = .ok (value, offset + 2) := by
  obtain ⟨low, rest⟩ := holds.cons
  obtain ⟨high, _⟩ := rest.cons
  rw [word_of_bytes low high, Bytes.wordLow_ofWordLow]

theorem int_of_holds {value : Int} (fits : Bytes.Fits16 value)
    (holds : code.Holds offset (Bytes.ofWordLow (Bytes.word16 value))) :
    code.int offset = .ok (value, offset + 2) := by
  unfold int
  rw [Fetch.bind_of_ok (word_of_holds holds), Bytes.signed16_word16 fits]
  rfl

theorem ints_of_holds {values : List Int} (fits : ∀ value ∈ values, Bytes.Fits16 value)
    (holds : code.Holds offset
      (values.flatMap fun value => Bytes.ofWordLow (Bytes.word16 value))) :
    code.ints values.length offset = .ok (values, offset + 2 * values.length) := by
  induction values generalizing offset with
  | nil => rfl
  | cons value values ih =>
      rw [List.flatMap_cons] at holds
      obtain ⟨first, rest⟩ := holds.append
      have later : code.ints values.length (offset + 2) =
          .ok (values, offset + 2 + 2 * values.length) :=
        ih (fun other member => fits other (.tail _ member)) rest
      simp only [List.length_cons, ints]
      rw [Fetch.bind_of_ok (int_of_holds (fits value (.head _)) first),
        Fetch.bind_of_ok later, Fetch.pure_apply]
      congr 2
      omega

end Code

/-! ## Operands -/

/-- The operand has a form in code. -/
def Operand.Fits : (operand : Operand) → operand.Value → Prop
  | .byte, _ => True
  | .word, _ => True
  | .int, value => Bytes.Fits16 value
  | .label, value => Bytes.Fits16 value
  | .args, values => values.length ≤ 255 ∧ ∀ value ∈ values, Bytes.Fits16 value

/-- All operands of a tuple have a form in code. -/
def Operands.Fit : (shape : List Operand) → Operands shape → Prop
  | [], _ => True
  | operand :: rest, values => operand.Fits values.1 ∧ Fit rest values.2

namespace Code

variable {code : Code} {offset : Nat}

theorem operand_of_holds {operand : Operand} {value : operand.Value} (fits : operand.Fits value)
    (holds : code.Holds offset (operand.encode value)) :
    code.operand operand offset = .ok (value, offset + (operand.encode value).length) := by
  cases operand with
  | byte => exact byte_of_getElem? holds.cons.1
  | word => exact word_of_holds holds
  | int => exact int_of_holds fits holds
  | label => exact int_of_holds fits holds
  | args =>
      obtain ⟨count, rest⟩ := holds.cons
      have small : (UInt8.ofNat value.length).toNat = value.length :=
        UInt8.toNat_ofNat_of_lt' (Nat.lt_succ_of_le fits.1)
      have later := ints_of_holds fits.2 rest
      simp only [operand, args]
      rw [Fetch.bind_of_ok (byte_of_getElem? count), small, later]
      simp only [Operand.encode, Bytes.ofWordLow, List.length_cons, List.length_flatMap,
        List.length_nil, List.map_const', List.sum_replicate_nat]
      congr 2
      omega

/-- **Operands are read back from their bytes**, and reading stops right after them. -/
theorem operands_of_holds {shape : List Operand} {values : Operands shape}
    (fit : Operands.Fit shape values) (holds : code.Holds offset (Operands.encode shape values)) :
    code.operands shape offset =
      .ok (values, offset + (Operands.encode shape values).length) := by
  induction shape generalizing offset with
  | nil => rfl
  | cons operand rest ih =>
      obtain ⟨here, later⟩ := holds.append
      simp only [operands]
      rw [Fetch.bind_of_ok (operand_of_holds fit.1 here), Fetch.bind_of_ok (ih fit.2 later)]
      simp only [Fetch.pure_apply, Operands.encode, List.length_append, Nat.add_assoc]

theorem int_fits {value : Int} {next : Nat} (read : code.int offset = .ok (value, next)) :
    Bytes.Fits16 value := by
  obtain ⟨word, _, _, same⟩ := Fetch.bind_eq_ok_iff.mp read
  cases same
  exact Bytes.signed16_fits word

theorem ints_fit {count next : Nat} {values : List Int}
    (read : code.ints count offset = .ok (values, next)) :
    values.length = count ∧ ∀ value ∈ values, Bytes.Fits16 value := by
  induction count generalizing offset values next with
  | zero =>
      cases read
      exact ⟨rfl, fun _ member => absurd member List.not_mem_nil⟩
  | succ count ih =>
      obtain ⟨value, _, first, read⟩ := Fetch.bind_eq_ok_iff.mp read
      obtain ⟨rest, _, later, same⟩ := Fetch.bind_eq_ok_iff.mp read
      cases same
      obtain ⟨length, fit⟩ := ih later
      exact ⟨congrArg Nat.succ length, List.forall_mem_cons.mpr ⟨int_fits first, fit⟩⟩

theorem operand_fits {operand : Operand} {value : operand.Value} {next : Nat}
    (read : code.operand operand offset = .ok (value, next)) : operand.Fits value := by
  cases operand with
  | byte => trivial
  | word => trivial
  | int => exact int_fits read
  | label => exact int_fits read
  | args =>
      obtain ⟨count, _, _, read⟩ := Fetch.bind_eq_ok_iff.mp read
      obtain ⟨length, fit⟩ := ints_fit read
      exact ⟨length ▸ Nat.le_of_lt_succ count.toNat_lt, fit⟩

/-- **Operands that are read have a form in code.** -/
theorem operands_fit {shape : List Operand} {values : Operands shape} {next : Nat}
    (read : code.operands shape offset = .ok (values, next)) : Operands.Fit shape values := by
  induction shape generalizing offset next with
  | nil => trivial
  | cons operand rest ih =>
      obtain ⟨value, _, first, read⟩ := Fetch.bind_eq_ok_iff.mp read
      obtain ⟨others, _, later, same⟩ := Fetch.bind_eq_ok_iff.mp read
      cases same
      exact ⟨operand_fits first, ih later⟩

end Code

end Adventure
