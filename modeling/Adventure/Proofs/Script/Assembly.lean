import Adventure.Proofs.Script.Reading
import Adventure.Script.Assembler
import Mathlib.Algebra.GroupWithZero.Nat

/-!
# What the assembler writes

The assembler reads a text twice and computes every offset twice: the first reading adds
up the sizes it expects, the second the bytes it has written.  Here both are shown to
agree, so that labels stand at boundaries between instructions and a jump to a label
leads to one.

A program is a list of instructions, and its boundaries are the offsets at which its
instructions start, and its end.  The program of a text is closed: its jumps stay on
boundaries (`program_closed`).
-/

set_option autoImplicit false

namespace Adventure

/-! ## Programs and their boundaries -/

/-- All operands have a form in code. -/
def Instruction.Fits (instruction : Instruction) : Prop :=
  Operands.Fit instruction.operation.shape instruction.operands

/-- The size in code. -/
abbrev Instruction.size (instruction : Instruction) : Nat := instruction.encode.length

/-- The distance that the instruction may jump, from its own end. -/
def Instruction.distance? : Instruction → Option Int
  | ⟨.jump, (distance, ())⟩ => some distance
  | ⟨.jumpIfZero, (_, distance, ())⟩ => some distance
  | ⟨.jumpIfNotZero, (_, distance, ())⟩ => some distance
  | _ => none

/-- The instructions of a script, in order. -/
abbrev Program := List Instruction

namespace Program

/-- The code of a program. -/
def code (program : Program) : Code := program.flatMap (·.encode)

/-- The offset of the instruction at an index, or of the end. -/
def offset (program : Program) (index : Nat) : Nat := ((program.map (·.size)).take index).sum

/-- An offset at which an instruction starts, or the end. -/
def Boundary (program : Program) (place : Nat) : Prop :=
  ∃ index ≤ program.length, program.offset index = place

/-- A program that can be read back, and that never leaves its boundaries: jumps lead to one,
and an override is armed in front of a jump. -/
structure Closed (program : Program) : Prop where
  fits : ∀ instruction ∈ program, instruction.Fits
  jumps : ∀ {index instruction distance}, program[index]? = some instruction →
    instruction.distance? = some distance →
    ∃ place, program.Boundary place ∧ (program.offset (index + 1) : Int) + distance = place
  overrides : ∀ {index instruction}, program[index]? = some instruction →
    instruction.operation = .beginOverride →
    ∃ next, program[index + 1]? = some next ∧ next.operation = .jump

theorem code_length (program : Program) : program.code.length = program.offset program.length := by
  rw [offset, List.take_of_length_le (by simp), code, List.length_flatMap]

theorem boundary_zero (program : Program) : program.Boundary 0 :=
  ⟨0, Nat.zero_le _, rfl⟩

theorem offset_succ {program : Program} {index : Nat} {instruction : Instruction}
    (found : program[index]? = some instruction) :
    program.offset (index + 1) = program.offset index + instruction.size := by
  simp [offset, List.take_add_one, found]

/-- Every instruction stands in the code at its offset. -/
theorem holds {program : Program} {index : Nat} {instruction : Instruction}
    (found : program[index]? = some instruction) :
    program.code.Holds (program.offset index) instruction.encode := by
  obtain ⟨inside, here⟩ := List.getElem?_eq_some_iff.mp found
  refine ⟨code (program.take index), code (program.drop (index + 1)), ?_, ?_⟩
  · rw [code_length, offset, offset, List.map_take, List.take_take, List.length_take]
    congr 2
    omega
  · have whole : program.take index ++ instruction :: program.drop (index + 1) = program := by
      rw [← here, ← List.drop_eq_getElem_cons inside, List.take_append_drop]
    conv => lhs; rw [← whole]
    simp [code]

end Program

namespace Assembler

/-! ## Sizes -/

/-- The size that the first reading expects of a line. -/
def expectedSize (line : Line) : Nat :=
  match size line.operation line.tokens.length with
  | .ok size => size
  | .error _ => 0

/-- The first reading has found a size for the line. -/
def Sized (line : Line) : Prop :=
  size line.operation line.tokens.length = .ok (expectedSize line)

theorem sized_of_size (number : Nat) {operation : Operation} {tokens : List String} {found : Nat}
    (known : size operation tokens.length = .ok found) :
    Sized ⟨number, operation, tokens⟩ ∧ expectedSize ⟨number, operation, tokens⟩ = found := by
  have expected : expectedSize ⟨number, operation, tokens⟩ = found := by
    simp only [expectedSize, known]
  exact ⟨known.trans (by rw [expected]), expected⟩

theorem map_eq_ok {ε α β : Type} {change : α → β} {result : Except ε α} {value : β}
    (ended : result.map change = .ok value) : ∃ before, result = .ok before ∧ change before = value := by
  cases result with
  | error cause => cases ended
  | ok before =>
      cases ended
      exact ⟨before, rfl, rfl⟩

theorem bind_eq_ok {ε α β : Type} {first : Except ε α} {next : α → Except ε β} {value : β}
    (ended : first >>= next = .ok value) : ∃ before, first = .ok before ∧ next before = .ok value := by
  cases first with
  | error cause => cases ended
  | ok before => exact ⟨before, rfl, ended⟩

/-- A fold keeps what its steps keep; the values that have been taken are listed last first. -/
theorem foldlM_kept {ε σ α : Type} {step : σ → α → Except ε σ} (Holds : List α → σ → Prop)
    (keeps : ∀ {done : List α} {state next : σ} {value : α}, Holds done state →
      step state value = .ok next → Holds (value :: done) next)
    {values : List α} {state last : σ} (holds : Holds [] state)
    (ended : values.foldlM step state = .ok last) : Holds values.reverse last := by
  suffices general : ∀ {done state}, Holds done state → values.foldlM step state = .ok last →
      Holds (values.reverse ++ done) last by
    simpa using general holds ended
  clear holds ended state
  intro done state holds ended
  induction values generalizing done state with
  | nil =>
      cases ended
      exact holds
  | cons value rest ih =>
      rw [List.foldlM_cons] at ended
      obtain ⟨next, first, later⟩ := bind_eq_ok ended
      rw [List.reverse_cons, List.append_assoc]
      exact ih (keeps holds first) later

/-! ## Numbers -/

theorem numberIn_ok {least greatest value : Int} {token : String}
    (read : numberIn least greatest token = .ok value) : least ≤ value ∧ value ≤ greatest := by
  obtain ⟨found, _, rest⟩ := bind_eq_ok read
  split at rest
  next inside =>
    cases rest
    exact inside
  next => cases rest

theorem signedWords_ok {tokens : List String} {values : List Int}
    (read : tokens.mapM signedWord = .ok values) :
    values.length = tokens.length ∧ ∀ value ∈ values, Bytes.Fits16 value := by
  induction tokens generalizing values with
  | nil =>
      cases read
      simp
  | cons token rest ih =>
      rw [List.mapM_cons] at read
      obtain ⟨value, first, read⟩ := bind_eq_ok read
      obtain ⟨values, later, read⟩ := bind_eq_ok read
      cases read
      obtain ⟨length, fits⟩ := ih later
      refine ⟨by simp [length], ?_⟩
      intro other member
      cases member with
      | head => exact numberIn_ok first
      | tail _ member => exact fits other member

theorem distance_ok {labels : Labels} {after : Nat} {name : String} {delta : Int}
    (read : distance labels after name = .ok delta) :
    Bytes.Fits16 delta ∧ ∃ target, labels.lookup name = some target ∧ (after : Int) + delta = target := by
  unfold distance at read
  split at read
  next => cases read
  next target defined =>
    dsimp only at read
    split at read
    next near =>
      cases read
      exact ⟨near, target, defined, by omega⟩
    next => cases read

/-! ## Operands -/

section Operands

variable {labels : Labels} {offset : Nat} {given left : List String}

/-- Only argument lists differ in size. -/
theorem eq_args_of_size? {operand : Operand} (unknown : operand.size? = none) :
    operand = .args := by
  cases operand with
  | args => rfl
  | _ => cases unknown

/-- An operand of a fixed size takes one token. -/
theorem readOperand_sized {operand : Operand} {value : operand.Value} {width : Nat}
    (known : operand.size? = some width)
    (read : readOperand labels offset operand given = .ok (value, left)) :
    left.length + 1 = given.length ∧ operand.Fits value ∧ (operand.encode value).length = width := by
  cases given with
  | nil => cases operand <;> cases known <;> cases read
  | cons token rest =>
      cases operand with
      | byte =>
          cases known
          obtain ⟨_, _, ended⟩ := bind_eq_ok read
          cases ended
          exact ⟨rfl, trivial, rfl⟩
      | word =>
          cases known
          obtain ⟨_, _, ended⟩ := bind_eq_ok read
          cases ended
          exact ⟨rfl, trivial, rfl⟩
      | int =>
          cases known
          obtain ⟨_, inside, ended⟩ := bind_eq_ok read
          cases ended
          exact ⟨rfl, numberIn_ok inside, rfl⟩
      | label =>
          cases known
          obtain ⟨_, near, ended⟩ := bind_eq_ok read
          cases ended
          exact ⟨rfl, (distance_ok near).1, rfl⟩
      | args => cases known

theorem readOperand_label {value : Int}
    (read : readOperand labels offset .label given = .ok (value, left)) :
    ∃ name target, labels.lookup name = some target ∧ ((offset + 2 : Nat) : Int) + value = target := by
  cases given with
  | nil => cases read
  | cons token rest =>
      obtain ⟨delta, near, ended⟩ := bind_eq_ok read
      cases ended
      obtain ⟨_, target, defined, far⟩ := distance_ok near
      exact ⟨token, target, defined, far⟩

/-- An argument list is read from all tokens that are left. -/
theorem readOperand_args_eq :
    readOperand labels offset .args given =
      (given.mapM signedWord >>= fun values => pure (values, [])) := by
  cases given <;> rfl

/-- An argument list takes all tokens. -/
theorem readOperand_args {values : List Int}
    (read : readOperand labels offset .args given = .ok (values, left)) :
    left = [] ∧ values.length = given.length ∧ ∀ value ∈ values, Bytes.Fits16 value := by
  rw [readOperand_args_eq] at read
  obtain ⟨found, words, ended⟩ := bind_eq_ok read
  cases ended
  exact ⟨rfl, signedWords_ok words⟩

theorem encode_args_length (values : List Int) :
    (Operand.encode .args values).length = 1 + 2 * values.length := by
  simp only [Operand.encode, Bytes.ofWordLow, List.length_cons, List.length_flatMap,
    List.length_nil, List.map_const', List.sum_replicate_nat]
  omega

/-- **The two readings agree**: operands that the second reading finds have the size that the
first one expects of their tokens. -/
theorem readOperands_ok {operation : Operation} {count width : Nat} {shape : List Operand}
    {operands : Operands shape}
    (sized : operandsSize operation count shape given.length = .ok width)
    (read : readOperands labels shape offset given = .ok operands) :
    Operands.Fit shape operands ∧ (Operands.encode shape operands).length = width := by
  induction shape generalizing offset given width with
  | nil =>
      cases given with
      | nil =>
          cases sized
          exact ⟨trivial, rfl⟩
      | cons => cases sized
  | cons operand rest ih =>
      obtain ⟨⟨value, left⟩, first, read⟩ := bind_eq_ok read
      obtain ⟨values, later, ended⟩ := bind_eq_ok read
      cases ended
      unfold operandsSize at sized
      split at sized
      next size known =>
        obtain ⟨taken, fits, length⟩ := readOperand_sized known first
        rw [← taken] at sized
        obtain ⟨more, expected, rfl⟩ := map_eq_ok sized
        obtain ⟨fit, length'⟩ := ih expected later
        exact ⟨⟨fits, fit⟩, by simp only [Operands.encode, List.length_append, length, length']⟩
      next unknown =>
        obtain rfl := eq_args_of_size? unknown
        obtain ⟨rfl, length, fits⟩ := readOperand_args first
        split at sized
        next few =>
          obtain ⟨more, expected, rfl⟩ := map_eq_ok sized
          have none : operandsSize operation count rest ([] : List String).length = .ok more :=
            expected
          obtain ⟨fit, length'⟩ := ih none later
          refine ⟨⟨⟨Nat.le_trans (Nat.le_of_eq length) few, fits⟩, fit⟩, ?_⟩
          rw [Operands.encode, List.length_append, encode_args_length, length, length']
        next => cases sized

/-- A jump is read from a label, at the right distance from its own end. -/
theorem readOperands_distance {operation : Operation} {operands : Operands operation.shape}
    {distance : Int}
    (read : readOperands labels operation.shape (offset + 1) given = .ok operands)
    (jumps : Instruction.distance? ⟨operation, operands⟩ = some distance) :
    ∃ name target, labels.lookup name = some target ∧
      (offset : Int) + Instruction.size ⟨operation, operands⟩ + distance = target := by
  cases operation with
  | jump =>
      obtain ⟨⟨value, left⟩, first, read⟩ := bind_eq_ok read
      cases read
      cases jumps
      obtain ⟨name, target, defined, far⟩ := readOperand_label first
      exact ⟨name, target, defined, far⟩
  | jumpIfZero =>
      obtain ⟨⟨index, left⟩, _, read⟩ := bind_eq_ok read
      obtain ⟨values, later, ended⟩ := bind_eq_ok read
      cases ended
      obtain ⟨⟨value, left'⟩, second, later⟩ := bind_eq_ok later
      cases later
      cases jumps
      obtain ⟨name, target, defined, far⟩ := readOperand_label second
      exact ⟨name, target, defined, far⟩
  | jumpIfNotZero =>
      obtain ⟨⟨index, left⟩, _, read⟩ := bind_eq_ok read
      obtain ⟨values, later, ended⟩ := bind_eq_ok read
      cases ended
      obtain ⟨⟨value, left'⟩, second, later⟩ := bind_eq_ok later
      cases later
      cases jumps
      obtain ⟨name, target, defined, far⟩ := readOperand_label second
      exact ⟨name, target, defined, far⟩
  | _ => cases jumps

end Operands

/-! ## The first reading -/

/-- What the first reading keeps: every line has a size, the offset is the sum of the sizes,
and every label stands after some of the lines.  Lines are kept last first. -/
structure LaidOut (layout : Layout) : Prop where
  sized : ∀ line ∈ layout.lines, Sized line
  offset : layout.offset = (layout.lines.map expectedSize).sum
  labels : ∀ entry ∈ layout.labels,
    ∃ before, before <:+ layout.lines ∧ entry.2 = (before.map expectedSize).sum

theorem defineLabels_ok {number offset : Nat} {names : List String} {known labels : Labels}
    (defined : defineLabels number offset names known = .ok labels) :
    ∀ entry ∈ labels, entry ∈ known ∨ entry.2 = offset := by
  induction names generalizing known with
  | nil =>
      cases defined
      exact fun _ member => .inl member
  | cons name rest ih =>
      unfold defineLabels at defined
      split at defined
      · cases defined
      · intro entry member
        rcases ih defined entry member with before | here
        · rcases List.mem_append.mp before with before | here
          · exact .inl before
          · cases List.mem_singleton.mp here
            exact .inr rfl
        · exact .inr here

theorem LaidOut.addLine {layout next : Layout} {numbered : List Char × Nat}
    (laid : LaidOut layout) (added : Assembler.addLine layout numbered = .ok next) :
    LaidOut next := by
  obtain ⟨labels, defined, rest⟩ := bind_eq_ok added
  have placed : ∀ entry ∈ labels,
      ∃ before, before <:+ layout.lines ∧ entry.2 = (before.map expectedSize).sum := by
    intro entry member
    rcases defineLabels_ok defined entry member with before | here
    · exact laid.labels entry before
    · exact ⟨layout.lines, List.suffix_refl _, here.trans laid.offset⟩
  split at rest
  next =>
    cases rest
    exact ⟨laid.sized, laid.offset, placed⟩
  next word operands _ =>
    split at rest
    next => cases rest
    next operation _ =>
      split at rest
      next => cases rest
      next width known =>
        cases rest
        obtain ⟨sized, expected⟩ := sized_of_size numbered.2 known
        refine ⟨?_, ?_, ?_⟩
        · intro line member
          cases member with
          | head => exact sized
          | tail _ member => exact laid.sized line member
        · simp only [List.map_cons, List.sum_cons, expected, laid.offset]
          omega
        · intro entry member
          obtain ⟨before, suffix, sum⟩ := placed entry member
          exact ⟨before, suffix.trans (List.suffix_cons _ _), sum⟩

theorem layout_ok {source : String} {found : Layout} (read : layout source = .ok found) :
    LaidOut found :=
  foldlM_kept (fun _ => LaidOut) (fun laid added => laid.addLine added) ⟨by simp, rfl, by simp⟩
    read

/-! ## The second reading -/

/-- What the second reading keeps: the instructions have the sizes that the first reading
expects of their lines, and jumps lead to labels.  Both lists are kept last first. -/
structure WrittenOut (labels : Labels) (lines : List Line) (written : Written) : Prop where
  offset : written.offset = (written.instructions.map (·.size)).sum
  sizes : (∀ line ∈ lines, Sized line) →
    written.instructions.map (·.size) = lines.map expectedSize
  fits : (∀ line ∈ lines, Sized line) → ∀ instruction ∈ written.instructions, instruction.Fits
  jumps : ∀ instruction before distance, instruction :: before <:+ written.instructions →
    instruction.distance? = some distance →
    ∃ name target, labels.lookup name = some target ∧
      (((instruction :: before).map (·.size)).sum : Nat) + distance = target

theorem WrittenOut.readLine {labels : Labels} {lines : List Line} {written next : Written}
    {line : Line} (out : WrittenOut labels lines written)
    (read : Assembler.readLine labels written line = .ok next) :
    WrittenOut labels (line :: lines) next := by
  unfold Assembler.readLine at read
  split at read
  next => cases read
  next operands found =>
    cases read
    have here : Sized line → Instruction.Fits ⟨line.operation, operands⟩ ∧
        Instruction.size ⟨line.operation, operands⟩ = expectedSize line := by
      intro sized
      obtain ⟨width, expected, total⟩ := map_eq_ok sized
      obtain ⟨fit, length⟩ := readOperands_ok expected found
      refine ⟨fit, ?_⟩
      rw [← total, Instruction.size, Instruction.encode, List.length_cons, length, Nat.add_comm]
    refine ⟨?_, ?_, ?_, ?_⟩
    · rw [List.map_cons, List.sum_cons, out.offset, Nat.add_comm]
    · intro sized
      rw [List.map_cons, List.map_cons, (here (sized line (.head _))).2,
        out.sizes fun other member => sized other (.tail _ member)]
    · intro sized instruction member
      cases member with
      | head => exact (here (sized line (.head _))).1
      | tail _ member =>
          exact out.fits (fun other member => sized other (.tail _ member)) instruction member
    · intro instruction before distance suffix jumps
      rcases List.suffix_cons_iff.mp suffix with same | earlier
      · cases same
        obtain ⟨name, target, defined, far⟩ := readOperands_distance found jumps
        refine ⟨name, target, defined, ?_⟩
        rw [out.offset] at far
        rw [List.map_cons, List.sum_cons]
        omega
      · exact out.jumps instruction before distance earlier jumps

/-! ## Whole programs -/

/-- The size of the last instructions of a reversed program is an offset of the program. -/
theorem offset_of_suffix {instructions : List Instruction} {sizes : List Nat}
    (suffix : sizes <:+ instructions.map (·.size)) :
    Program.Boundary instructions.reverse sizes.sum := by
  have short := suffix.length_le
  rw [List.length_map] at short
  refine ⟨sizes.length, by simpa using short, ?_⟩
  rw [Program.offset, List.map_reverse, List.take_reverse, List.sum_reverse, List.length_map]
  have same := List.suffix_iff_eq_drop.mp suffix
  rw [List.length_map] at same
  rw [← same]

/-- The overrides of a text are armed in front of jumps. -/
def OverridesJump (source : String) : Prop :=
  ∀ instructions labels, program source = .ok (instructions, labels) →
    ∀ index instruction, instructions[index]? = some instruction →
      instruction.operation = .beginOverride →
      ∃ next, instructions[index + 1]? = some next ∧ next.operation = .jump

theorem mem_of_lookup {κ α : Type} [BEq κ] [LawfulBEq κ] {entries : List (κ × α)} {key : κ}
    {value : α} (found : entries.lookup key = some value) : (key, value) ∈ entries := by
  obtain ⟨_, _, rfl, _⟩ := List.lookup_eq_some_iff.mp found
  simp

/-- Both readings of a text. -/
theorem program_ok {source : String} {instructions : Program} {labels : Labels}
    (read : program source = .ok (instructions, labels)) :
    ∃ found written, LaidOut found ∧ WrittenOut labels found.lines written ∧
      found.labels = labels ∧ written.instructions.reverse = instructions := by
  obtain ⟨found, laid, rest⟩ := bind_eq_ok read
  obtain ⟨written, out, ended⟩ := bind_eq_ok rest
  cases ended
  have out : WrittenOut found.labels found.lines.reverse.reverse written :=
    foldlM_kept (WrittenOut found.labels) (fun out read => out.readLine read)
      ⟨rfl, fun _ => rfl, by simp, by simp⟩ out
  rw [List.reverse_reverse] at out
  exact ⟨found, written, layout_ok laid, out, rfl, rfl⟩

/-- **Labels stand at boundaries of the program.** -/
theorem program_label {source : String} {instructions : Program} {labels : Labels}
    (read : program source = .ok (instructions, labels)) {name : String} {offset : Nat}
    (defined : labels.lookup name = some offset) : instructions.Boundary offset := by
  obtain ⟨found, written, laid, out, rfl, rfl⟩ := program_ok read
  obtain ⟨before, suffix, rfl⟩ : ∃ before, before <:+ found.lines ∧
      offset = (before.map expectedSize).sum := laid.labels _ (mem_of_lookup defined)
  apply offset_of_suffix
  rw [out.sizes laid.sized]
  exact suffix.map expectedSize

theorem program_fits {source : String} {instructions : Program} {labels : Labels}
    (read : program source = .ok (instructions, labels)) :
    ∀ instruction ∈ instructions, instruction.Fits := by
  obtain ⟨found, written, laid, out, _, rfl⟩ := program_ok read
  intro instruction member
  exact out.fits laid.sized instruction (List.mem_reverse.mp member)

theorem suffix_of_getElem? {instructions : Program} {index : Nat} {instruction : Instruction}
    (found : instructions[index]? = some instruction) :
    instruction :: (instructions.take index).reverse <:+ instructions.reverse := by
  have front : (instructions.take (index + 1)).reverse =
      instruction :: (instructions.take index).reverse := by
    rw [List.take_add_one, found, List.reverse_append]
    rfl
  rw [← front]
  exact List.reverse_suffix.mpr (List.take_prefix _ _)

theorem sum_front {instructions : Program} {index : Nat} {instruction : Instruction}
    (found : instructions[index]? = some instruction) :
    ((instruction :: (instructions.take index).reverse).map (·.size)).sum =
      instructions.offset (index + 1) := by
  rw [Program.offset_succ found, Program.offset, List.map_cons, List.sum_cons, List.map_reverse,
    List.sum_reverse, List.map_take, Nat.add_comm]

/-- **The program of a text is closed** when its overrides are armed in front of jumps. -/
theorem program_closed {source : String} {instructions : Program} {labels : Labels}
    (read : program source = .ok (instructions, labels)) (overrides : OverridesJump source) :
    instructions.Closed where
  fits := program_fits read
  jumps := by
    intro index instruction distance here jumps
    obtain ⟨found, written, laid, out, rfl, rfl⟩ := program_ok read
    have suffix := suffix_of_getElem? here
    rw [List.reverse_reverse] at suffix
    obtain ⟨name, target, defined, far⟩ := out.jumps _ _ distance suffix jumps
    refine ⟨target, program_label read defined, ?_⟩
    rw [← far, sum_front here]
  overrides := overrides _ _ read _ _

/-! ## Reading a program back -/

end Assembler

namespace Operation

theorem ofCode?_code (operation : Operation) : ofCode? operation.code = some operation := by
  cases operation <;> rfl

end Operation

/-- Two instructions in front of the same code are the same: both are read from it. -/
theorem Instruction.eq_of_encode_append {first second : Instruction} {rest rest' : Bytes}
    (fits : first.Fits) (fits' : second.Fits)
    (same : first.encode ++ rest = second.encode ++ rest') : first = second ∧ rest = rest' := by
  obtain ⟨operation, operands⟩ := first
  obtain ⟨operation', operands'⟩ := second
  simp only [encode, List.cons_append, List.cons.injEq] at same
  obtain ⟨opcode, same⟩ := same
  have operations := Operation.ofCode?_code operation
  rw [opcode, Operation.ofCode?_code] at operations
  cases operations
  have read := Code.operands_of_holds fits ⟨[], rest, rfl, rfl⟩
  rw [List.nil_append, same] at read
  have read' := Code.operands_of_holds fits' ⟨[], rest', rfl, rfl⟩
  cases read.symm.trans read'
  exact ⟨rfl, List.append_cancel_left same⟩

namespace Program

/-- What stands at a boundary: an instruction, or the end. -/
theorem Boundary.read {program : Program} (fits : ∀ instruction ∈ program, instruction.Fits)
    {place : Nat} (boundary : program.Boundary place) :
    place = program.code.length ∨
      ∃ index instruction, program[index]? = some instruction ∧ program.offset index = place ∧
        program.code[place]? = some instruction.operation.code ∧
        program.code.operands instruction.operation.shape (place + 1) =
          .ok (instruction.operands, program.offset (index + 1)) := by
  obtain ⟨index, inside, rfl⟩ := boundary
  rcases Nat.eq_or_lt_of_le inside with rfl | less
  · exact .inl program.code_length.symm
  · have found := List.getElem?_eq_getElem less
    obtain ⟨first, rest⟩ := (holds found).cons
    have operands := Code.operands_of_holds (fits _ (List.getElem_mem less)) rest
    refine .inr ⟨index, _, found, rfl, first, ?_⟩
    rw [operands, offset_succ found, Instruction.size, Instruction.encode, List.length_cons]
    congr 2
    omega

/-- Code determines its program. -/
theorem code_injective {first second : Program} (fits : ∀ instruction ∈ first, instruction.Fits)
    (fits' : ∀ instruction ∈ second, instruction.Fits) (same : first.code = second.code) :
    first = second := by
  induction first generalizing second with
  | nil =>
      cases second with
      | nil => rfl
      | cons instruction rest => cases same
  | cons instruction rest ih =>
      cases second with
      | nil => cases same
      | cons other rest' =>
          simp only [code, List.flatMap_cons] at same
          obtain ⟨rfl, later⟩ := Instruction.eq_of_encode_append (fits _ (.head _)) (fits' _ (.head _))
            same
          rw [ih (fun other member => fits other (.tail _ member))
            (fun other member => fits' other (.tail _ member)) later]

end Program

end Adventure
