import Adventure.Proofs.Script.Assembly
import Adventure.Proofs.Script.Numerals

/-!
# Code as a listing of its text

A text names instructions and puts labels between them (`Assembler.items`).  Code lists the
text: it can be read from its start, instruction by instruction (`Code.program?`), and what is
read are the mnemonics and operands of the text in their order (`Lists`), with every label at
the instruction that follows it (`marks`).

The first reading of the assembler fixes the offsets of labels from sizes alone.  They are
right because both readings agree line by line: `layout_gathers` says what the first one
collects, `written_lists` what the second one makes of it.
-/

set_option autoImplicit false

namespace Adventure

/-! ## Reading code from its start -/

/-- A computation that reads code never goes back. -/
structure Fetch.Forward {α : Type} (fetch : Fetch α) : Prop where
  le : ∀ {offset value next}, fetch offset = .ok (value, next) → offset ≤ next

theorem Fetch.Forward.bind {α β : Type} {first : Fetch α} {rest : α → Fetch β}
    (forward : first.Forward) (later : ∀ value, (rest value).Forward) :
    (first >>= rest).Forward where
  le := by
    intro offset value next read
    obtain ⟨_, _, before, after⟩ := Fetch.bind_eq_ok_iff.mp read
    exact Nat.le_trans (forward.le before) ((later _).le after)

theorem Fetch.Forward.pure {α : Type} (value : α) : (Pure.pure value : Fetch α).Forward where
  le := by
    intro offset found next read
    cases read
    exact Nat.le_refl _

namespace Code

variable {code : Code} {offset : Nat}

theorem byte_forward : code.byte.Forward where
  le := fun read => (byte_ok read).1 ▸ Nat.le_succ _

theorem int_forward : code.int.Forward :=
  (byte_forward.bind fun _ => byte_forward.bind fun _ => .pure _).bind fun _ => .pure _

theorem ints_forward (count : Nat) : (code.ints count).Forward := by
  induction count with
  | zero => exact .pure _
  | succ count ih => exact int_forward.bind fun _ => ih.bind fun _ => .pure _

theorem operands_forward (shape : List Operand) : (code.operands shape).Forward := by
  induction shape with
  | nil => exact .pure _
  | cons operand rest ih =>
      refine Fetch.Forward.bind ?_ fun _ => ih.bind fun _ => .pure _
      cases operand with
      | byte => exact byte_forward
      | word => exact byte_forward.bind fun _ => byte_forward.bind fun _ => .pure _
      | int => exact int_forward
      | label => exact int_forward
      | args => exact byte_forward.bind fun count => ints_forward count.toNat

/-- The instruction that starts at an offset, and the offset after it. -/
def decode? (code : Code) (offset : Nat) : Option (Instruction × Nat) :=
  match code.byte offset with
  | .error _ => none
  | .ok (opcode, start) =>
    match Operation.ofCode? opcode with
    | none => none
    | some operation =>
      match code.operands operation.shape start with
      | .error _ => none
      | .ok (operands, after) => some (⟨operation, operands⟩, after)

theorem decode?_forward {instruction : Instruction} {after : Nat}
    (read : code.decode? offset = some (instruction, after)) : offset < after := by
  unfold decode? at read
  split at read
  next => cases read
  next opcode start first =>
    split at read
    next => cases read
    next operation _ =>
      split at read
      next => cases read
      next operands last rest =>
        cases read
        obtain ⟨rfl, -⟩ := byte_ok first
        exact (operands_forward _).le rest

/-- The instructions from an offset to the end of the code, one after the other. -/
def program? (code : Code) (offset : Nat) : Option Program :=
  if code.length ≤ offset then some []
  else
    match _read : code.decode? offset with
    | none => none
    | some (instruction, after) => (code.program? after).map (instruction :: ·)
termination_by code.length - offset
decreasing_by
  have forward := decode?_forward _read
  omega

end Code

namespace Program

variable {program : Program}

theorem offset_lt {index : Nat} {instruction : Instruction}
    (found : program[index]? = some instruction) : program.offset index < program.code.length := by
  have first := (holds found).length_le
  rw [Instruction.encode, List.length_cons] at first
  omega

theorem decode?_offset (fits : ∀ instruction ∈ program, instruction.Fits) {index : Nat}
    {instruction : Instruction} (found : program[index]? = some instruction) :
    program.code.decode? (program.offset index) =
      some (instruction, program.offset (index + 1)) := by
  obtain ⟨first, rest⟩ := (holds found).cons
  have operands := Code.operands_of_holds (fits _ (List.mem_of_getElem? found)) rest
  have size : instruction.size =
      1 + (Operands.encode instruction.operation.shape instruction.operands).length := by
    rw [Instruction.size, Instruction.encode, List.length_cons, Nat.add_comm]
  simp only [Code.decode?, Code.byte_of_getElem? first, Operation.ofCode?_code, operands,
    offset_succ found, size, Nat.add_assoc]

/-- **The code of a program is read as the program**, from any of its instructions on. -/
theorem program?_offset (fits : ∀ instruction ∈ program, instruction.Fits) {index : Nat}
    (inside : index ≤ program.length) :
    program.code.program? (program.offset index) = some (program.drop index) := by
  induction left : program.length - index generalizing index with
  | zero =>
      obtain rfl : index = program.length := by omega
      rw [Code.program?, ← code_length, if_pos (Nat.le_refl _), List.drop_length]
  | succ left ih =>
      have less : index < program.length := by omega
      have found := List.getElem?_eq_getElem less
      rw [Code.program?, if_neg (Nat.not_le.mpr (offset_lt found))]
      split
      next missing => cases (decode?_offset fits found).symm.trans missing
      next instruction after read =>
        cases (decode?_offset fits found).symm.trans read
        rw [ih less (by omega), Option.map_some, ← List.drop_eq_getElem_cons less]

end Program

/-! ## What stands in a text -/

namespace Operation

theorem mnemonic_of_ofMnemonic? {word : String} {operation : Operation}
    (known : ofMnemonic? word = some operation) : operation.mnemonic = word := by
  simpa using List.find?_some known

end Operation

namespace Assembler

/-- A mnemonic and the operands after it, as they are written. -/
structure Statement where
  word : String
  operands : List String
  deriving DecidableEq, Repr

/-- What a text is made of. -/
inductive Item where
  | label (name : String)
  | instruction (statement : Statement)
  deriving DecidableEq, Repr

namespace Item

/-- The statement of an item that is no label. -/
def statement? : Item → Option Statement
  | label _ => none
  | instruction statement => some statement

end Item

/-- The labels of a line, and the statement after them if there is one. -/
def lineItems (line : List Char) : List Item :=
  (splitLine line).1.map .label ++
    match tokens (splitLine line).2 with
    | [] => []
    | word :: operands => [.instruction ⟨word, operands⟩]

/-- The labels and statements of a text, in order. -/
def items (source : String) : List Item := (Text.lines source.toList).flatMap lineItems

/-- The statements among the items of a text. -/
def statements (items : List Item) : List Statement := items.filterMap Item.statement?

/-- The labels among the items of a text, each with the number of statements in front of it,
counted from `index`. -/
def marks : List Item → (index : Nat) → List (String × Nat)
  | [], _ => []
  | .label name :: rest, index => (name, index) :: marks rest index
  | .instruction _ :: rest, index => marks rest (index + 1)

section Items

variable (first second : List Item) (index : Nat)

theorem statements_append : statements (first ++ second) = statements first ++ statements second :=
  List.filterMap_append

theorem statements_labels (names : List String) : statements (names.map .label) = [] := by
  simp [statements, Item.statement?]

theorem marks_append : marks (first ++ second) index =
    marks first index ++ marks second (index + (statements first).length) := by
  induction first generalizing index with
  | nil => rfl
  | cons item rest ih =>
      cases item with
      | label name =>
          rw [List.cons_append, marks, marks, ih, List.cons_append]
          rfl
      | instruction statement =>
          rw [List.cons_append, marks, marks, ih]
          change _ ++ marks second (index + 1 + (statements rest).length) =
            _ ++ marks second (index + ((statements rest).length + 1))
          rw [Nat.add_right_comm, Nat.add_assoc]

theorem marks_labels (names : List String) :
    marks (names.map .label) index = names.map fun name => (name, index) := by
  induction names with
  | nil => rfl
  | cons name rest ih => rw [List.map_cons, marks, ih, List.map_cons]

/-- No label stands after more statements than there are. -/
theorem marks_le : ∀ mark ∈ marks first index, mark.2 ≤ index + (statements first).length := by
  induction first generalizing index with
  | nil => simp [marks]
  | cons item rest ih =>
      cases item with
      | label name =>
          intro mark member
          cases member with
          | head => exact Nat.le_add_right _ _
          | tail _ member => exact ih index mark member
      | instruction statement =>
          intro mark member
          have inside := ih (index + 1) mark member
          change _ ≤ index + ((statements rest).length + 1)
          omega

end Items

/-! ## What the first reading collects -/

/-- The line as it is written. -/
def Line.statement (line : Line) : Statement := ⟨line.operation.mnemonic, line.tokens⟩

/-- A label at the sum of the sizes in front of it. -/
def place (sizes : List Nat) (mark : String × Nat) : String × Nat :=
  (mark.1, (sizes.take mark.2).sum)

/-- The layout collects the items: a line for each statement, and each label after the sizes of
the statements in front of it, no label twice.  Lines are kept last first. -/
structure Gathers (items : List Item) (layout : Layout) : Prop where
  lines : statements items = layout.lines.reverse.map Line.statement
  labels : layout.labels = (marks items 0).map (place (layout.lines.reverse.map expectedSize))
  distinct : (layout.labels.map Prod.fst).Nodup

theorem defineLabels_eq {number offset : Nat} {names : List String} {known labels : Labels}
    (defined : defineLabels number offset names known = .ok labels)
    (distinct : (known.map Prod.fst).Nodup) :
    labels = known ++ names.map (fun name => (name, offset)) ∧ (labels.map Prod.fst).Nodup := by
  induction names generalizing known with
  | nil =>
      cases defined
      exact ⟨by simp, distinct⟩
  | cons name rest ih =>
      unfold defineLabels at defined
      split at defined
      next => cases defined
      next fresh =>
        have unknown : name ∉ known.map Prod.fst := by
          simp only [Bool.not_eq_true, Option.isSome_eq_false_iff, Option.isNone_iff_eq_none,
            List.lookup_eq_none_iff] at fresh
          intro member
          obtain ⟨entry, found, rfl⟩ := List.mem_map.mp member
          simpa using fresh entry found
        have extended : ((known ++ [(name, offset)]).map Prod.fst).Nodup := by
          rw [List.map_append]
          exact distinct.append (List.nodup_singleton _) (by simpa using unknown)
        obtain ⟨same, distinct⟩ := ih defined extended
        exact ⟨by simp [same], distinct⟩

/-- What a line adds to the layout: its labels, and an instruction if it has one. -/
theorem addLine_ok {layout next : Layout} {numbered : List Char × Nat}
    (added : addLine layout numbered = .ok next) : ∃ labels,
    defineLabels numbered.2 layout.offset (splitLine numbered.1).1 layout.labels = .ok labels ∧
    (tokens (splitLine numbered.1).2 = [] ∧ next = { layout with labels := labels } ∨
      ∃ word operands operation width, tokens (splitLine numbered.1).2 = word :: operands ∧
        Operation.ofMnemonic? word = some operation ∧
        size operation operands.length = .ok width ∧
        next = ⟨labels, layout.offset + width, ⟨numbered.2, operation, operands⟩ :: layout.lines⟩) := by
  obtain ⟨labels, defined, rest⟩ := bind_eq_ok added
  refine ⟨labels, defined, ?_⟩
  split at rest
  next empty =>
    cases rest
    exact .inl ⟨empty, rfl⟩
  next word operands found =>
    split at rest
    next => cases rest
    next operation named =>
      split at rest
      next => cases rest
      next width sized =>
        cases rest
        exact .inr ⟨word, operands, operation, width, found, named, sized, rfl⟩

/-- Labels keep their places when more lines follow. -/
theorem place_append {items : List Item} {sizes : List Nat} (more : List Nat)
    (enough : (statements items).length ≤ sizes.length) :
    (marks items 0).map (place (sizes ++ more)) = (marks items 0).map (place sizes) := by
  refine List.map_congr_left fun mark member => ?_
  have inside := marks_le items 0 mark member
  rw [place, place, List.take_append_of_le_length (by omega)]

theorem Gathers.addLine {items : List Item} {layout next : Layout} {numbered : List Char × Nat}
    (gathers : Gathers items layout) (laid : LaidOut layout)
    (added : Assembler.addLine layout numbered = .ok next) :
    Gathers (items ++ lineItems numbered.1) next := by
  obtain ⟨lines, labels, distinct⟩ := gathers
  obtain ⟨known, defined, rest⟩ := addLine_ok added
  obtain ⟨same, distinct⟩ := defineLabels_eq defined distinct
  have count : (statements items).length = layout.lines.length := by
    rw [lines, List.length_map, List.length_reverse]
  have here : (layout.lines.reverse.map expectedSize).sum = layout.offset := by
    rw [laid.offset, List.map_reverse, List.sum_reverse]
  have marked : known = (marks (items ++ (splitLine numbered.1).1.map .label) 0).map
      (place (layout.lines.reverse.map expectedSize)) := by
    rw [same, labels, marks_append, marks_labels, List.map_append, List.map_map]
    congr 1
    refine List.map_congr_left fun name _ => ?_
    rw [Function.comp, place, Nat.zero_add, count, List.take_of_length_le (by simp), here]
  have kept : statements (items ++ (splitLine numbered.1).1.map .label) =
      layout.lines.reverse.map Line.statement := by
    rw [statements_append, statements_labels, List.append_nil, lines]
  rcases rest with ⟨empty, rfl⟩ | ⟨word, operands, operation, width, found, named, sized, rfl⟩
  · rw [lineItems, empty, List.append_nil]
    exact ⟨kept, marked, distinct⟩
  · rw [lineItems, found, ← List.append_assoc]
    refine ⟨?_, ?_, distinct⟩
    · rw [statements_append, kept, List.reverse_cons, List.map_append]
      change _ = _ ++ [(⟨operation.mnemonic, operands⟩ : Statement)]
      rw [Operation.mnemonic_of_ofMnemonic? named]
      rfl
    · rw [marks_append, List.reverse_cons, List.map_append]
      refine marked.trans ?_
      rw [← place_append [_] (by simp [kept]), List.map_append]
      exact (List.append_nil _).symm

/-- **The first reading collects the items of the text.** -/
theorem layout_gathers {source : String} {found : Layout} (read : layout source = .ok found) :
    Gathers (items source) found := by
  have start : Gathers [] ⟨[], 0, []⟩ := ⟨rfl, rfl, List.nodup_nil⟩
  have all := foldlM_kept
    (fun done layout => LaidOut layout ∧
      Gathers (done.reverse.flatMap fun numbered => lineItems numbered.1) layout)
    (fun ⟨laid, gathers⟩ added => by
      refine ⟨laid.addLine added, ?_⟩
      rw [List.reverse_cons, List.flatMap_append, List.flatMap_singleton]
      exact gathers.addLine laid added)
    ⟨⟨by simp, rfl, by simp⟩, start⟩ read
  have gathers := all.2
  rw [List.reverse_reverse] at gathers
  have lines : ((Text.lines source.toList).zipIdx 1).map Prod.fst = Text.lines source.toList := by
    rw [List.zipIdx_map_fst]
  rw [items, ← lines, List.flatMap_map]
  exact gathers

/-! ## What the tokens of a statement stand for -/

/-- The tokens stand for the value of an operand that ends at the offset `after`. -/
def Denotes (labels : Labels) (after : Nat) :
    (operand : Operand) → operand.Value → List String → Prop
  | .byte, value, tokens =>
    ∃ token, tokens = [token] ∧ numeral? token.toList = some (value.toNat : Int)
  | .word, value, tokens =>
    ∃ token, tokens = [token] ∧ numeral? token.toList = some (value.toNat : Int)
  | .int, value, tokens => ∃ token, tokens = [token] ∧ numeral? token.toList = some value
  | .label, distance, tokens => ∃ name target, tokens = [name] ∧
      labels.lookup name = some target ∧ (after : Int) + distance = target
  | .args, values, tokens =>
    List.Forall₂ (fun token value => numeral? token.toList = some value) tokens values

/-- The tokens stand for the operands that start at an offset, one operand after the other. -/
def DenoteAll (labels : Labels) :
    (shape : List Operand) → (offset : Nat) → Operands shape → List String → Prop
  | [], _, _, tokens => tokens = []
  | operand :: rest, offset, values, tokens => ∃ here later, tokens = here ++ later ∧
      Denotes labels (offset + (operand.encode values.1).length) operand values.1 here ∧
      DenoteAll labels rest (offset + (operand.encode values.1).length) values.2 later

/-- The statement stands for the instruction at an offset, whose size is the one that the first
reading counts for it. -/
structure Statement.Denotes (labels : Labels) (offset : Nat) (statement : Statement)
    (instruction : Instruction) : Prop where
  mnemonic : instruction.operation.mnemonic = statement.word
  size : Assembler.size instruction.operation statement.operands.length = .ok instruction.size
  operands : DenoteAll labels instruction.operation.shape (offset + 1) instruction.operands
    statement.operands

/-- The statements stand for the instructions of a program, one after the other from an offset
on. -/
inductive Lists (labels : Labels) : Nat → List Statement → Program → Prop
  | nil (offset : Nat) : Lists labels offset [] []
  | cons {offset : Nat} {statement : Statement} {instruction : Instruction}
      {rest : List Statement} {program : Program}
      (first : statement.Denotes labels offset instruction)
      (later : Lists labels (offset + instruction.size) rest program) :
      Lists labels offset (statement :: rest) (instruction :: program)

/-! ## What the second reading makes of it -/

section Operands

variable {labels : Labels} {offset : Nat} {given left : List String}

theorem numberIn_stands {least greatest value : Int} {token : String}
    (read : numberIn least greatest token = .ok value) : numeral? token.toList = some value := by
  obtain ⟨found, known, rest⟩ := bind_eq_ok read
  split at rest
  next =>
    cases rest
    exact number_ok known
  next => cases rest

theorem signedWords_stand {values : List Int} (read : given.mapM signedWord = .ok values) :
    List.Forall₂ (fun token value => numeral? token.toList = some value) given values := by
  induction given generalizing values with
  | nil =>
      cases read
      exact .nil
  | cons token rest ih =>
      rw [List.mapM_cons] at read
      obtain ⟨value, first, read⟩ := bind_eq_ok read
      obtain ⟨values, later, read⟩ := bind_eq_ok read
      cases read
      exact .cons (numberIn_stands first) (ih later)

/-- An operand is read from the tokens in front that stand for it. -/
theorem readOperand_denotes {operand : Operand} {value : operand.Value}
    (read : readOperand labels offset operand given = .ok (value, left)) :
    ∃ here, given = here ++ left ∧
      Denotes labels (offset + (operand.encode value).length) operand value here := by
  cases operand with
  | args =>
      rw [readOperand_args_eq] at read
      obtain ⟨found, words, ended⟩ := bind_eq_ok read
      cases ended
      exact ⟨given, (List.append_nil _).symm, signedWords_stand words⟩
  | byte =>
      cases given with
      | nil => cases read
      | cons token rest =>
          obtain ⟨found, inside, ended⟩ := bind_eq_ok read
          obtain ⟨low, high⟩ := numberIn_ok inside
          cases ended
          have same : ((UInt8.ofNat found.toNat).toNat : Int) = found := by
            rw [UInt8.toNat_ofNat_of_lt' (show found.toNat < 256 by omega)]
            omega
          exact ⟨[token], rfl, token, rfl, (numberIn_stands inside).trans (congrArg some same.symm)⟩
  | word =>
      cases given with
      | nil => cases read
      | cons token rest =>
          obtain ⟨found, inside, ended⟩ := bind_eq_ok read
          obtain ⟨low, high⟩ := numberIn_ok inside
          cases ended
          have same : ((UInt16.ofNat found.toNat).toNat : Int) = found := by
            rw [UInt16.toNat_ofNat_of_lt' (show found.toNat < 65536 by omega)]
            omega
          exact ⟨[token], rfl, token, rfl, (numberIn_stands inside).trans (congrArg some same.symm)⟩
  | int =>
      cases given with
      | nil => cases read
      | cons token rest =>
          obtain ⟨found, inside, ended⟩ := bind_eq_ok read
          cases ended
          exact ⟨[token], rfl, token, rfl, numberIn_stands inside⟩
  | label =>
      cases given with
      | nil => cases read
      | cons token rest =>
          obtain ⟨found, near, ended⟩ := bind_eq_ok read
          cases ended
          obtain ⟨-, target, defined, far⟩ := distance_ok near
          exact ⟨[token], rfl, token, target, rfl, defined, far⟩

/-- Without tokens there are no labels, so the offset does not matter. -/
theorem readOperands_none {shape : List Operand} {operands : Operands shape}
    (read : readOperands labels shape offset [] = .ok operands) (place : Nat) :
    DenoteAll labels shape place operands [] := by
  induction shape generalizing offset place with
  | nil => rfl
  | cons operand rest ih =>
      obtain ⟨⟨value, left⟩, first, read⟩ := bind_eq_ok read
      obtain ⟨values, later, ended⟩ := bind_eq_ok read
      cases ended
      cases operand with
      | args =>
          cases first
          exact ⟨[], [], rfl, .nil, ih later _⟩
      | _ => cases first

/-- **Operands are read from the tokens that stand for them**, all tokens of the statement. -/
theorem readOperands_denote {operation : Operation} {count width : Nat} {shape : List Operand}
    {operands : Operands shape}
    (sized : operandsSize operation count shape given.length = .ok width)
    (read : readOperands labels shape offset given = .ok operands) :
    DenoteAll labels shape offset operands given := by
  induction shape generalizing offset given width with
  | nil =>
      cases given with
      | nil => rfl
      | cons => cases sized
  | cons operand rest ih =>
      obtain ⟨⟨value, left⟩, first, read⟩ := bind_eq_ok read
      obtain ⟨values, later, ended⟩ := bind_eq_ok read
      cases ended
      obtain ⟨here, parts, denotes⟩ := readOperand_denotes first
      refine ⟨here, left, parts, denotes, ?_⟩
      unfold operandsSize at sized
      split at sized
      next size known =>
        obtain ⟨taken, -, length⟩ := readOperand_sized known first
        rw [← taken] at sized
        obtain ⟨more, expected, -⟩ := map_eq_ok sized
        rw [known, Option.getD_some, ← length] at later
        exact ih expected later
      next unknown =>
        obtain rfl := eq_args_of_size? unknown
        obtain ⟨rfl, -, -⟩ := readOperand_args first
        exact readOperands_none later _

end Operands

/-- **The second reading lists the lines** from its offset on. -/
theorem written_lists {labels : Labels} {lines : List Line} {written last : Written}
    (sized : ∀ line ∈ lines, Sized line)
    (read : lines.foldlM (readLine labels) written = .ok last) :
    ∃ program : Program, last.instructions = program.reverse ++ written.instructions ∧
      Lists labels written.offset (lines.map Line.statement) program ∧
      program.map (·.size) = lines.map expectedSize := by
  induction lines generalizing written with
  | nil =>
      cases read
      exact ⟨[], rfl, .nil _, rfl⟩
  | cons line rest ih =>
      rw [List.foldlM_cons] at read
      obtain ⟨next, first, later⟩ := bind_eq_ok read
      unfold readLine at first
      split at first
      next => cases first
      next operands found =>
        cases first
        obtain ⟨program, instructions, lists, sizes⟩ :=
          ih (fun other member => sized other (.tail _ member)) later
        have here := sized line (.head _)
        obtain ⟨width, expected, total⟩ := map_eq_ok here
        obtain ⟨-, length⟩ := readOperands_ok expected found
        have size : Instruction.size ⟨line.operation, operands⟩ = expectedSize line := by
          rw [Instruction.size, Instruction.encode, List.length_cons, length, Nat.add_comm, total]
        refine ⟨⟨line.operation, operands⟩ :: program, ?_, .cons ⟨rfl, ?_, ?_⟩ lists, ?_⟩
        · rw [instructions, List.reverse_cons, List.append_assoc, List.singleton_append]
        · rw [size]
          exact here
        · exact readOperands_denote expected found
        · rw [List.map_cons, List.map_cons, size, sizes]

/-- **Accepted text is listed by its code.**  The code is one encoding after the other, and it
reads back, from its start to its end, as the mnemonics and operands of the text.  Every label
stands at the instruction that follows it, or at the end of the code. -/
theorem assemble_lists {source : String} {assembled : Assembled}
    (accepted : assemble source = .ok assembled) : ∃ program : Program,
    assembled.code = program.code ∧
    assembled.code.program? 0 = some program ∧
    Lists assembled.labels 0 (statements (items source)) program ∧
    assembled.labels =
      (marks (items source) 0).map (fun mark => (mark.1, program.offset mark.2)) ∧
    (assembled.labels.map Prod.fst).Nodup := by
  obtain ⟨⟨instructions, labels⟩, read, ended⟩ := bind_eq_ok accepted
  cases ended
  have fits := program_fits read
  obtain ⟨found, laid, rest⟩ := bind_eq_ok read
  obtain ⟨written, out, ended⟩ := bind_eq_ok rest
  cases ended
  have gathers := layout_gathers laid
  have sized : ∀ line ∈ found.lines.reverse, Sized line := fun line member =>
    (layout_ok laid).sized line (List.mem_reverse.mp member)
  obtain ⟨program, reversed, lists, sizes⟩ := written_lists sized out
  obtain rfl : written.instructions.reverse = program := by simp [reversed]
  refine ⟨written.instructions.reverse, rfl, ?_, ?_, ?_, gathers.distinct⟩
  · exact Program.program?_offset fits (Nat.zero_le written.instructions.reverse.length)
  · rw [gathers.lines]
    exact lists
  · rw [gathers.labels, ← sizes]
    rfl

/-- A text with a label in front and one at the end, a jump each way and a list of arguments. -/
def roundText : String :=
  "top: delay 0x102 ; wait\n jump-if-zero 2, out\n jump top\n begin-cutscene 1 -1\nout:"

/-- Its code is read back as its four statements. -/
theorem assemble_lists_roundText : ∃ assembled,
    assemble roundText = .ok assembled ∧
    ∃ program : Program, assembled.code.program? 0 = some program ∧
      Lists assembled.labels 0
        [⟨"delay", ["0x102"]⟩, ⟨"jump-if-zero", ["2", "out"]⟩, ⟨"jump", ["top"]⟩,
          ⟨"begin-cutscene", ["1", "-1"]⟩] program ∧
      assembled.labels = [("top", program.offset 0), ("out", program.offset 4)] := by
  have accepted : assemble roundText = .ok
      ⟨[2, 2, 1, 6, 2, 9, 0, 3, 246, 255, 12, 2, 1, 0, 255, 255], [("top", 0), ("out", 16)]⟩ := by
    decide +kernel
  have written : items roundText =
      [.label "top", .instruction ⟨"delay", ["0x102"]⟩,
        .instruction ⟨"jump-if-zero", ["2", "out"]⟩, .instruction ⟨"jump", ["top"]⟩,
        .instruction ⟨"begin-cutscene", ["1", "-1"]⟩, .label "out"] := by decide +kernel
  obtain ⟨program, -, read, lists, labels, -⟩ := assemble_lists accepted
  rw [written] at lists labels
  exact ⟨_, accepted, program, read, lists, labels⟩

end Assembler

end Adventure
