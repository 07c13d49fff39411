import Adventure.Data.Checked
import Adventure.Data.Digits
import Adventure.Script.Instruction
import Adventure.Text.Blank

/-!
# The assembler

Assembly text has one instruction a line: a mnemonic, then operands separated by
blanks or commas.  `name:` in front of an instruction marks its offset with a
label, and `;` starts a comment.  Numbers are decimal or, after `0x`, hexadecimal,
and may be negative.

The text is read twice.  The first reading finds the instructions and the offset of
every label, for which it only needs the number of operands; the second reads the
operands, where labels become distances.
-/

set_option autoImplicit false

namespace Adventure.Assembler

/-! ## What can be wrong -/

/-- What can be wrong with the operands of an instruction. -/
inductive Cause where
  | tooFew (operation : Operation) (given : Nat)
  | tooMany (operation : Operation) (given : Nat)
  | tooManyArguments
  | missingOperand
  | badNumber (token : String) (error : Digits.ReadError)
  | outOfRange (value least greatest : Int)
  | unknownLabel (name : String)
  | labelTooFar (name : String)
  /-- The number has no negative in its word. -/
  | fault (fault : Fault)
  deriving DecidableEq, Repr

/-- What can be wrong with a text. -/
inductive Error where
  | labelTwice (line : Nat) (label : String)
  | unknownMnemonic (line : Nat) (word : String)
  | inLine (line : Nat) (cause : Cause)
  deriving DecidableEq, Repr

namespace Cause

/-- The causes of a failure, outermost first. -/
def trail : Cause → List String
  | tooFew operation given =>
    [s!"'{operation.mnemonic}' expects {operation.shape.length} operands, got {given}"]
  | tooMany operation given =>
    [s!"'{operation.mnemonic}' takes {operation.shape.length} operands, got {given}"]
  | tooManyArguments => ["too many arguments"]
  | missingOperand => ["missing operand"]
  | badNumber token error => [s!"invalid number '{token}'", error.message]
  | outOfRange value least greatest => [s!"{value} does not fit in {least}..={greatest}"]
  | unknownLabel name => [s!"unknown label '{name}'"]
  | labelTooFar name => [s!"label '{name}' out of jump range"]
  | fault _ => ["arithmetic overflow"]

end Cause

namespace Error

/-- The causes of a failure, outermost first. -/
def trail : Error → List String
  | labelTwice line label => [s!"line {line}: label '{label}' defined twice"]
  | unknownMnemonic line word => [s!"line {line}: unknown mnemonic '{word}'"]
  | inLine line cause => s!"line {line}" :: cause.trail

/-- The arithmetic fault behind an error, if there is one. -/
def fault? : Error → Option Fault
  | inLine _ (.fault fault) => some fault
  | _ => none

end Error

/-! ## The first reading -/

/-- An instruction whose operands have not been read yet. -/
structure Line where
  number : Nat
  operation : Operation
  tokens : List String
  deriving DecidableEq, Repr

/-- Whether a character may occur in a label. -/
def isLabelChar (c : Char) : Bool := c.isAlphanum || c == '_' || c == '-'

/-- Whether a text is a label: not empty, and no digit in front. -/
def isLabel (text : List Char) : Bool :=
  match text with
  | [] => false
  | first :: _ => !first.isDigit && text.all isLabelChar

/-- Joins the pieces that were separated by colons. -/
def joinColons : List (List Char) → List Char
  | [] => []
  | [last] => last
  | piece :: rest => piece ++ ':' :: joinColons rest

/-- Splits the pieces between colons into labels in front and the text after them. -/
def peelLabels : List (List Char) → List String × List Char
  | [] => ([], [])
  | [last] => ([], Text.trim last)
  | piece :: rest =>
    if isLabel (Text.trim piece) then
      let (labels, text) := peelLabels rest
      (String.ofList (Text.trim piece) :: labels, text)
    else ([], Text.trim (joinColons (piece :: rest)))

/-- The labels of a line and the text after them, without the comment. -/
def splitLine (line : List Char) : List String × List Char :=
  peelLabels (Text.pieces (· == ':') (Text.trim (line.takeWhile (· != ';'))))

/-- The words of a text, separated by blanks and commas. -/
def tokens (text : List Char) : List String :=
  ((Text.pieces (fun c => Text.isBlank c || c == ',') text).filter (!·.isEmpty)).map String.ofList

/-- The size of operands with a given number of tokens left. -/
def operandsSize (operation : Operation) (given : Nat) : List Operand → Nat → Except Cause Nat
  | [], 0 => .ok 0
  | [], _ + 1 => .error (.tooMany operation given)
  | operand :: rest, left =>
    match operand.size? with
    | some size =>
      match left with
      | 0 => .error (.tooFew operation given)
      | fewer + 1 => (operandsSize operation given rest fewer).map (size + ·)
    | none =>
      if left ≤ 255 then (operandsSize operation given rest 0).map (1 + 2 * left + ·)
      else .error .tooManyArguments

/-- The size of an instruction with a given number of tokens. -/
def size (operation : Operation) (given : Nat) : Except Cause Nat :=
  (operandsSize operation given operation.shape given).map (1 + ·)

/-- The offsets of labels, in the order of their definition. -/
abbrev Labels := List (String × Nat)

/-- What the first reading has found so far; lines are kept last first. -/
structure Layout where
  labels : Labels
  offset : Nat
  lines : List Line
  deriving DecidableEq, Repr

/-- Adds labels at an offset. -/
def defineLabels (number offset : Nat) : List String → Labels → Except Error Labels
  | [], known => .ok known
  | label :: rest, known =>
    if (known.lookup label).isSome then .error (.labelTwice number label)
    else defineLabels number offset rest (known ++ [(label, offset)])

/-- Takes one line of text into the layout. -/
def addLine (layout : Layout) (numbered : List Char × Nat) : Except Error Layout := do
  let (line, number) := numbered
  let (names, text) := splitLine line
  let labels ← defineLabels number layout.offset names layout.labels
  match tokens text with
  | [] => pure { layout with labels := labels }
  | word :: operands =>
    match Operation.ofMnemonic? word with
    | none => .error (.unknownMnemonic number word)
    | some operation =>
      match size operation operands.length with
      | .error cause => .error (.inLine number cause)
      | .ok size =>
        pure ⟨labels, layout.offset + size, ⟨number, operation, operands⟩ :: layout.lines⟩

/-- The instructions and labels of a text. -/
def layout (source : String) : Except Error Layout :=
  ((Text.lines source.toList).zipIdx 1).foldlM addLine ⟨[], 0, []⟩

/-! ## The second reading -/

/-- Reads a number. -/
def number (token : String) : Except Cause Int :=
  let (negative, digits) :=
    match token.toList with
    | '-' :: rest => (true, rest)
    | all => (false, all)
  let magnitude :=
    match digits with
    | '0' :: 'x' :: hex => Digits.int64 16 hex
    | '0' :: 'X' :: hex => Digits.int64 16 hex
    | decimal => Digits.int64 10 decimal
  match magnitude with
  | .error error => .error (.badNumber token error)
  | .ok value => if negative then (Word.int64 (-value)).mapError .fault else .ok value

/-- Reads a number of a given range. -/
def numberIn (least greatest : Int) (token : String) : Except Cause Int := do
  let value ← number token
  if least ≤ value ∧ value ≤ greatest then pure value
  else .error (.outOfRange value least greatest)

/-- Reads a signed word. -/
def signedWord (token : String) : Except Cause Int := numberIn (-32768) 32767 token

/-- Reads a label as a distance from the offset `after`. -/
def distance (labels : Labels) (after : Nat) (name : String) : Except Cause Int :=
  match labels.lookup name with
  | none => .error (.unknownLabel name)
  | some target =>
    let delta : Int := (target : Int) - after
    if -32768 ≤ delta ∧ delta ≤ 32767 then .ok delta else .error (.labelTooFar name)

/-- Reads one operand that starts at an offset; gives the tokens that are left. -/
def readOperand (labels : Labels) (offset : Nat) :
    (operand : Operand) → List String → Except Cause (operand.Value × List String)
  | .args, given => do
    let values ← given.mapM signedWord
    pure (values, [])
  | _, [] => .error .missingOperand
  | .byte, token :: rest => do
    let value ← numberIn 0 255 token
    pure (UInt8.ofNat value.toNat, rest)
  | .word, token :: rest => do
    let value ← numberIn 0 65535 token
    pure (UInt16.ofNat value.toNat, rest)
  | .int, token :: rest => do
    let value ← signedWord token
    pure (value, rest)
  | .label, token :: rest => do
    let delta ← distance labels (offset + 2) token
    pure (delta, rest)

/-- Reads the operands that start at an offset. -/
def readOperands (labels : Labels) :
    (shape : List Operand) → (offset : Nat) → List String → Except Cause (Operands shape)
  | [], _, _ => .ok ()
  | operand :: rest, offset, given => do
    let (value, left) ← readOperand labels offset operand given
    let values ← readOperands labels rest (offset + (operand.size?.getD 0)) left
    pure (value, values)

/-- The instructions read so far, last first, and the offset after them. -/
structure Written where
  offset : Nat
  instructions : List Instruction

/-- Reads the operands of one more line. -/
def readLine (labels : Labels) (written : Written) (line : Line) : Except Error Written :=
  match readOperands labels line.operation.shape (written.offset + 1) line.tokens with
  | .error cause => .error (.inLine line.number cause)
  | .ok operands =>
    let instruction : Instruction := ⟨line.operation, operands⟩
    .ok ⟨written.offset + instruction.encode.length, instruction :: written.instructions⟩

/-- The instructions of a text and the offsets of its labels. -/
def program (source : String) : Except Error (List Instruction × Labels) := do
  let found ← layout source
  let written ← found.lines.reverse.foldlM (readLine found.labels) ⟨0, []⟩
  pure (written.instructions.reverse, found.labels)

/-- Assembled code with the offsets of its labels. -/
structure Assembled where
  code : Code
  labels : Labels
  deriving DecidableEq, Repr

/-- Assembles a text. -/
def assemble (source : String) : Except Error Assembled := do
  let (instructions, labels) ← program source
  pure ⟨instructions.flatMap (·.encode), labels⟩

end Adventure.Assembler
