import Adventure.Command.Arguments
import Adventure.Data.Checked
import Adventure.Files.Tree

/-!
# Running a command

A command reads and writes files, prints to two channels and ends with an exit code.
What a disk is, is left open: commands run on any monad with a way to read and write
files, such as a tree of files in memory.
-/

set_option autoImplicit false

namespace Adventure.Command

/-- A way to read and write files. -/
structure Disk (m : Type → Type) where
  read : String → m (Except FileError Bytes)
  write : String → Bytes → m (Except FileError Unit)

/-- The disk that is a tree of files. -/
def Disk.ofTree : Disk (StateM FileTree) where
  read := fun path tree => (tree.read path, tree)
  write := fun path content tree =>
    match tree.write path content with
    | .ok tree => (.ok (), tree)
    | .error error => (.error error, tree)

/-- What a command has printed. -/
structure Printed where
  out : String
  err : String

/-- Why a command ends early. -/
inductive Ending where
  /-- Nothing is left to do. -/
  | finished
  /-- The command line cannot be read. -/
  | misuse
  /-- Something went wrong; the causes are given outermost first. -/
  | failed (trail : List String)
  /-- A number left its word. -/
  | crashed

/-- A command under way. -/
abbrev Session (m : Type → Type) := ExceptT Ending (StateT Printed m)

variable {m : Type → Type} [Monad m]

/-- Prints a line. -/
def sayLine (text : String) : Session m Unit :=
  modify fun printed => { printed with out := printed.out ++ text ++ "\n" }

/-- Prints a line on the channel for remarks. -/
def remark (text : String) : Session m Unit :=
  modify fun printed => { printed with err := printed.err ++ text ++ "\n" }

/-- Ends with a list of causes, outermost first. -/
def fail {α : Type} (trail : List String) : Session m α := throw (.failed trail)

/-- Reads a file, or ends with what was tried. -/
def readFile (disk : Disk m) (trying path : String) : Session m Bytes := do
  match ← (disk.read path : m _) with
  | .ok content => pure content
  | .error error => fail [s!"{trying} {path}", error.message]

/-- Writes a file, or ends with what was tried. -/
def writeFile (disk : Disk m) (trying path : String) (content : Bytes) : Session m Unit := do
  match ← (disk.write path content : m _) with
  | .ok () => pure ()
  | .error error => fail [s!"{trying} {path}", error.message]

/-- What is left of a command: its exit code and what it has printed. -/
structure Outcome where
  exit : Nat
  out : String
  err : String
  deriving DecidableEq, Repr

/-- A text whose later lines are indented like its first one. -/
def indented (indent text : String) : String :=
  ("\n" ++ indent).intercalate (text.splitOn "\n")

/-- The causes of a failure as they are printed.  Several causes are numbered. -/
def trailText : List String → String
  | [] => ""
  | [only] => s!"Error: {only}\n"
  | [first, cause] =>
    let shown := indented "    " cause
    s!"Error: {first}\n\nCaused by:\n    {shown}\n"
  | first :: causes =>
    s!"Error: {first}\n\nCaused by:\n" ++
      String.join (causes.zipIdx.map fun entry =>
        Digits.padLeft 5 ' ' (toString entry.2) ++ ": " ++ indented "       " entry.1 ++ "\n")

/-- Runs a command to its end. -/
def run (session : Session m Unit) : m Outcome := do
  let (result, printed) ← StateT.run (ExceptT.run session) ⟨"", ""⟩
  match result with
  | .ok () => pure ⟨0, printed.out, printed.err⟩
  | .error .finished => pure ⟨0, printed.out, printed.err⟩
  | .error .misuse => pure ⟨2, "", ""⟩
  | .error (.failed trail) => pure ⟨1, printed.out, printed.err ++ trailText trail⟩
  | .error .crashed => pure ⟨101, printed.out, printed.err⟩

/-- Reads the command line.  Help and version are printed at once. -/
def arguments (grammar : Arguments.Grammar) (help version : String) (given : List String) :
    Session m Arguments.Given :=
  match Arguments.read grammar given with
  | .ok given => pure given
  | .error .misuse => throw .misuse
  | .error .help => do
    sayLine help
    throw .finished
  | .error .version => do
    sayLine version
    throw .finished

end Adventure.Command
