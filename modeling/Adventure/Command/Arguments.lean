import Adventure.Data.Digits

/-!
# Command line arguments

Arguments are read from left to right.  An option has a long name after two dashes; its
value follows an equals sign or is the next argument, and then must not look like an
option itself.  Every option may be given once.  After two dashes alone all arguments
are operands.  The first argument that cannot be read ends the reading.
-/

set_option autoImplicit false

namespace Adventure.Arguments

/-- What an option takes. -/
inductive Takes where
  | nothing
  /-- A path that is not empty. -/
  | path
  /-- A whole number up to a limit. -/
  | number (limit : Nat)
  deriving DecidableEq, Repr

/-- An option: its name without dashes and what it takes. -/
structure OptionSpec where
  name : String
  takes : Takes
  deriving DecidableEq, Repr

/-- What a command line may hold. -/
structure Grammar where
  options : List OptionSpec
  /-- The greatest number of operands. -/
  operands : Nat

/-- Why reading ends without arguments. -/
inductive Stop where
  | help
  | version
  | misuse
  deriving DecidableEq, Repr

/-- The arguments of a command line. -/
structure Given where
  /-- Options with their values, in order. -/
  options : List (String × String)
  operands : List String
  deriving DecidableEq, Repr

namespace Given

/-- No arguments. -/
def none : Given := ⟨[], []⟩

/-- The value of an option. -/
def value? (given : Given) (name : String) : Option String := given.options.lookup name

/-- Whether an option is given. -/
def has (given : Given) (name : String) : Bool := (given.value? name).isSome

/-- The value of an option that takes a number. -/
def number? (given : Given) (name : String) : Option Nat :=
  match given.value? name with
  | some text =>
    match Digits.int64 10 text.toList with
    | .ok value => some value.toNat
    | .error _ => Option.none
  | Option.none => Option.none

end Given

/-- Whether a value fits what an option takes. -/
def Takes.accepts : Takes → String → Bool
  | nothing, _ => false
  | path, value => !value.isEmpty
  | number limit, value =>
    match Digits.int64 10 value.toList with
    | .ok count => decide (0 ≤ count ∧ count ≤ limit)
    | .error _ => false

/-- Adds an option with its value. -/
def addOption (option : OptionSpec) (value : String) (given : Given) : Except Stop Given :=
  if given.has option.name then .error .misuse
  else .ok { given with options := given.options ++ [(option.name, value)] }

/-- Adds the value of an option that takes one. -/
def addValue (option : OptionSpec) (value : String) (given : Given) : Except Stop Given :=
  if option.takes.accepts value then addOption option value given else .error .misuse

/-- Adds an operand. -/
def addOperand (grammar : Grammar) (value : String) (given : Given) : Except Stop Given :=
  if given.operands.length < grammar.operands ∧ value.isEmpty = false then
    .ok { given with operands := given.operands ++ [value] }
  else .error .misuse

/-- What one argument asks for. -/
inductive Item where
  /-- Two dashes alone. -/
  | divider
  | long (name : String) (value : Option String)
  | short (letters : List Char)
  | operand (value : String)
  deriving DecidableEq, Repr

/-- Splits a text at its first equals sign. -/
def splitValue (text : List Char) : String × Option String :=
  match text.dropWhile (· != '=') with
  | [] => (String.ofList text, none)
  | _ :: value => (String.ofList (text.takeWhile (· != '=')), some (String.ofList value))

/-- Reads the form of one argument.  A single dash is an operand. -/
def Item.ofText (text : String) : Item :=
  match text.toList with
  | ['-', '-'] => .divider
  | '-' :: '-' :: rest =>
    let (name, value) := splitValue rest
    .long name value
  | '-' :: first :: rest => .short (first :: rest)
  | _ => .operand text

/-- What a letter after one dash asks for. -/
def shortStop : List Char → Stop
  | 'h' :: _ => .help
  | 'V' :: _ => .version
  | _ => .misuse

/-- Takes a long option without waiting for its value: gives the option whose value is
still to come, if there is one. -/
def addLong (grammar : Grammar) (name : String) (value : Option String) (given : Given) :
    Except Stop (Given × Option OptionSpec) :=
  if name = "help" then .error (if value.isNone then .help else .misuse)
  else if name = "version" then .error (if value.isNone then .version else .misuse)
  else
    match grammar.options.find? (fun option => option.name == name), value with
    | none, _ => .error .misuse
    | some option, some value => (addValue option value given).map fun given => (given, none)
    | some option, none =>
      if option.takes = .nothing then (addOption option "" given).map fun given => (given, none)
      else .ok (given, some option)

/-- Reads arguments.  `waiting` is an option whose value has to come next. -/
def readFrom (grammar : Grammar) :
    List String → (waiting : Option OptionSpec) → Given → Except Stop Given
  | [], none, given => .ok given
  | [], some _, _ => .error .misuse
  | argument :: rest, some option, given =>
    match Item.ofText argument with
    | .operand value =>
      match addValue option value given with
      | .ok given => readFrom grammar rest none given
      | .error stop => .error stop
    | _ => .error .misuse
  | argument :: rest, none, given =>
    match Item.ofText argument with
    | .divider => rest.foldlM (fun given value => addOperand grammar value given) given
    | .long name value =>
      match addLong grammar name value given with
      | .ok (given, waiting) => readFrom grammar rest waiting given
      | .error stop => .error stop
    | .short letters => .error (shortStop letters)
    | .operand value =>
      match addOperand grammar value given with
      | .ok given => readFrom grammar rest none given
      | .error stop => .error stop

/-- Reads a command line. -/
def read (grammar : Grammar) (arguments : List String) : Except Stop Given :=
  readFrom grammar arguments none .none

end Adventure.Arguments
