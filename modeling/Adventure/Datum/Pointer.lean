import Adventure.Datum.Basic

/-!
# Paths into data

A path names one place of a datum: a slash before every step, where a step is a key of
a map or a position in a list.  In a step `~1` stands for a slash and `~0` for a tilde.
-/

set_option autoImplicit false

namespace Adventure.Datum

/-- A step without its escapes. -/
def unescapeStep : List Char → List Char
  | '~' :: '1' :: rest => '/' :: unescapeStep rest
  | '~' :: '0' :: rest => '~' :: unescapeStep rest
  | c :: rest => c :: unescapeStep rest
  | [] => []

/-- The steps of a path. -/
def steps? (path : String) : Option (List String) :=
  if path.isEmpty then some []
  else
    match (path.splitOn "/") with
    | "" :: steps => some (steps.map fun step => String.ofList (unescapeStep step.toList))
    | _ => none

/-- The position that a step names: digits without a zero in front. -/
def position? (step : String) : Option Nat :=
  match step.toList with
  | [] => none
  | ['0'] => some 0
  | digits =>
    if digits.head? != some '0' && digits.all Char.isDigit then
      some (digits.foldl (fun total c => total * 10 + (c.toNat - '0'.toNat)) 0)
    else none

/-- The value at the end of a path. -/
def follow? : List String → Datum → Option Datum
  | [], datum => some datum
  | step :: rest, .map entries => (lookup? entries step).bind (follow? rest)
  | step :: rest, .list items =>
    match position? step with
    | some index => (items[index]?).bind (follow? rest)
    | none => none
  | _ :: _, _ => none

/-- The datum with the value of a key changed; keys that do not occur are an error. -/
def changeKey? (key : String) (change : Datum → Option Datum) :
    List (Datum × Datum) → Option (List (Datum × Datum))
  | [] => none
  | (.text name, value) :: rest =>
    if name = key then (change value).map fun value => (.text name, value) :: rest
    else (changeKey? key change rest).map fun rest => (.text name, value) :: rest
  | entry :: rest => (changeKey? key change rest).map fun rest => entry :: rest

/-- The datum with the value at the end of a path replaced; the path has to exist. -/
def replace? : List String → Datum → Datum → Option Datum
  | [], value, _ => some value
  | step :: rest, value, .map entries =>
    (changeKey? step (fun old => replace? rest value old) entries).map .map
  | step :: rest, value, .list items =>
    match position? step with
    | some index =>
      match items[index]? with
      | some old => (replace? rest value old).map fun new => .list (items.set index new)
      | none => none
    | none => none
  | _ :: _, _, _ => none

end Adventure.Datum
