/-!
# Paths of files

Paths are texts whose steps are separated by slashes.  A path that starts with a slash
does not depend on where it is used.
-/

set_option autoImplicit false

namespace Adventure.Path

/-- Whether a path does not depend on where it is used. -/
def isAbsolute (path : String) : Bool := path.toList.head? == some '/'

/-- A path as seen from a directory. -/
def join (directory path : String) : String :=
  if isAbsolute path || directory.isEmpty then path
  else if directory.toList.getLast? == some '/' then directory ++ path
  else directory ++ "/" ++ path

/-- Removes what does not change a path from its reversed text: slashes and single dots
at its end. -/
def trimEnd : List Char → List Char
  | '/' :: [] => ['/']
  | '/' :: rest => trimEnd rest
  | '.' :: '/' :: [] => ['/']
  | '.' :: '/' :: rest => trimEnd rest
  | reversed => reversed

/-- The directory of a path; empty for a single step. -/
def parent (path : String) : String :=
  let withoutLast := (trimEnd path.toList.reverse).dropWhile (· != '/')
  String.ofList (trimEnd withoutLast).reverse

/-- The steps of a path.  Several slashes in a row separate like one, and a slash in front
is a step of its own. -/
def steps (path : String) : List String :=
  let named := (path.splitOn "/").filter fun step => !step.isEmpty
  if isAbsolute path then "/" :: named else named

/-- Whether a path can only be a directory, because a slash ends it. -/
def endsInSlash (path : String) : Bool := path.toList.getLast? == some '/'

/-! ## Places

A place is the shortest list of steps that leads to it: names, after as many steps of two
dots as it takes to leave the directory where paths start, or after the topmost directory. -/

/-- Whether a place is the topmost directory, the directory where paths start, or one
above it. -/
def isGround (place : List String) : Bool := place == ["/"] || place.all (· == "..")

/-- The directory that a place is in.  The topmost directory is in itself. -/
def above (place : List String) : List String :=
  if place == ["/"] then place
  else if place.all (· == "..") then place ++ [".."]
  else place.dropLast

/-- The place that one step leads to. -/
def follow (place : List String) (step : String) : List String :=
  if step = "/" then ["/"]
  else if step = "." then place
  else if step = ".." then above place
  else place ++ [step]

/-- The place that a path leads to when every directory on it is there. -/
def place (path : String) : List String := (steps path).foldl follow []

end Adventure.Path
