import Adventure.Files.Path
import Adventure.Save.Header

/-!
# Trees of files

A tree of files in memory.  A file is listed under the place it is at, and the
directories of a tree are those that its files are in, together with the directory where
paths start and those above it.  Reading and writing fail the way they do on a disk: a
step that is not there, a file where a directory should be, or the other way round, a
name that is too long.  One file is always there and always empty, whatever is written
to it.
-/

set_option autoImplicit false

namespace Adventure

/-- Files by the places they are at. -/
abbrev FileTree := List (List String × Bytes)

namespace FileTree

/-- What stands at a place. -/
inductive Node where
  | file (content : Bytes)
  | directory

/-- How many bytes a name may have. -/
def nameLimit : Nat := 255

/-- How many bytes a path may have. -/
def pathLimit : Nat := 4095

/-- The place of the file that stays empty. -/
def sink : List String := ["/", "dev", "null"]

/-- Whether something lies below a place. -/
def isAbove (tree : FileTree) (place : List String) : Bool :=
  Path.isGround place || place.isPrefixOf sink || tree.any fun entry => place.isPrefixOf entry.1

/-- What stands at a place. -/
def node? (tree : FileTree) (place : List String) : Option Node :=
  if place = sink then some (.file [])
  else
    match tree.lookup place with
    | some content => some (.file content)
    | none => if tree.isAbove place then some .directory else none

/-- Takes one step from a place, which has to be a directory. -/
def step (tree : FileTree) (place : List String) (step : String) :
    Except FileError (List String) :=
  match tree.node? place with
  | none => .error .missing
  | some (.file _) => .error .notDirectory
  | some .directory =>
    if nameLimit < step.utf8ByteSize then .error .nameTooLong else .ok (Path.follow place step)

/-- Takes steps one after the other. -/
def walk (tree : FileTree) : List String → List String → Except FileError (List String)
  | place, [] => .ok place
  | place, step :: rest =>
    match tree.step place step with
    | .ok place => walk tree place rest
    | .error error => .error error

/-- Why a text cannot be a path at all. -/
def refused? (path : String) : Option FileError :=
  if path.toList.contains (Char.ofNat 0) then some .zeroInName
  else if path.isEmpty then some .missing
  else if pathLimit < path.utf8ByteSize then some .nameTooLong
  else none

/-- The place that a path names; it need not exist, but its directory does. -/
def locate (tree : FileTree) (path : String) : Except FileError (List String) :=
  match refused? path with
  | some error => .error error
  | none => tree.walk [] (Path.steps path)

/-- The content of a file. -/
def read (tree : FileTree) (path : String) : Except FileError Bytes :=
  match tree.locate path with
  | .error error => .error error
  | .ok place =>
    match tree.node? place with
    | none => .error .missing
    | some .directory => .error .isDirectory
    | some (.file content) =>
      if Path.endsInSlash path then .error .notDirectory else .ok content

/-- The tree with a file at a place. -/
def put (tree : FileTree) (place : List String) (content : Bytes) : FileTree :=
  if place = sink then tree
  else (tree.filter fun entry => entry.1 != place) ++ [(place, content)]

/-- The place of a file that is to be written.  A path that ends in a slash names a
directory, whatever is there. -/
def target (tree : FileTree) (path : String) : Except FileError (List String) :=
  if Path.endsInSlash path then
    match refused? path with
    | some error => .error error
    | none =>
      match tree.walk [] ((Path.steps path).dropLast ++ ["."]) with
      | .ok _ => .error .isDirectory
      | .error error => .error error
  else tree.locate path

/-- The tree with a file written. -/
def write (tree : FileTree) (path : String) (content : Bytes) : Except FileError FileTree :=
  match tree.target path with
  | .error error => .error error
  | .ok place =>
    match tree.node? place with
    | some .directory => .error .isDirectory
    | _ => .ok (tree.put place content)

/-- The tree with a file added, together with the directories it is in. -/
def add (tree : FileTree) (path : String) (content : Bytes) : FileTree :=
  tree.put (Path.place path) content

end FileTree

end Adventure
