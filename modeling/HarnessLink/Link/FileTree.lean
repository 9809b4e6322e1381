import HarnessLink.Fault

/-!
# Files by their paths

A tree of directories with files and sockets in them. A path is followed part by
part: one dot stays, two dots lead back, and a name leads on. Only a directory
can be followed further, and a slash at the end of a path asks for one.
-/
namespace HarnessLink

/-- What is found at a place of the tree. -/
inductive FileKind where
  | regular (text : String)
  | directory
  /-- A device that gives nothing to read. -/
  | device
  /-- A socket with a number that no other socket has. -/
  | socket (number : Nat)
  deriving DecidableEq

/-- Where something is: the names that lead to it from the root. -/
abbrev Place := List String

/-- A path in its parts. -/
structure Route where
  start : Place
  parts : List String
  /-- A slash stands at the end. -/
  endsInSlash : Bool
  deriving DecidableEq

/-- The parts of a path. A path without a slash in front starts at the place
where the program works. -/
def Route.ofText (work : Place) (path : String) : Route :=
  { start := if path.startsWith "/" then [] else work
    parts := (path.splitOn "/").filter fun part => part ≠ ""
    endsInSlash := path.endsWith "/" }

structure FileTree where
  /-- What there is at places below the root. -/
  entries : List (Place × FileKind) := []
  deriving DecidableEq

namespace FileTree

/-- Names have at most this many bytes. -/
def maxName : Nat := 255

def nameTooLong : IoFault := .system .other "File name too long" 36

/-- Something is there already. -/
def taken : IoFault := .system .alreadyExists "File exists" 17

/-- What is at a place. -/
def kind? (t : FileTree) : Place → Option FileKind
  | [] => some .directory
  | place => t.entries.lookup place

def isDirectory (t : FileTree) (place : Place) : Bool := t.kind? place = some .directory

/-- Follow a part of a path. -/
def step (t : FileTree) (place : Place) (part : String) : Except IoFault Place :=
  if !t.isDirectory place then .error .notADirectory
  else if part = "." then .ok place
  else if part = ".." then .ok place.dropLast
  else if maxName < part.utf8ByteSize then .error nameTooLong
  else if (t.kind? (place ++ [part])).isSome then .ok (place ++ [part])
  else .error .notFound

/-- Follow the parts of a path. -/
def follow (t : FileTree) : Place → List String → Except IoFault Place
  | place, [] => .ok place
  | place, part :: rest => do t.follow (← t.step place part) rest

/-- The place that a path leads to. -/
def locate (t : FileTree) (r : Route) : Except IoFault Place := do
  let place ← t.follow r.start r.parts
  if r.endsInSlash && !t.isDirectory place then throw .notADirectory
  return place

/-- The free place that a path leads to, in a directory that is there. Behind a
slash only a directory can be new. -/
def freePlace (t : FileTree) (kind : FileKind) (r : Route) : Except IoFault Place :=
  match r.parts.getLast? with
  | none => .error taken
  | some name => do
    let directory ← t.follow r.start r.parts.dropLast
    match t.step directory name with
    | .ok _ => throw taken
    | .error fault =>
      if fault = .notFound && (!r.endsInSlash || kind = .directory) then return directory ++ [name]
      throw fault

/-- Put something new at the end of a path. -/
def add (t : FileTree) (kind : FileKind) (r : Route) : Except IoFault FileTree :=
  (t.freePlace kind r).map fun place => { t with entries := (place, kind) :: t.entries }

/-- Take away what is at a place. -/
def erase (t : FileTree) (place : Place) : FileTree :=
  { t with entries := t.entries.filter fun entry => entry.1 ≠ place }

/-- What every machine has. -/
def standard : FileTree where
  entries :=
    (["bin", "dev", "etc", "home", "proc", "root", "run", "sys", "tmp", "usr", "var"].map fun name =>
      ([name], .directory)) ++
    (["full", "null", "random", "stdin", "tty", "urandom", "zero"].map fun name =>
      (["dev", name], .device)) ++
    [(["etc", "hosts"], .regular ""), (["etc", "passwd"], .regular "")]

end FileTree

end HarnessLink
