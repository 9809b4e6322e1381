import HarnessLink.Link.FileTree
import HarnessLink.Link.Stream

/-!
# Sockets among files

A tree of files with sockets in it, the listeners behind the sockets and the
connections they gave. A listener takes over the path of a socket that somebody
left behind, but never another file or a directory. When it stops it removes its
socket, unless something else has taken the path meanwhile.
-/
namespace HarnessLink

structure Listener where
  path : String
  number : Nat
  /-- Connections that wait to be accepted, by number. -/
  waiting : List Nat := []
  deriving DecidableEq

/-- A directory of its own among the files of a machine. Paths can name it by a
short form. -/
structure SocketSpace where
  /-- The short form. -/
  root : String
  /-- What it stands for. -/
  home : String
  files : FileTree
  /-- Listeners, oldest first. -/
  listeners : List Listener := []
  /-- Connections, with their clients on the left. -/
  connections : List StreamPair := []
  /-- The number of the next socket. -/
  fresh : Nat := 0
  deriving DecidableEq

namespace SocketSpace

/-- Paths of sockets are shorter than this. -/
def maxPathLength : Nat := 108

/-- Paths of files are shorter than this. -/
def maxFilePathLength : Nat := 4096

/-- Readable and writable for the owner alone. -/
def socketMode : Nat := 0o600

/-- Where the program works. -/
def workPlace : Place := ["work"]

/-- An empty directory on a machine that has just what every machine has. -/
def create (root home : String) : SocketSpace :=
  let standard := FileTree.standard
  let route := Route.ofText workPlace home
  { root, home
    files := { standard with
      entries := (route.parts, .directory) :: (workPlace, .directory) :: standard.entries } }

/-- The path of a name in the directory. A slash in front leads out of it. -/
def path (d : SocketSpace) (name : String) : String :=
  if name.startsWith "/" then name else d.root ++ "/" ++ name

/-- A path with the short form written out. -/
def fullPath (d : SocketSpace) (path : String) : String :=
  String.intercalate d.home (path.splitOn d.root)

def pathLength (d : SocketSpace) (path : String) : Nat := (d.fullPath path).utf8ByteSize

def route (d : SocketSpace) (path : String) : Route := .ofText workPlace (d.fullPath path)

/-- No path holds the character that ends paths. -/
def holdsNul (path : String) : Bool := path.toList.contains '\x00'

/-- The place that a path leads to. -/
def locate (d : SocketSpace) (path : String) : Except IoFault Place :=
  if holdsNul path then .error ⟨.invalidInput, "file name contained an unexpected NUL byte"⟩
  else if maxFilePathLength ≤ d.pathLength path then .error FileTree.nameTooLong
  else d.files.locate (d.route path)

/-- What is at a path. -/
def find (d : SocketSpace) (path : String) : Except IoFault FileKind := do
  match d.files.kind? (← d.locate path) with
  | some kind => return kind
  | none => throw .notFound

def holds (d : SocketSpace) (path : String) : Bool := (d.locate path).toOption.isSome

/-- Take away what is at a path, unless it is a directory. -/
def remove (path : String) (d : SocketSpace) : SocketSpace :=
  match d.locate path with
  | .ok place => if d.files.isDirectory place then d else { d with files := d.files.erase place }
  | .error _ => d

/-- Put something new at a path. -/
def put (path : String) (kind : FileKind) (d : SocketSpace) : Except IoFault SocketSpace :=
  if holdsNul path then .error ⟨.invalidInput, "paths must not contain interior null bytes"⟩
  else (d.files.add kind (d.route path)).map fun files => { d with files }

/-- Put something new at a path; where that cannot be, nothing happens. -/
def tryPut (path : String) (kind : FileKind) (d : SocketSpace) : SocketSpace :=
  (d.put path kind).toOption.getD d

/-- The text of a file. -/
def read (path : String) (d : SocketSpace) : Except IoFault String := do
  match ← d.find path with
  | .regular text => return text
  | .device => return ""
  | .directory => throw .isADirectory
  | .socket _ => throw (.system .other "No such device or address" 6)

/-- The path is taken by something that a listener must not replace. -/
def occupied : IoFault := ⟨.alreadyExists, "existing path is not a unix socket"⟩

/-- The path is taken, though it leads nowhere. -/
def inUse : IoFault := .system .other "Address already in use" 98

/-- Listen at a path. -/
def bind (path : String) (d : SocketSpace) : Except LinkError SocketSpace :=
  let length := d.pathLength path
  if maxPathLength ≤ length then .error (.pathTooLong path length maxPathLength)
  else
    match d.find path with
    | .ok .directory | .ok (.regular _) | .ok .device => .error (.bind path occupied)
    | .ok (.socket _) | .error _ =>
      match (d.remove path).put path (.socket d.fresh) with
      | .error fault => .error (.bind path (if fault = FileTree.taken then inUse else fault))
      | .ok d =>
        .ok { d with listeners := d.listeners ++ [{ path, number := d.fresh }], fresh := d.fresh + 1 }

/-- The path is too long for a client. -/
def tooLongToConnect : IoFault := ⟨.invalidInput, "path must be shorter than SUN_LEN"⟩

/-- Connect to the listener at a path. Gives the number of the connection, which
waits to be accepted. -/
def connect (path : String) (d : SocketSpace) : Except LinkError (Nat × SocketSpace) :=
  let refused (fault : IoFault) : Except LinkError (Nat × SocketSpace) := .error (.connect path fault)
  if holdsNul path then refused ⟨.invalidInput, "paths must not contain interior null bytes"⟩
  else if maxPathLength ≤ d.pathLength path then refused tooLongToConnect
  else
    match d.find path with
    | .error fault => refused fault
    | .ok (.socket number) =>
      if d.listeners.any fun l => l.number = number then
        let connection := d.connections.length
        let listeners := d.listeners.map fun l =>
          if l.number = number then { l with waiting := l.waiting ++ [connection] } else l
        .ok (connection, { d with listeners, connections := d.connections ++ [{}] })
      else refused .connectionRefused
    | .ok _ => refused .connectionRefused

/-- The oldest listener of a path. -/
def listener? (d : SocketSpace) (path : String) : Option Listener :=
  d.listeners.find? fun l => l.path = path

/-- Accept the oldest connection that waits for a listener. -/
def accept (l : Listener) (d : SocketSpace) : Option Nat × SocketSpace :=
  match l.waiting with
  | [] => (none, d)
  | connection :: waiting =>
    (some connection,
      { d with listeners := d.listeners.map fun other =>
          if other.number = l.number then { other with waiting } else other })

/-- Change a connection. -/
def onConnection (number : Nat) (f : StreamPair → StreamPair) (d : SocketSpace) : SocketSpace :=
  { d with connections := d.connections.modify number f }

/-- Stop a listener. Connections that waited for it are cut, and its socket is
removed if it is still there. -/
def stop (l : Listener) (d : SocketSpace) : SocketSpace :=
  let d := { d with listeners := d.listeners.filter fun other => other.number ≠ l.number }
  let d := l.waiting.foldl (fun d number => d.onConnection number (StreamPair.shut .right)) d
  match d.find l.path with
  | .ok (.socket number) => if number = l.number then d.remove l.path else d
  | _ => d

end SocketSpace

end HarnessLink
