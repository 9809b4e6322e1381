/-!
# Faults of the operating system

An operation on a stream, a file or a socket fails with a kind, by which callers
choose what to do, and a text, which they show.
-/
namespace HarnessLink

inductive IoKind where
  | interrupted
  | wouldBlock
  | timedOut
  | permissionDenied
  | brokenPipe
  | connectionRefused
  | notFound
  | alreadyExists
  | notADirectory
  | isADirectory
  | invalidInput
  | invalidData
  | other
  deriving DecidableEq

namespace IoKind

def all : List IoKind :=
  [interrupted, wouldBlock, timedOut, permissionDenied, brokenPipe, connectionRefused, notFound,
    alreadyExists, notADirectory, isADirectory, invalidInput, invalidData, other]

def name : IoKind → String
  | interrupted => "interrupted"
  | wouldBlock => "would_block"
  | timedOut => "timed_out"
  | permissionDenied => "permission_denied"
  | brokenPipe => "broken_pipe"
  | connectionRefused => "connection_refused"
  | notFound => "not_found"
  | alreadyExists => "already_exists"
  | notADirectory => "not_a_directory"
  | isADirectory => "is_a_directory"
  | invalidInput => "invalid_input"
  | invalidData => "invalid_data"
  | other => "other"

def ofName? (s : String) : Option IoKind := all.find? fun k => k.name = s

end IoKind

structure IoFault where
  kind : IoKind
  text : String
  deriving DecidableEq

namespace IoFault

/-- A fault with the system's own wording and number. -/
def system (kind : IoKind) (wording : String) (number : Nat) : IoFault :=
  ⟨kind, wording ++ " (os error " ++ toString number ++ ")"⟩

def notFound : IoFault := system .notFound "No such file or directory" 2

def connectionRefused : IoFault := system .connectionRefused "Connection refused" 111

def notADirectory : IoFault := system .notADirectory "Not a directory" 20

def isADirectory : IoFault := system .isADirectory "Is a directory" 21

end IoFault

end HarnessLink
