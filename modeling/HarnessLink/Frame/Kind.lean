/-!
# Kinds of link frames

The kind byte of a link frame tells time synchronization, commands of the master
and replies of the slaves apart.
-/
namespace HarnessLink.FrameKind

def sync : UInt8 := 0

def command : UInt8 := 1

def reply : UInt8 := 2

def name (kind : UInt8) : String :=
  if kind = sync then "SYNC"
  else if kind = command then "COMMAND"
  else if kind = reply then "REPLY"
  else "UNKNOWN"

end HarnessLink.FrameKind
