import HarnessLink.Cli.Run
import HarnessLink.Link.Memory

/-!
# The program

The outer layer of the command line: it looks up what a command needs from the
system, runs the command, prints its output and exits. Other processes cannot be
reached from here, so every attempt to connect or to listen fails.
-/
namespace HarnessLink.Program

open Cli

/-- Names of the variables that the program looks at. -/
def variableNames : List String :=
  [boldVariable, plainVariable] ++ sharedSwitches.filterMap Switch.variableName?

/-- The variables that are set. -/
def environment : IO Environment :=
  variableNames.filterMapM fun name => return (← IO.getEnv name).map fun value => (name, value)

/-- A fault of the system in the library's terms. -/
def faultOf : IO.Error → IoFault
  | .noFileOrDirectory _ _ _ => .notFound
  | .permissionDenied _ _ _ => .system .permissionDenied "Permission denied" 13
  | .inappropriateType _ _ _ => .isADirectory
  | e => ⟨.other, toString e⟩

/-- The text of a file. -/
def fileText (path : String) : IO (Except IoFault String) := do
  try
    let bytes ← IO.FS.readBinFile path
    match String.fromUTF8? bytes with
    | some text => return .ok text
    | none => return .error ⟨.invalidData, "stream did not contain valid UTF-8"⟩
  catch e => return .error (faultOf e)

/-- Why a path cannot be connected to. -/
def refusal (path : String) : IO IoFault := do
  try
    let _ ← IO.FS.Handle.mk path .read
    return .connectionRefused
  catch e => return faultOf e

/-- Why nothing can listen at a path. -/
def unsupported : IoFault := .system .other "Operation not supported" 95

/-- What a command line finds around it. -/
def surroundings (environment : Environment) (words : List String) :
    IO (Surroundings MemoryPair MemoryPair) := do
  let (fault, text) ← match Invocation.ofWords environment words with
    | .ok ⟨_, .master a⟩ => do
      let text ← match a.source with
        | .file path => fileText path
        | .request _ => pure (.ok "")
      pure (← refusal a.path, text)
    | _ => pure (.notFound, .ok "")
  return {
    slaves := MemoryPair.link .left
    uplink := MemoryPair.link .left
    connect := fun path => .error (.connect path fault)
    connectUplink := fun path => .error (.connect path fault)
    listen := fun path => .error (.bind path unsupported)
    fileText := fun _ => text }

def print : Printed → IO Unit
  | .text s => IO.print s
  | .raw bytes => do (← IO.getStdout).write ⟨bytes.toArray⟩

end HarnessLink.Program

open HarnessLink in
def main (words : List String) : IO UInt32 := do
  let environment ← Program.environment
  let around ← Program.surroundings environment words
  let (ending, _) := Cli.run around environment words
  Program.print ending.output
  match ending.error? with
  | some text => IO.eprintln text
  | none => pure ()
  return UInt32.ofNat ending.exit
