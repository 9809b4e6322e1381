import HarnessLink.Cli.Options

/-!
# The command line of the program

The commands of the program with their options. Options that every command has
may stand at each level, and the deepest counts.
-/
namespace HarnessLink.Cli

inductive OutputFormat where
  | json
  | table
  | pretty
  | raw
  deriving DecidableEq

namespace OutputFormat

def name : OutputFormat → String
  | json => "json"
  | table => "table"
  | pretty => "pretty"
  | raw => "raw"

def all : List OutputFormat := [json, table, pretty, raw]

def ofName? (s : String) : Option OutputFormat := all.find? fun f => f.name = s

end OutputFormat

/-- Where the requests of a master come from. -/
inductive RequestSource where
  | request (text : String)
  | file (path : String)
  deriving DecidableEq

structure MasterArguments where
  path : String
  source : RequestSource
  uplink? : Option String
  responseTimeout : String
  retries : Nat
  linger? : Option String
  deriving DecidableEq

inductive Command where
  | slave (path : String) (ids : List String)
  | master (arguments : MasterArguments)
  | decode (hex : String) (localId? : Option String)
  | encodeSync (mode : UInt8) (timestamp : UInt32)
  | encodePing (target : String) (sequence : UInt16) (timestamp : UInt32)
  | version (extended : Bool)
  deriving DecidableEq

/-- A command and the format of its output. -/
structure Invocation where
  format : OutputFormat
  command : Command
  deriving DecidableEq

/-! ## Values -/

def digitsValue? : Nat → List Char → Option Nat
  | value, [] => some value
  | value, c :: rest =>
    if '0' ≤ c ∧ c ≤ '9' then digitsValue? (10 * value + (c.toNat - 48)) rest else none

/-- The number that decimal digits spell; at least one is needed. -/
def decimal? (cs : List Char) : Option Nat := if cs.isEmpty then none else digitsValue? 0 cs

/-- A number with or without a sign, up to a limit. -/
def number? (limit : Nat) (s : String) : Option Nat :=
  let value? := match s.toList with
    | '+' :: digits => decimal? digits
    | '-' :: digits => (decimal? digits).filter fun n => n = 0
    | digits => decimal? digits
  value?.filter fun n => n ≤ limit

def isNumber (limit : Nat) (s : String) : Bool := (number? limit s).isSome

def isPath (s : String) : Bool := !s.isEmpty

def logFormats : List String := ["text", "json"]

def logLevels : List String := ["error", "warn", "info", "debug", "trace"]

/-! ## Levels -/

/-- Options of every level. -/
def sharedSwitches : List Switch :=
  [{ name := "format", value? := "FORMAT", about := "Output format"
     accepts := fun s => (OutputFormat.ofName? s).isSome, choices := OutputFormat.all.map OutputFormat.name },
   { name := "log-format", value? := "FORMAT", about := "Log output format (stderr)"
     accepts := logFormats.contains, default? := "text", choices := logFormats },
   { name := "log-level", value? := "LEVEL"
     about := "Minimum level for chronolink's own crates (stderr)", accepts := logLevels.contains
     variableName? := "CHRONOLINK_LOG_LEVEL", default? := "info", choices := logLevels },
   { name := "log-filter", value? := "DIRECTIVES"
     about := "Extra tracing filter directives, e.g. `chronolink_frame=trace`"
     variableName? := "CHRONOLINK_LOG" }]

/-- An option with a number up to a limit. -/
def numberSwitch (name value about : String) (limit : Nat) (default : String) : Switch :=
  { name, value? := value, about, accepts := isNumber limit, default? := default }

def pathOperand (about : String) : Operand := { name := "PATH", about, accepts := isPath }

def rootLevel : Level where
  about := "Harness-test master/slave CLI"
  shared := sharedSwitches
  commands :=
    [("slave", "Serve simulated slaves on a Unix socket medium"),
     ("master", "Drive slaves with Backend JSON requests"),
     ("decode", "Decode one protocol frame given as hex"),
     ("encode", "Build a protocol frame and print it"),
     ("version", "Show version information")]
  hasVersion := true

/-- What a level says about one of its commands. -/
def Level.aboutCommand (level : Level) (name : String) : String :=
  (level.commands.lookup name).getD ""

def slaveLevel : Level where
  path := ["slave"]
  about := rootLevel.aboutCommand "slave"
  own := [{
    name := "id", value? := "ID", repeats := true, isRequired := true
    about := "Device id of a simulated slave (repeatable), e.g. 37-32-48-5B" }]
  shared := sharedSwitches
  operands := [pathOperand "Socket path to bind"]

def masterLevel : Level where
  path := ["master"]
  about := rootLevel.aboutCommand "master"
  own :=
    [{ name := "request", value? := "REQUEST", about := "One Backend JSON request" },
     { name := "file", value? := "FILE", about := "File with one Backend JSON request per line"
       accepts := isPath },
     { name := "uplink", value? := "PATH", about := "Socket path receiving uploaded test results"
       accepts := isPath },
     { name := "response-timeout", value? := "RESPONSE_TIMEOUT"
       about := "Reply wait per attempt (e.g. 500ms, 1s)", default? := "500ms" },
     numberSwitch "retries" "RETRIES" "Retransmissions after the first attempt" 4294967295 "3",
     { name := "linger", value? := "DURATION"
       about := "Keep the test cycle running this long after the last request" }]
  shared := sharedSwitches
  operands := [pathOperand "Slave medium socket path to connect to"]

def decodeLevel : Level where
  path := ["decode"]
  about := rootLevel.aboutCommand "decode"
  own := [{
    name := "local-id", value? := "ID"
    about := "Filter Master->Slave frames as this device would" }]
  shared := sharedSwitches
  operands :=
    [{ name := "HEX", about := "Frame bytes as hex; spaces, colons and dashes are ignored" }]

def encodeLevel : Level where
  path := ["encode"]
  about := rootLevel.aboutCommand "encode"
  shared := sharedSwitches
  commands := [("sync", "Broadcast Sync"), ("ping", "Ping request to one device")]

def encodeSyncLevel : Level where
  path := ["encode", "sync"]
  about := encodeLevel.aboutCommand "sync"
  own :=
    [numberSwitch "mode" "MODE" "Test mode (0 conduction, 1 resistance, 2 clip)" 255 "0",
     numberSwitch "timestamp" "TIMESTAMP" "Cycle timestamp in milliseconds" 4294967295 "0"]
  shared := sharedSwitches

def encodePingLevel : Level where
  path := ["encode", "ping"]
  about := encodeLevel.aboutCommand "ping"
  own :=
    [{ name := "to", value? := "ID", about := "Destination device id", isRequired := true },
     numberSwitch "sequence" "SEQUENCE" "" 65535 "0",
     numberSwitch "timestamp" "TIMESTAMP" "" 4294967295 "0"]
  shared := sharedSwitches

def versionLevel : Level where
  path := ["version"]
  about := rootLevel.aboutCommand "version"
  own := [{ name := "extended", about := "Show extended build provenance" }]
  shared := sharedSwitches

/-! ## Commands -/

/-- The first operand of a level that has one. -/
def Given.operand (g : Given) : String := g.operands.headD ""

def Given.natural (g : Given) (name : String) (default : Nat) : Nat :=
  ((g.value? name).bind (number? 18446744073709551615)).getD default

/-- The requests stand either in the command line or in a file. -/
def sourceOf (g : Given) : Except Stop RequestSource :=
  match g.value? "request", g.value? "file" with
  | some text, none => .ok (.request text)
  | none, some path => .ok (.file path)
  | _, _ => .error .usage

def slaveOf (g : Given) : Except Stop Command := .ok (.slave g.operand (g.all "id"))

def masterOf (g : Given) : Except Stop Command := do
  return .master {
    path := g.operand
    source := ← sourceOf g
    uplink? := g.value? "uplink"
    responseTimeout := (g.value? "response-timeout").getD "500ms"
    retries := g.natural "retries" 3
    linger? := g.value? "linger" }

def decodeOf (g : Given) : Except Stop Command := .ok (.decode g.operand (g.value? "local-id"))

def encodeSyncOf (g : Given) : Except Stop Command :=
  .ok (.encodeSync (UInt8.ofNat (g.natural "mode" 0)) (UInt32.ofNat (g.natural "timestamp" 0)))

def encodePingOf (g : Given) : Except Stop Command :=
  .ok (.encodePing ((g.value? "to").getD "") (UInt16.ofNat (g.natural "sequence" 0))
    (UInt32.ofNat (g.natural "timestamp" 0)))

def versionOf (g : Given) : Except Stop Command := .ok (.version (g.has "extended"))

/-- A command and the format that its levels give. -/
structure Choice where
  command : Command
  format? : Option OutputFormat

def formatOf? (g : Given) : Option OutputFormat := (g.value? "format").bind OutputFormat.ofName?

/-- Read a level without commands of its own. -/
def readLast (environment : Environment) (level : Level)
    (build : Given → Except Stop Command) (words : List String) : Except Stop Choice := do
  let g ← level.read words
  if !level.accepts environment g then throw .usage
  return ⟨← build g, formatOf? g⟩

/-- Read a level with commands; `next` reads the rest of each. -/
def readGroup (environment : Environment) (level : Level)
    (next : String → List String → Except Stop Choice) (words : List String) :
    Except Stop Choice := do
  let reading ← level.scan none false words (.ok {})
  match reading.command? with
  | none => throw .usage
  | some (name, rest) =>
    let choice ← next name rest
    let g ← reading.given
    if !level.accepts environment g then throw .usage
    return { choice with format? := choice.format? <|> formatOf? g }

def readEncode (environment : Environment) (name : String) (words : List String) :
    Except Stop Choice :=
  if name = "sync" then readLast environment encodeSyncLevel encodeSyncOf words
  else readLast environment encodePingLevel encodePingOf words

def readCommand (environment : Environment) (name : String) (words : List String) :
    Except Stop Choice :=
  match name with
  | "slave" => readLast environment slaveLevel slaveOf words
  | "master" => readLast environment masterLevel masterOf words
  | "decode" => readLast environment decodeLevel decodeOf words
  | "encode" => readGroup environment encodeLevel (readEncode environment) words
  | _ => readLast environment versionLevel versionOf words

/-- Read a command line, some of whose options may be given from outside. Output
is in JSON unless another format is given. -/
def Invocation.ofWords (environment : Environment) (words : List String) :
    Except Stop Invocation := do
  let choice ← readGroup environment rootLevel (readCommand environment) words
  return ⟨choice.format?.getD .json, choice.command⟩

end HarnessLink.Cli
