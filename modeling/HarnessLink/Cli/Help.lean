import HarnessLink.Cli.Arguments
import HarnessLink.Text.Terminal

/-!
# Help

What is told about a command: its purpose, its usage, and its commands, operands
and options in aligned columns. A long text stands under its option when the
column of the options is wide. Headings and names are in bold print where the
output can show it.
-/
namespace HarnessLink.Cli

/-- The two columns of a listing. -/
structure HelpEntry where
  label : String
  about : String
  deriving DecidableEq

/-- The variable by which bold print is wanted for every output. -/
def boldVariable : String := "CLICOLOR_FORCE"

/-- The variable by which bold print is wanted for no output. -/
def plainVariable : String := "NO_COLOR"

namespace Environment

/-- A variable has a value that is not empty. -/
def isSet (environment : Environment) (name : String) : Bool :=
  (environment.lookup name).any fun value => !value.isEmpty

/-- What is shown of a text by an output that is no terminal. -/
def shown (environment : Environment) (s : String) : String :=
  if environment.isSet boldVariable && !environment.isSet plainVariable then s
  else Text.withoutOrders s

end Environment

namespace HelpEntry

/-- Listings are laid out for lines of this length. -/
def lineWidth : Nat := 100

/-- The length of the label as it is shown. -/
def labelLength (e : HelpEntry) : Nat := (Text.withoutOrders e.label).length

def labelWidth (entries : List HelpEntry) : Nat :=
  entries.foldl (fun width e => max width e.labelLength) 0

/-- The label leaves less than three fifths of a line, which is too little for
the text. -/
def isCrowded (width : Nat) (e : HelpEntry) : Bool :=
  40 < width + 8 && lineWidth < width + 8 + e.about.length

def spaces (n : Nat) : String := String.ofList (List.replicate n ' ')

/-- The text in a column of its own: its lines start where the first does. -/
def indented (column : Nat) (e : HelpEntry) : String :=
  String.intercalate ("\n" ++ spaces column) (e.about.splitOn "\n")

def beside (width : Nat) (e : HelpEntry) : String :=
  "  " ++ e.label ++ spaces (width + 2 - e.labelLength) ++ e.indented (width + 4)

def below (e : HelpEntry) : String := "  " ++ e.label ++ "\n" ++ spaces 10 ++ e.indented 10

/-- The lines of a listing. All texts stand below when one has to. -/
def lines (entries : List HelpEntry) : List String :=
  let width := labelWidth entries
  if entries.any (isCrowded width) then entries.map below else entries.map (beside width)

/-- A listing with its heading, if it has entries. -/
def listing (heading : String) (entries : List HelpEntry) : List String :=
  if entries.isEmpty then [] else [String.intercalate "\n" (Text.underlined (heading ++ ":") :: lines entries)]

end HelpEntry

namespace Switch

/-- The option as it is written. -/
def spelling (s : Switch) : String :=
  Text.bold ("--" ++ s.name) ++ match s.value? with
  | some value => s!" <{value}>"
  | none => ""

/-- What is told about an option. The value of its variable is shown too. -/
def description (environment : Environment) (s : Switch) : String :=
  let note (name text : String) : String := "[" ++ name ++ ": " ++ text ++ "]"
  let parts :=
    (if s.about.isEmpty then [] else [s.about]) ++
    (s.variableName?.map fun v => note "env" (v ++ "=" ++ (environment.lookup v).getD "")).toList ++
    (s.default?.map (note "default")).toList ++
    (if s.choices.isEmpty then [] else [note "possible values" (String.intercalate ", " s.choices)])
  String.intercalate " " parts

def entry (environment : Environment) (s : Switch) : HelpEntry :=
  ⟨"    " ++ s.spelling, s.description environment⟩

/-- Options of two lists in turn, those of one place by name. -/
def interleave : List Switch → List Switch → List Switch
  | [], others => others
  | switches, [] => switches
  | s :: switches, t :: others =>
    (if s.name < t.name then [s, t] else [t, s]) ++ interleave switches others

end Switch

namespace Level

def helpAbout : String := "Print this message or the help of the given subcommand(s)"

/-- How a command is written, with what stands behind it. -/
def usage (command : List String) (rest : List String) : String :=
  String.intercalate " " ([Text.underlined "Usage:", Text.bold (String.intercalate " " command)] ++ rest)

/-- What stands behind the commands of a level. -/
def usageParts (level : Level) : List String :=
  let required := level.switches.filter Switch.isRequired
  ["[OPTIONS]"] ++ required.map Switch.spelling ++ level.operands.map (fun o => s!"<{o.name}>") ++
    if level.commands.isEmpty then [] else ["<COMMAND>"]

def commandEntries (level : Level) : List HelpEntry :=
  if level.commands.isEmpty then []
  else (level.commands ++ [("help", helpAbout)]).map fun c => ⟨Text.bold c.1, c.2⟩

/-- An option that has a letter too. -/
def letterEntry (letter name about : String) : HelpEntry :=
  ⟨Text.bold ("-" ++ letter) ++ ", " ++ Text.bold ("--" ++ name), about⟩

def switchEntries (environment : Environment) (level : Level) : List HelpEntry :=
  (Switch.interleave level.own level.shared).map (Switch.entry environment) ++
    [letterEntry "h" "help" "Print help"] ++
    if level.hasVersion then [letterEntry "V" "version" "Print version"] else []

/-- All that is told about a level. -/
def help (program : String) (environment : Environment) (level : Level) : String :=
  let sections := [level.about, usage (program :: level.path) level.usageParts] ++
    HelpEntry.listing "Commands" level.commandEntries ++
    HelpEntry.listing "Arguments" (level.operands.map fun o => ⟨s!"<{o.name}>", o.about⟩) ++
    HelpEntry.listing "Options" (level.switchEntries environment)
  String.intercalate "\n\n" sections ++ "\n"

/-- All that is told about the command for help of a level. -/
def helpOnHelp (program : String) (level : Level) : String :=
  let sections := [helpAbout, usage (program :: level.path ++ ["help"]) ["[COMMAND]..."]] ++
    HelpEntry.listing "Arguments" [⟨"[COMMAND]...", "Print help for the subcommand(s)"⟩]
  String.intercalate "\n\n" sections ++ "\n"

end Level

/-- The level that some commands lead to. -/
def levelAt? : List String → Option Level
  | [] => some rootLevel
  | ["slave"] => some slaveLevel
  | ["master"] => some masterLevel
  | ["decode"] => some decodeLevel
  | ["encode"] => some encodeLevel
  | ["encode", "sync"] => some encodeSyncLevel
  | ["encode", "ping"] => some encodePingLevel
  | ["version"] => some versionLevel
  | _ => none

/-- Help for the command that some words lead to, if there is one. Values from
outside stand in it as they are. -/
def helpAt? (program : String) (environment : Environment) (path : List String) :
    Option String :=
  match levelAt? path, path.getLast? with
  | some level, _ => some (level.help program environment)
  | none, some "help" =>
    ((levelAt? path.dropLast).filter fun level => !level.commands.isEmpty).map
      (Level.helpOnHelp program)
  | none, _ => none

end HarnessLink.Cli
