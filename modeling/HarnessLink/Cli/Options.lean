/-!
# Command lines

How the words of a command line are read at one level of commands. An option is
written `--name value` or `--name=value`; a word that looks like an option is no
value unless it follows an equals sign, and after `--` no word is an option. The
first word at fault ends the reading. A value that is a word of its own is looked
at when the next word has been seen to be no command: a command reads its own
words first.
-/
namespace HarnessLink.Cli

/-- Variables that are set outside the program, with their values. -/
abbrev Environment := List (String × String)

/-- An option of a level, and what is told about it. -/
structure Switch where
  name : String
  /-- Name of the value, if the option takes one. -/
  value? : Option String := none
  about : String := ""
  repeats : Bool := false
  isRequired : Bool := false
  accepts : String → Bool := fun _ => true
  /-- The variable that stands in for the option. -/
  variableName? : Option String := none
  default? : Option String := none
  /-- The values that are possible, if they are few. -/
  choices : List String := []

/-- A word of a level that is no option. -/
structure Operand where
  name : String
  about : String
  accepts : String → Bool := fun _ => true

structure Level where
  /-- The commands that lead to the level. -/
  path : List String := []
  about : String
  /-- Options of this level alone. -/
  own : List Switch := []
  /-- Options that other levels have too. -/
  shared : List Switch
  operands : List Operand := []
  /-- Names of the commands of the next level, and what they do. -/
  commands : List (String × String) := []
  /-- The level can be asked for the version. -/
  hasVersion : Bool := false

namespace Level

def switches (level : Level) : List Switch := level.own ++ level.shared

/-- The level has a command of that name. -/
def hasCommand (level : Level) (name : String) : Bool := (level.commands.lookup name).isSome

end Level

/-- Why a command line is not run. -/
inductive Stop where
  | usage
  /-- Help is wanted for the command that these words lead to. -/
  | help (path : List String)
  | version
  deriving DecidableEq

/-- What stood at a level. -/
structure Given where
  values : List (String × String) := []
  operands : List String := []

namespace Given

def value? (g : Given) (name : String) : Option String := g.values.lookup name

def has (g : Given) (name : String) : Bool := (g.value? name).isSome

/-- All values of an option that repeats. -/
def all (g : Given) (name : String) : List String :=
  (g.values.filter fun v => v.1 = name).map Prod.snd

end Given

/-- The words of a level up to a command. -/
structure Reading where
  /-- What stood there, unless the last value is at fault. -/
  given : Except Stop Given
  /-- The command of the next level and the words behind it. -/
  command? : Option (String × List String) := none

inductive Word where
  | plain
  /-- Two dashes alone. -/
  | terminator
  | long (name : String) (value? : Option String)
  | short (letter : Char)

def Word.ofText (s : String) : Word :=
  match s.toList with
  | ['-', '-'] => terminator
  | '-' :: '-' :: cs =>
    let name := String.ofList (cs.takeWhile fun c => c ≠ '=')
    match cs.dropWhile fun c => c ≠ '=' with
    | [] => long name none
    | _ :: value => long name (some (String.ofList value))
  | '-' :: c :: _ => short c
  | _ => plain

def isPlain (s : String) : Bool :=
  match Word.ofText s with
  | .plain => true
  | _ => false

namespace Level

/-- Take the value of an option. -/
def put (s : Switch) (v : String) (g : Given) : Except Stop Given :=
  if !s.accepts v || (!s.repeats && g.has s.name) then .error .usage
  else .ok { g with values := g.values ++ [(s.name, v)] }

/-- Take a word that is no option. -/
def putOperand (level : Level) (v : String) (g : Given) : Except Stop Given :=
  match level.operands[g.operands.length]? with
  | some operand =>
    if operand.accepts v then .ok { g with operands := g.operands ++ [v] } else .error .usage
  | none => .error .usage

/-- What a letter behind one dash asks for. -/
def askShort (level : Level) (c : Char) : Stop :=
  if c = 'h' then .help level.path else if c = 'V' ∧ level.hasVersion then .version else .usage

/-- What an unknown name behind two dashes asks for. -/
def askLong (level : Level) (name : String) (value? : Option String) : Stop :=
  if value?.isSome then .usage
  else if name = "help" then .help level.path
  else if name = "version" ∧ level.hasVersion then .version
  else .usage

/-- What a word asks for where a command should stand. -/
def askCommand (level : Level) (name : String) (rest : List String) : Stop :=
  if name = "help" then .help (level.path ++ rest) else .usage

/-- Read the words of a level. An option may wait for its value, and options may
have ended. -/
def scan (level : Level) : Option Switch → Bool → List String → Except Stop Given →
    Except Stop Reading
  | some _, _, [], _ => .error .usage
  | none, _, [], given => .ok { given }
  | some s, ended, v :: rest, given =>
    if isPlain v then scan level none ended rest (given >>= put s v) else .error .usage
  | none, true, v :: rest, given => do
    scan level none true rest (level.putOperand v (← given))
  | none, false, v :: rest, given =>
    match Word.ofText v with
    | .terminator => scan level none true rest given
    | .short c => given >>= fun _ => .error (level.askShort c)
    | .long name value? =>
      match level.switches.find? fun s => s.name = name, value? with
      | none, value? => given >>= fun _ => .error (level.askLong name value?)
      | some s, some v => do
        if s.value?.isSome then scan level none false rest (.ok (← put s v (← given)))
        else throw .usage
      | some s, none => do
        if s.value?.isSome then scan level (some s) false rest (.ok (← given))
        else scan level none false rest (.ok (← put s "" (← given)))
    | .plain =>
      if level.commands.isEmpty then do scan level none false rest (level.putOperand v (← given))
      else if level.hasCommand v then .ok { given, command? := some (v, rest) }
      else .error (level.askCommand v rest)

/-- The values from outside that stand in for options are possible ones. -/
def accepts (level : Level) (environment : Environment) (g : Given) : Bool :=
  level.switches.all fun s =>
    g.has s.name || ((s.variableName?.bind fun v => environment.lookup v).map s.accepts).getD true

/-- Read a level, all of whose operands must be there. -/
def read (level : Level) (words : List String) : Except Stop Given := do
  let g ← (← level.scan none false words (.ok {})).given
  if g.operands.length < level.operands.length then throw .usage
  if level.switches.any fun s => s.isRequired && !g.has s.name then throw .usage
  return g

end Level

end HarnessLink.Cli
