import ScriptSearch.Host.Shell.Printed
import ScriptSearch.Host.Shell.State

/-! Variables that the large shell works out when they are asked for. Each of them becomes a variable
like others once it has been taken away, or has been made one of a function's own. -/

namespace ScriptSearch.Host.Shell.State

/-- The name of the script in lists of what is being run. -/
def baseNames (s : State) : List String :=
  if s.setting.inline ∨ s.switches.contains .fromInput then [] else ["main"]

/-- The files that what is being run stands in, the innermost first. -/
def sources (s : State) : List String :=
  s.frames.map (·.file) ++
    if s.setting.inline ∨ s.switches.contains .fromInput then [] else [s.setting.name]

def listOf (texts : List String) : Content :=
  .list (some (texts.zipIdx.map fun (t, i) => (i, t)))

/-- Options of the large shell that are on and have a variable of their own. -/
def furtherNames (s : State) : String :=
  String.intercalate ":" ((Switch.further.map (·.1)).filter s.hasFurther)

/-- The name that the script sees as its own. -/
def title (s : State) : String := s.renamed.getD s.setting.name

/-- Seconds since the clock was set. -/
def seconds (s : State) : Int := s.secondsAtStart + (s.machine.clock / 1000000 : Nat)

/-- The time at which a machine's clock begins. -/
def epoch : Nat := 1700000000

/-- Names of the variables that are worked out. -/
def derivedNames : List String :=
  ["LINENO", "_", "SHELLOPTS", "BASHOPTS", "BASHPID", "BASH_SUBSHELL", "BASH_COMMAND", "FUNCNAME",
    "BASH_SOURCE", "BASH_LINENO", "BASH_ARGC", "BASH_ARGV", "BASH_ARGV0", "PIPESTATUS", "BASH_ALIASES",
    "BASH_CMDS", "DIRSTACK", "GROUPS", "EPOCHSECONDS", "EPOCHREALTIME", "SECONDS", "HISTCMD", "RANDOM",
    "SRANDOM"]

/-- Those of them that cannot be taken away. -/
def unchangedNames : List String := ["BASH_SOURCE", "BASH_LINENO", "BASH_ARGC", "BASH_ARGV"]

/-- Those of them that hold numbers. -/
def derivedNumbers : List String := ["BASHPID", "HISTCMD", "RANDOM", "SECONDS", "SRANDOM"]

/-- Whether a variable is worked out. -/
def isDerived (s : State) (name : String) : Bool :=
  s.setting.dialect = .bash && derivedNames.contains name && !s.ordinary.contains name &&
    !s.saved.any fun frame => (frame.lookup name).isSome

/-- What a variable holds that is worked out. -/
def derived (s : State) (name : String) : Content :=
  let text (t : String) : Content := .text (some t)
  match name with
  | "LINENO" => text (toString s.line)
  | "_" => text s.lastWord
  | "SHELLOPTS" => text (Switch.names .bash s.switches)
  | "BASHOPTS" => text s.furtherNames
  | "BASHPID" => text (toString s.number)
  | "BASH_SUBSHELL" => text (toString s.depth)
  | "BASH_COMMAND" => text (Printed.command s.current)
  | "FUNCNAME" =>
    if s.calls = 0 then .list none
    else listOf (s.frames.map (·.name.getD "source") ++ s.baseNames)
  | "BASH_SOURCE" => listOf s.sources
  | "BASH_LINENO" => listOf (s.frames.map (fun f => toString f.line) ++ s.baseNames.map fun _ => "0")
  | "BASH_ARGC" => listOf (if s.frames.isEmpty then [toString s.args.length] else [])
  | "BASH_ARGV" => listOf (if s.frames.isEmpty then s.args.reverse else [])
  | "BASH_ARGV0" => text s.title
  | "PIPESTATUS" => listOf (s.stages.map toString)
  | "BASH_ALIASES" => .table (some s.aliases)
  | "BASH_CMDS" => .table (some s.hashed)
  | "DIRSTACK" => listOf (s.path :: s.directories)
  | "GROUPS" => listOf ["1000"]
  | "EPOCHSECONDS" => text (toString (epoch + s.machine.clock / 1000000))
  | "EPOCHREALTIME" =>
    let digits := toString (s.machine.clock % 1000000)
    text (toString (epoch + s.machine.clock / 1000000) ++ "." ++ "".pushn '0' (6 - digits.length) ++ digits)
  | "SECONDS" => text (toString s.seconds)
  | "HISTCMD" => text "0"
  | "RANDOM" => text (toString s.random.last)
  | "SRANDOM" => text "2654435769"
  | _ => .text none

/-- A variable by its own name. -/
def bound? (s : State) (name : String) : Option Variable :=
  if s.isDerived name then
    let v := (s.bindings.lookup name).getD { integer := derivedNumbers.contains name }
    some { v with content := s.derived name }
  else s.bindings.lookup name

/-- Keeps a variable from being worked out. -/
def withOrdinary (s : State) (name : String) : State :=
  if s.isDerived name ∧ name ≠ "_" ∧ name ≠ "PIPESTATUS" then { s with ordinary := name :: s.ordinary } else s

/-- A shell for which a variable that is worked out has been given a text, or one of its elements. Most
of them stay what they are. -/
def withDerived (s : State) (name : String) (key : Option String) (value : String) : State :=
  match name, key with
  | "RANDOM", none => { s with random := .ofSeed ((value.toInt?.getD 0) % 4294967296).toNat }
  | "SECONDS", none =>
    { s with secondsAtStart := value.toInt?.getD 0 - (s.machine.clock / 1000000 : Nat) }
  | "BASH_ARGV0", none => { s with renamed := some value }
  | "BASH_ALIASES", some key => { s with aliases := Content.put key value s.aliases }
  | "BASH_CMDS", some key => { s with hashed := Content.put key value s.hashed }
  | "DIRSTACK", some key =>
    match key.toNat? with
    | some (n + 1) => { s with directories := s.directories.modify n fun _ => value }
    | _ => s
  | _, _ => s

end ScriptSearch.Host.Shell.State
