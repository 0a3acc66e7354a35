import ScriptSearch.CommandLine
import ScriptSearch.Traced

/-! Reading a command line, one word after another. What a word is taken for depends on
the words before it: an option that takes a value claims the next word, and from the
script's name or from `--` on, all words are arguments. Options are set as they are read,
so a reading that ends early leaves those read before. -/

namespace ScriptSearch.CommandLine

/-- What the next word is taken for. -/
inductive Mode
  | option
  /-- The value of `-x`. -/
  | interpreter
  /-- The value of `-I`. -/
  | template
  | argument
  deriving DecidableEq, Repr

/-- A command line that is read up to some word. -/
structure Reading where
  options : Options
  mode : Mode := .option
  deriving DecidableEq, Repr

/-- Writes a text and ends with status zero. -/
def answer (text : String) : Traced (Except Nat Reading) := do
  Traced.emit (.out text)
  return .error 0

/-- Gives notice of an error and ends with the status for usage errors. -/
def refuse (e : OptionError) : Traced Nat := do
  Traced.note (.badOption e)
  return usageStatus

namespace Reading

def addArgument (o : Options) (word : String) : Reading :=
  ⟨{ o with args := o.args ++ [word] }, .argument⟩

/-- Reads a word where an option may stand. -/
def readOption (o : Options) (word : String) : Traced (Except Nat Reading) :=
  match Word.ofString word with
  | .help => answer usageText
  | .version => answer versionText
  | .flag f => pure (.ok ⟨f.apply o, .option⟩)
  | .interpreter => pure (.ok ⟨o, .interpreter⟩)
  | .template => pure (.ok ⟨o, .template⟩)
  | .separator => pure (.ok ⟨o, .argument⟩)
  | .unknown => do return .error (← refuse (.unrecognized word))
  | .plain => pure (.ok (addArgument o word))

/-- Reads one word more, or ends with a status. -/
def step (r : Reading) (word : String) : Traced (Except Nat Reading) :=
  match r.mode with
  | .argument => pure (.ok (addArgument r.options word))
  | .interpreter => pure (.ok ⟨{ r.options with interpreter := word }, .option⟩)
  | .template => pure (.ok ⟨{ r.options with templates := r.options.templates ++ [word] }, .option⟩)
  | .option => readOption r.options word

/-- What is said after the last word: a value that is still due is an error. -/
def finish (r : Reading) : Traced (Option Nat) :=
  match r.mode with
  | .interpreter => do return some (← refuse .missingInterpreter)
  | .template => do return some (← refuse .missingTemplate)
  | _ => pure none

/-- Reads words to the last, or up to one that ends the program. -/
def run (r : Reading) : List String → Traced (Option Nat × Options)
  | [] => do return (← r.finish, r.options)
  | word :: rest => do
    match ← r.step word with
    | .error status => return (some status, r.options)
    | .ok r => r.run rest

end Reading

/-- Reads a command line into the options: the status with which the program stops if it
does, and the options afterwards. -/
def parse (o : Options) (words : List String) : Traced (Option Nat × Options) :=
  Reading.run ⟨o, .option⟩ words

end ScriptSearch.CommandLine
