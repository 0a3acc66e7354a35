import ScriptSearch.Options
import ScriptSearch.Text.Split

/-! The command line: options, then the script's name and its arguments. The words
are read as a longest sequence of option items and one ending. An option that takes
a value takes the next word whatever it looks like; the first word that is no option
names the script, and `--` ends the options before it. -/

namespace ScriptSearch

/-- Why a command line is refused. -/
inductive OptionError
  | unrecognized (word : String)
  | missingInterpreter
  | missingTemplate
  deriving DecidableEq, Repr

def OptionError.message : OptionError → String
  | unrecognized word => "unrecognized option: " ++ Text.quoted word
  | missingInterpreter => "missing interpreter"
  | missingTemplate => "missing search path template"

/-- Exit status of a command line that is refused or names no script. -/
def usageStatus : Nat := 2

namespace CommandLine

/-- Options that stand alone. -/
inductive Flag
  | dot | print | verbose | noDefaultPath | pathSearch | color | noColor
  deriving DecidableEq, Repr

/-- What a word means where an option may stand. -/
inductive Word
  | flag (f : Flag)
  | interpreter
  | template
  | separator
  | help
  | version
  | unknown
  | plain
  deriving DecidableEq, Repr

/-- The words that are options. -/
def spellings : List (String × Word) :=
  [("-h", .help), ("--help", .help), ("-V", .version), ("--version", .version),
    ("-d", .flag .dot), ("--dot", .flag .dot), ("-p", .flag .print), ("--print", .flag .print),
    ("-v", .flag .verbose), ("--verbose", .flag .verbose),
    ("--no-default-path", .flag .noDefaultPath), ("--path-search", .flag .pathSearch),
    ("--color", .flag .color), ("--no-color", .flag .noColor),
    ("-x", .interpreter), ("--interpreter", .interpreter), ("-I", .template),
    ("--", .separator)]

/-- Any other word is plain unless it starts with a dash; a dash alone is plain. -/
def Word.ofString (s : String) : Word :=
  match spellings.lookup s with
  | some w => w
  | none => if s.toList.head? = some '-' ∧ s ≠ "-" then .unknown else .plain

/-- A complete option. -/
inductive Item
  | flag (f : Flag)
  | interpreter (program : String)
  | template (text : String)
  deriving DecidableEq, Repr

/-- What stands where the options end. -/
inductive Ending
  /-- All words are read. -/
  | noMore
  /-- The words after `--`. -/
  | separator (args : List String)
  | script (name : String) (args : List String)
  | help
  | version
  | refused (e : OptionError)
  deriving DecidableEq, Repr

def Flag.apply (o : Options) : Flag → Options
  | dot => { o with label := Options.dotLabel }
  | print => { o with print := true }
  | verbose => { o with verbose := true }
  | noDefaultPath => { o with defaultPath := false }
  | pathSearch => { o with pathSearch := true }
  | color => { o with colorize := true }
  | noColor => { o with colorize := false }

/-- The last interpreter counts; templates add up. -/
def Item.apply (o : Options) : Item → Options
  | flag f => f.apply o
  | interpreter program => { o with interpreter := program }
  | template text => { o with templates := o.templates ++ [text] }

/-- The script's name and arguments, as far as the ending holds them. -/
def Ending.args : Ending → List String
  | separator args => args
  | script name args => name :: args
  | _ => []

/-- The exit status of an ending at which the program stops. -/
def Ending.status? : Ending → Option Nat
  | help | version => some 0
  | refused _ => some usageStatus
  | _ => none

end CommandLine

/-- Option items and the ending that follows them. -/
structure CommandLine where
  items : List CommandLine.Item
  ending : CommandLine.Ending
  deriving DecidableEq, Repr

namespace CommandLine

/-- The command line with an item in front. -/
def addItem (item : Item) (c : CommandLine) : CommandLine :=
  { c with items := item :: c.items }

/-- Reads the words of a command line. -/
def ofWords : List String → CommandLine
  | [] => ⟨[], .noMore⟩
  | word :: rest =>
    match Word.ofString word, rest with
    | .flag f, rest => (ofWords rest).addItem (.flag f)
    | .interpreter, program :: rest => (ofWords rest).addItem (.interpreter program)
    | .interpreter, [] => ⟨[], .refused .missingInterpreter⟩
    | .template, text :: rest => (ofWords rest).addItem (.template text)
    | .template, [] => ⟨[], .refused .missingTemplate⟩
    | .separator, rest => ⟨[], .separator rest⟩
    | .help, _ => ⟨[], .help⟩
    | .version, _ => ⟨[], .version⟩
    | .unknown, _ => ⟨[], .refused (.unrecognized word)⟩
    | .plain, rest => ⟨[], .script word rest⟩

section OfWords

variable {word : String} (rest : List String)

@[simp] theorem ofWords_nil : ofWords [] = ⟨[], .noMore⟩ := rfl

theorem ofWords_flag {f : Flag} (h : Word.ofString word = .flag f) :
    ofWords (word :: rest) = (ofWords rest).addItem (.flag f) := by
  simp [ofWords, h]

theorem ofWords_interpreter (h : Word.ofString word = .interpreter) (program : String) :
    ofWords (word :: program :: rest) = (ofWords rest).addItem (.interpreter program) := by
  simp [ofWords, h]

theorem ofWords_template (h : Word.ofString word = .template) (text : String) :
    ofWords (word :: text :: rest) = (ofWords rest).addItem (.template text) := by
  simp [ofWords, h]

theorem ofWords_separator : ofWords ("--" :: rest) = ⟨[], .separator rest⟩ := rfl

theorem ofWords_plain (h : Word.ofString word = .plain) :
    ofWords (word :: rest) = ⟨[], .script word rest⟩ := by
  simp [ofWords, h]

end OfWords

/-- The options after the command line is read, also if it ends early. -/
def options (c : CommandLine) (o : Options) : Options :=
  let o := c.items.foldl Item.apply o
  { o with args := o.args ++ c.ending.args }

def versionText : String := "sourcer v0.1\n"

def usageText : String :=
  "USAGE: sourcer [options] name [args...]

OPTIONS:
  -h, --help                Print this help message and exit
  -V, --version             Print sourcer version and exit
  -d, --dot                 Report diagnostics as `.` instead of `source`
  -p, --print               Print the resolved path instead of loading it
  -x, --interpreter <prog>  Interpreter used to load the script (default: bash)
  -I <template>             Append a search path template (must contain %s)
  --no-default-path         Start from an empty search path
  --path-search             Also search directories listed in $PATH
  --color                   Force colored output
  --no-color                Disable colored output
  -v, --verbose             Use verbose output
  --                        End of options

ENVIRONMENT:
  SOURCE_PATH               Colon-separated templates replacing the defaults
"

end CommandLine

end ScriptSearch
