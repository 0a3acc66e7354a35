import ScriptSearch.Style

/-! What the command line can set: how messages are shown, under which label
failures are reported, and how a script is found and loaded. -/

namespace ScriptSearch

/-- How messages are shown: with the informative ones or without, coloured or not. -/
structure Display where
  verbose : Bool := false
  colorize : Bool := false
  deriving DecidableEq, Repr

structure Options extends Display where
  /-- The word that reports begin with. -/
  label : String := "source"
  interpreter : String := "bash"
  /-- Written templates that extend the search path. -/
  templates : List String := []
  /-- The script's name and the arguments it gets. -/
  args : List String := []
  defaultPath : Bool := true
  pathSearch : Bool := false
  print : Bool := false
  deriving DecidableEq, Repr

/-- The label of the short spelling of the command. -/
def Options.dotLabel : String := "."

/-- Weight of a message. -/
inductive Level
  | error | warning | info
  deriving DecidableEq, Repr

namespace Level

def name : Level → String
  | error => "error"
  | warning => "warning"
  | info => "info"

def style : Level → Style
  | error => { colour := some .red, bold := true }
  | warning => { colour := some .yellow, bold := true }
  | info => { colour := some .magenta, bold := true }

/-- Informative messages show only on a verbose display. -/
def shown (display : Display) : Level → Bool
  | info => display.verbose
  | _ => true

/-- A message as it is shown, or nothing. Only the level's name is styled. -/
def line (display : Display) (level : Level) (text : String) : String :=
  if level.shown display then
    level.style.apply display.colorize (level.name ++ ":") ++ " " ++ text ++ "\n"
  else ""

end Level

end ScriptSearch
