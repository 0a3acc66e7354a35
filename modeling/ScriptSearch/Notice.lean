import ScriptSearch.Template
import ScriptSearch.CommandLine
import ScriptSearch.Command

/-! Messages about the progress of a run, each with its level and its wording. -/

namespace ScriptSearch

inductive Notice
  | badTemplate (e : TemplateError)
  | badOption (e : OptionError)
  | notForked (e : OsError)
  | notStarted (program : String) (e : OsError)
  | notAwaited (program : String) (e : OsError)
  | pathUnset
  | listUsed
  | searchPath (t : Template)
  | checked (path : String) (found : Bool)
  | resolved (searcher name path : String)
  | loading (path : String)
  | running (c : Command)
  deriving DecidableEq, Repr

namespace Notice

open Text (quoted)

def level : Notice → Level
  | badTemplate _ | badOption _ | notForked _ | notStarted _ _ | notAwaited _ _ => .error
  | pathUnset => .warning
  | _ => .info

def text : Notice → String
  | badTemplate e => e.message
  | badOption e => e.message
  | notForked e => "failed to fork: " ++ e.message
  | notStarted program e => "failed to invoke " ++ quoted program ++ ": " ++ e.message
  | notAwaited program e => "failed to wait for " ++ quoted program ++ ": " ++ e.message
  | pathUnset => "`PATH` is not set, `--path-search` finds nothing"
  | listUsed => "using search path from `SOURCE_PATH`"
  | searchPath t => "search path: " ++ quoted t.text
  | checked path found =>
    "checking " ++ quoted path ++ ": " ++ if found then "found" else "not found"
  | resolved searcher name path =>
    "searcher " ++ quoted searcher ++ " resolved " ++ quoted name ++ " to " ++ quoted path
  | loading path => "loading " ++ quoted path
  | running c => "running " ++ quoted c.line

/-- The notice as a display shows it, or nothing. -/
def line (display : Display) (n : Notice) : String := n.level.line display n.text

end Notice

end ScriptSearch
