import ScriptSearch.Host.Process

/-! How text is written, as variables say: as bytes, or as characters of one or more bytes. -/

namespace ScriptSearch.Host.Locale

/-- The variables that are asked, the first that is not empty first. -/
def names : List String := ["LC_ALL", "LC_CTYPE", "LANG"]

/-- Whether a name stands for a way of writing text that is known here. -/
def isKnown (name : String) : Bool :=
  match Text.split '.' name with
  | [name] => ["", "C", "POSIX"].contains name
  | ["C", coding] => isUnicode coding
  | _ => false
where
  isUnicode (coding : String) : Bool :=
    String.ofList ((coding.toList.filter Char.isAlphanum).map Char.toLower) == "utf8"

/-- Whether a name stands for text of characters. -/
def isWideName (name : String) : Bool := isKnown name && name.toList.contains '.'

/-- Whether text is characters for one who looks the variables up. -/
def isWide (lookup : String → Option String) : Bool :=
  ((names.filterMap lookup).find? (· ≠ "")).any isWideName

/-- Whether text is characters for a process. -/
def ofProcess (p : Process) : Bool := isWide (settingOf? p.environment)

end ScriptSearch.Host.Locale
