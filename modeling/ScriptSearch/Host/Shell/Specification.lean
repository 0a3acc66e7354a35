/-! What the large shell is told about the words that can complete the arguments of a command. -/

namespace ScriptSearch.Host.Shell

structure Specification where
  /-- Names of options, in any order. -/
  options : List String := []
  /-- Kinds of names. -/
  kinds : List String := []
  /-- Values of letters: patterns, words, texts in front and behind, commands. -/
  valued : List (Char × String) := []
  deriving Repr

namespace Specification

/-- The names of options, in the order in which they are shown. -/
def optionNames : List String :=
  ["bashdefault", "default", "dirnames", "filenames", "noquote", "nosort", "nospace", "plusdirs"]

/-- The letters that stand for kinds of names. -/
def kindLetters : List (Char × String) :=
  [('a', "alias"), ('b', "builtin"), ('c', "command"), ('d', "directory"), ('e', "export"),
    ('f', "file"), ('g', "group"), ('j', "job"), ('k', "keyword"), ('s', "service"), ('u', "user"),
    ('v', "variable")]

/-- Kinds of names that have no letter. -/
def furtherKinds : List String :=
  ["arrayvar", "binding", "disabled", "enabled", "function", "helptopic", "hostname", "running",
    "setopt", "shopt", "signal", "stopped"]

def isKind (name : String) : Bool := kindLetters.any (·.2 = name) || furtherKinds.contains name

/-- Letters that take a value, in the order in which they are shown. -/
def valueLetters : List Char := "GWPSXCF".toList

/-- Names of what is no command: an empty line, any command that nothing is said about, and the first
word of a line. -/
def places : List (Char × String) := [('E', "_EmptycmD_"), ('D', "_DefaultCmD_"), ('I', "_InitialWorD_")]

/-- A specification without an option, or with one. -/
def withOption (s : Specification) (name : String) (on : Bool) : Specification :=
  { s with options := s.options.filter (· ≠ name) ++ if on then [name] else [] }

/-- The parts of the command that makes a specification. -/
def parts (quoted : String → String) (s : Specification) : List String :=
  (optionNames.filter s.options.contains).flatMap (["-o", ·]) ++
    (kindLetters.filter fun k => s.kinds.contains k.2).map (fun k => "-" ++ String.singleton k.1) ++
    (furtherKinds.filter s.kinds.contains).flatMap (["-A", ·]) ++
    valueLetters.flatMap fun c =>
      match s.valued.lookup c with
      | some text => ["-" ++ String.singleton c, if c = 'F' then text else quoted text]
      | none => []

/-- The options of a specification, each with whether it is on. -/
def shownOptions (s : Specification) : List String :=
  optionNames.flatMap fun name => [if s.options.contains name then "-o" else "+o", name]

end Specification

end ScriptSearch.Host.Shell
