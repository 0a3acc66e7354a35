import ScriptSearch.Host.Quoted
import ScriptSearch.Host.Shell.Builtin.Basic

/-! What a shell writes about the commands it runs, if it is asked to. -/

namespace ScriptSearch.Host.Shell.Act

/-- Characters that make the large shell quote a word. -/
def traceSpecial : List Char := " \t\n'\"\\|&;()<>!\x7b\x7d*[?]^$\x60".toList

/-- Whether a shell would take something in a word for more than text. -/
def needsQuotes : (before : Option Char) → List Char → Bool
  | _, [] => false
  | before, c :: rest =>
    traceSpecial.contains c || (c == '#' && before.isNone) ||
      (c == '~' && (before.isNone || before == some '=' || before == some ':')) ||
      needsQuotes (some c) rest

/-- A word as the large shell shows it. -/
def shown (wide : Bool) (word : String) : String :=
  if word = "" then "''"
  else if needsQuotes none word.toList then Builtin.singleQuoted .bash word
  else if Quoted.needsEscapes wide word then Quoted.escapes wide word
  else word

/-- Words as the large shell shows them. -/
def shownAll (words : List String) : Act String := do
  let wide ← isWide
  return String.intercalate " " (words.map (shown wide))

/-- Writes a line about what is run. The text in front of it is expanded by `expand`, which is
not shown itself. -/
def traceLine (expand : String → Act String) (text : String) : Act Unit := do
  if ← isOn .trace then
    let plain ← isPlain
    let text? ← value? "PS4"
    turn .trace false
    let before ← always (turn .trace true) (expand (text?.getD ""))
    let depth := (← get).traced
    let again := match plain, before.toList with
      | false, c :: _ => String.ofList (List.replicate depth c)
      | _, _ => ""
    write (← get).tracedTo (again ++ before ++ text ++ "\n")

/-- Shows the setting of a variable, in the large shell. -/
def traceSetting (expand : String → Act String) (target value : String) : Act Unit := do
  let wide ← isWide
  traceLine expand (target ++ if value = "" then "" else shown wide value)

/-- Shows a command, with the settings in front of it in the plain shell. -/
def traceCommand (expand : String → Act String) (settings : List (String × String))
    (words : List String) : Act Unit := do
  match ← dialect with
  | .plain =>
    let settings := settings.map fun a => a.1 ++ "=" ++ a.2
    if !(settings ++ words).isEmpty then
      traceLine expand (String.intercalate " " (settings ++ words))
  | .bash => if !words.isEmpty then traceLine expand (← shownAll words)

end ScriptSearch.Host.Shell.Act
