import ScriptSearch.Host.Numeral
import ScriptSearch.Host.Shell.Launching
import ScriptSearch.Host.Shell.Topic

/-! What the commands of a shell have in common: how they refuse, read numbers and take
options. -/

namespace ScriptSearch.Host.Shell.Builtin

open Act

/-- Gives a message of a command. -/
def remark (command text : String) : Act Unit := do
  if ← isPlain then complain text else complain (command ++ ": " ++ text)

/-- Ends a command with a message. The plain shell gives up what it is doing. -/
def refuse (command text : String) (status : Nat) : Act Nat := do
  remark command text
  if ← isPlain then
    setStatus 2
    throw .abandon
  else return status

/-- Gives up what is being done because of too many arguments. A status that tells of a failure
stays. -/
def tooMany {α : Type} (command : String) : Act α := do
  complain (command ++ ": too many arguments")
  modify fun s => { s with status := if s.status = 0 then 1 else s.status }
  throw .abandonAll

/-- Tells how a command is to be called. -/
def tellUsage (command : String) : Act Unit := do
  if let some usage := Topic.usage? command then
    err (command ++ ": usage: " ++ usage ++ "\n")

/-- Options at the start of the arguments: letters, values of those that take one, and what
is wrong with the first that is not as it should be. -/
structure Given where
  letters : List Char := []
  valued : List (Char × String) := []
  unknown : Option Char := none
  /-- A letter whose value is missing. -/
  short : Option Char := none
  rest : List String := []

def Given.has (g : Given) (c : Char) : Bool := g.letters.contains c

/-- Takes options up to the first argument that is none. -/
def given (flags valued : List Char) : List String → Given
  | [] => {}
  | arg :: args =>
    match arg.toList with
    | ['-', '-'] => { rest := args }
    | '-' :: c :: cs =>
      let letters := (c :: cs).takeWhile flags.contains
      match (c :: cs).drop letters.length with
      | [] =>
        let g := given flags valued args
        { g with letters := letters ++ g.letters }
      | c :: cs =>
        if !valued.contains c then { letters, unknown := some c, rest := args }
        else if !cs.isEmpty then
          let g := given flags valued args
          { g with letters := letters ++ g.letters, valued := (c, String.ofList cs) :: g.valued }
        else match args with
          | value :: args =>
            let g := given flags valued args
            { g with letters := letters ++ g.letters, valued := (c, value) :: g.valued }
          | [] => { letters, short := some c }
    | _ => { rest := arg :: args }

/-- Takes options, or refuses those that are unknown. -/
def options (command : String) (flags valued : String) (args : List String)
    (next : Given → Act Nat) : Act Nat := do
  let g := given flags.toList valued.toList args
  match g.unknown, g.short, ← dialect with
  | some c, _, .plain => refuse command ("Illegal option -" ++ String.ofList [c]) 2
  | some c, _, .bash =>
    complain (command ++ ": -" ++ String.ofList [c] ++ ": invalid option")
    tellUsage command
    return 2
  | none, some c, .plain => refuse command ("No arg for -" ++ String.ofList [c] ++ " option") 2
  | none, some c, .bash =>
    complain (command ++ ": -" ++ String.ofList [c] ++ ": option requires an argument")
    tellUsage command
    return 2
  | none, none, _ => next g

/-- A number that is given to a command of the plain shell: no sign but `+`, and no more
than fits. -/
def count? (arg : String) : Option Nat :=
  match Numeral.decimal? arg with
  | some (.ofNat n) => if n < 2147483648 then some n else none
  | _ => none

/-- A whole number as the large shell takes it. -/
def whole? (arg : String) : Option Int :=
  (Numeral.decimalAmong? Numeral.isSpace Numeral.isBlank arg).filter fun n => -Numeral.signedMax - 1 ≤ n && n ≤ Numeral.signedMax

/-- A number for the plain shell, which gives up if it is none. -/
def count (command arg : String) : Act Nat := do
  match count? arg with
  | some n => return n
  | none =>
    remark command ("Illegal number: " ++ arg)
    setStatus 2
    throw .abandon

/-- Text between single quotes, with the quotes in it outside of them. -/
def singleQuoted (d : Dialect) (s : String) : String :=
  match d with
  | .bash =>
    if s = "'" then "\\'" else "'" ++ String.join (s.toList.map fun c => if c = '\'' then "'\\''" else String.ofList [c]) ++ "'"
  | .plain => String.join (runs (s.length + 1) s.toList)
where
  runs : Nat → List Char → List String
    | 0, _ => []
    | steps + 1, cs =>
      let text := cs.takeWhile (· ≠ '\'')
      let rest := cs.drop text.length
      let quotes := rest.takeWhile (· = '\'')
      let here := "'" ++ String.ofList text ++ "'"
      if quotes.isEmpty then [here]
      else
        let both := [here, "\"" ++ String.ofList quotes ++ "\""]
        match rest.drop quotes.length with
        | [] => both
        | rest => both ++ runs steps rest

end ScriptSearch.Host.Shell.Builtin
