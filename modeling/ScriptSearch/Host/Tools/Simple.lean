import ScriptSearch.Host.Printf
import ScriptSearch.Host.Signal
import ScriptSearch.Host.Test
import ScriptSearch.Host.Tools.Work

/-! Tools that look at their arguments and variables, and do little else. -/

namespace ScriptSearch.Host.Tools

open Work

/-- Prints the arguments. A strict tool knows options only after a first `-n`, and always
resolves escapes. -/
def echo : Work Unit := do
  let e := Provider.program
  let wide ← isWide
  let args := (← process).args
  if !(← isStrict) then say (e.echo wide args)
  else if args.head? = some "-n" then
    let ((bare, _), args) := e.echoOptions (false, true) args
    say (e.echoed wide bare true args)
  else say (e.echoed wide false true args)

/-- Prints arguments as a format says. -/
def printf : Work Unit := do
  match (← process).args with
  | [] | ["--"] => refuse "missing operand"
  | format :: args =>
    let (format, args) := if format = "--" then (args.headD "", args.tail) else (format, args)
    let result := Printf.print .program (← isWide) format args
    say result.text
    flush
    for message in result.messages do warn message
    setStatus result.status

/-- Tests files, texts and numbers. -/
def test : Work Unit := do
  modify fun g => { g with lostStatus := 2 }
  let p ← process
  let name := if lastPart p.name = "[" then "[" else "test"
  let view : Test.View := { tree := (← machine).tree, here := p.here }
  match Test.holds .program view name p.args with
  | .ok holds => setStatus (if holds then 0 else 1)
  | .error f => fault (Test.message (← isWide) .program f) 2
where
  lastPart (path : String) : String := (Text.split '/' path).getLastD ""

/-- Whether a text is a time to wait: a number, and a unit. -/
def isTime (s : String) : Bool :=
  let isEnd (cs : List Char) : Bool := cs.isEmpty || ["s", "m", "h", "d"].contains (String.ofList cs)
  match Real.read Real.extended s.toList with
  | some r => isEnd r.rest && !r.number.negative
  | none => false

/-- How long a time to wait is, in microseconds. -/
def microseconds (s : String) : Nat :=
  match Real.read Real.extended s.toList with
  | some r =>
    let unit : Nat := match r.rest with
      | ['m'] => 60
      | ['h'] => 3600
      | ['d'] => 86400
      | _ => 1
    match r.number.magnitude with
    | .finite num den => num * unit * 1000000 / den
    | _ => Nat.pow 10 18
  | none => 0

def sleep : Work Unit := do
  let g ← options {}
  if g.operands.isEmpty then refuse "missing operand"
  let bad := g.operands.filter (!isTime ·)
  if !bad.isEmpty then
    for time in bad.dropLast do warn ("invalid time interval " ++ (← quoted time))
    refuse ("invalid time interval " ++ (← quoted (bad.getLastD "")))
  modifyThe Machine (·.pass ((g.operands.map microseconds).foldl (· + ·) 0))
  heed

/-- Prints variables. -/
def printVariables : Work Unit := do
  modify fun g => { g with lostStatus := 2 }
  let g ← options { rules := [flag "0" "null"], inOrder := true } 2
  let p ← process
  let stop := if g.has "0" then '\x00' else '\n'
  if g.operands.isEmpty then say (String.join (p.environment.map (·.push stop)))
  for name in g.operands do
    match if name.toList.contains '=' then none else settingOf? p.environment name with
    | some value => say (value.push stop)
    | none => setStatus 1

/-- Writes a line again and again, until nobody takes it any more. -/
def endlessly : Work Unit := do
  let g ← options {}
  let line := (if g.operands.isEmpty then "y" else String.intercalate " " g.operands) ++ "\n"
  let count := (← endlessSize) / line.utf8ByteSize + 1
  say (String.join (List.replicate count line))
  breakOff

end ScriptSearch.Host.Tools
