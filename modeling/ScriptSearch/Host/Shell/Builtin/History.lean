import ScriptSearch.Host.Shell.Builtin.Basic

/-! Commands of the large shell about the commands that were read before. -/

namespace ScriptSearch.Host.Shell.Builtin

open Act

/-! ### The list -/

/-- Writes the entries from one place on, with their numbers. -/
def listHistory (start : Nat) : Act Unit := do
  for (entry, i) in (← get).history.entries.zipIdx.drop start do
    let number := toString (i + 1)
    out ("".pushn ' ' (5 - number.length) ++ number ++ "  " ++ entry ++ "\n")

/-- Takes entries out that a number or a range of numbers names. -/
def forgetEntries (text : String) : Act Nat := do
  let size := (← get).history.entries.length
  let outside (text : String) : Act Nat := refuse "history" (text ++ ": history position out of range") 1
  let place (text : String) : Option Nat := (whole? text).bind fun n =>
    let i := if n < 0 then (size : Int) + n else n - 1
    if 0 ≤ i ∧ i < size then some i.toNat else none
  let cs := text.toList
  let first := cs.take 1 ++ (cs.drop 1).takeWhile (· ≠ '-')
  let (first, last) := (String.ofList first, String.ofList (cs.drop (first.length + 1)))
  let last := if first.length < text.length then last else first
  match place first, place last with
  | none, _ => outside first
  | _, none => outside last
  | some i, some j =>
    modify fun s => { s with history := s.history.drop i (j + 1 - i) }
    return 0

/-- The lines of a file of entries. -/
def readEntries (path : String) : Act (Option (List String)) := do
  let s ← get
  match (process s).read path s.machine with
  | .error _ => return none
  | .ok (text, machine) =>
    set { s with machine }
    return some ((Text.split '\n' text).filter (· ≠ ""))

/-- Writes entries to a file. -/
def writeEntries (path : String) (opening : Opening) (entries : List String) : Act Bool := do
  let s ← get
  match (process s).openFile path opening s.machine with
  | .error _ => return false
  | .ok (channel, machine) =>
    set { s with machine := machine.write (String.join (entries.map (· ++ "\n"))) channel }
    return true

/-- Exchanges entries with a file, in the way that a letter says. -/
def exchange (way : Char) (path : String) : Act Nat := do
  let h := (← get).history
  let put (h : History) : Act Unit := modify fun s => { s with history := h }
  match way with
  | 'w' =>
    if ← writeEntries path .replacing h.entries then
      put { h with fresh := 0, known := h.entries.length }
      return 0
    else return 1
  | 'a' =>
    if ← writeEntries path .appending (h.entries.drop (h.entries.length - h.fresh)) then
      put { h with fresh := 0, known := h.known + h.fresh }
      return 0
    else return 1
  | way =>
    match ← readEntries path with
    | none => return 1
    | some lines =>
      let new := if way = 'n' then lines.drop h.known else lines
      let fresh := if way = 'n' then h.fresh + new.length else h.fresh
      put { entries := h.entries ++ new, fresh, known := lines.length }
      return 0

def history (args : List String) : Act Nat :=
  options "history" "canrwps" "d" args fun g => do
    let ways := g.letters.filter "anrw".toList.contains
    if 1 < ways.eraseDups.length then return ← refuse "history" "cannot use more than one of -anrw" 1
    if g.has 'c' then
      modify fun s => { s with history := {} }
      if g.rest.isEmpty then return 0
    if g.has 's' then
      if !g.rest.isEmpty then
        modify fun s => { s with history := s.history.push (String.intercalate " " g.rest) }
      return 0
    if g.has 'p' then
      for arg in g.rest do
        match History.expanded? (← get).history.entries (arg.length + 1) arg.toList with
        | some text => out (text ++ "\n")
        | none => return ← refuse "history" (arg ++ ": history expansion failed") 1
      return 0
    if let some text := g.valued.lookup 'd' then return ← forgetEntries text
    match ways.getLast?, g.rest with
    | some way, rest =>
      match rest.head? <|> (← value? "HISTFILE") with
      | some path => exchange way path
      | none => return 0
    | none, [] =>
      listHistory 0
      return 0
    | none, text :: rest =>
      match whole? text with
      | none => refuse "history" (text ++ ": numeric argument required") 1
      | some n =>
        if !rest.isEmpty then tooMany "history"
        listHistory ((← get).history.entries.length - n.natAbs)
        return 0

/-! ### Earlier commands again -/

/-- The entries that commands are chosen from: those before the current line. -/
def earlier : Act (List String) := do
  let s ← get
  return if s.switches.contains (.idle "history") then s.history.entries.dropLast else s.history.entries

/-- Lists a range of entries. -/
def listEarlier (g : Given) : Act Nat := do
  let entries ← earlier
  if entries.isEmpty then return 0
  let size := entries.length
  let first := match g.rest.head? with
    | some text => if (text.toNat?.getD 0) ≤ size then History.place? entries text else some 0
    | none => some (size - 16)
  let last := match g.rest[1]? with
    | some text => History.place? entries text
    | none => some (size - 1)
  match first, last with
  | some i, some j =>
    let (i, j, turned) := if j < i then (j, i, true) else (i, j, false)
    let rows := (entries.zipIdx.drop i).take (j + 1 - i)
    let rows := if turned != g.has 'r' then rows.reverse else rows
    for (entry, n) in rows do
      out ((if g.has 'n' then "" else toString (n + 1)) ++ "\t " ++ entry ++ "\n")
    return 0
  | _, _ => refuse "fc" "no command found" 1

/-- The command that is to be run again, with texts in it replaced. -/
def again? (args : List String) : Act (Option String) := do
  let entries ← earlier
  let changes := (args.takeWhile (·.toList.contains '=')).map fun arg =>
    let name := arg.toList.takeWhile (· ≠ '=')
    (String.ofList name, String.ofList (arg.toList.drop (name.length + 1)))
  let entry := match args.drop changes.length with
    | [] => entries.getLast?
    | text :: _ => (History.place? entries text).map fun i => entries.getD i ""
  return entry.map fun entry => changes.foldl (fun entry (old, new) => entry.replace old new) entry

/-- Lists earlier commands, or gives the one that is to be run again. -/
def callAgain (args : List String) (run : String → Act Nat) : Act Nat :=
  let isNumber (arg : String) : Bool :=
    let digits := if arg.startsWith "-" then arg.toList.drop 1 else arg.toList
    !digits.isEmpty && digits.all Char.isDigit
  let (front, behind) := args.span (!isNumber ·)
  options "fc" "lnrs" "e" front fun g => do
    let g := { g with rest := g.rest ++ behind }
    if g.has 's' ∨ g.valued.lookup 'e' = some "-" then
      match ← again? g.rest with
      | none => refuse "fc" "no command found" 1
      | some command =>
        err (command ++ "\n")
        modify fun s =>
          { s with history := { s.history with entries := s.history.entries.dropLast }.push command }
        run command
    else if g.has 'l' then listEarlier g
    else if (← earlier).isEmpty then return 0
    else
      complain "vi: command not found"
      return 1

end ScriptSearch.Host.Shell.Builtin
