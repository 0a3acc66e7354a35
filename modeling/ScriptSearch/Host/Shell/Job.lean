import ScriptSearch.Command
import ScriptSearch.Host.Process

/-! Parts of a script that run beside the shell. What is left to do of one is run from its start
whenever it can go further; what it has written before is not written again. -/

namespace ScriptSearch.Host.Shell

/-- A part that runs beside the shell, as lists show it. -/
structure Job where
  place : Nat
  number : Nat
  text : String := ""
  stages : Nat := 1
  /-- How it has ended, and when. -/
  ended : Option (Termination × Nat) := none
  listed : Bool := true
  /-- Whether its end has been waited for. -/
  awaited : Bool := false
  /-- Whether the plain shell has come to know of its end. -/
  noticed : Bool := false
  /-- The variable that holds the descriptors under which the shell reads and writes it, and these. -/
  companion : Option (String × List Nat) := none

namespace Job

/-- The status that it has ended with, or zero. -/
def status (j : Job) : Nat := (j.ended.map fun e => e.1.status).getD 0

def isRunning (j : Job) : Bool := j.ended.isNone

/-- Jobs after one is changed. -/
def change (jobs : List Job) (number : Nat) (f : Job → Job) : List Job :=
  jobs.map fun j => if j.number = number then f j else j

/-- Whether it has ended up to a time. -/
def hasEnded (j : Job) (time : Nat) : Bool := j.ended.any (·.2 ≤ time)

/-- Jobs without the first one whose end has been waited for, if its place comes before all that are
free: another one gets that place. -/
def withoutAwaited (jobs : List Job) : List Job :=
  let places := (jobs.filter (·.listed)).map (·.place)
  let free := ((List.range (places.length + 1)).map (· + 1)).find? (!places.contains ·)
  let ended := (jobs.filter fun j => j.listed && j.awaited && !j.isRunning).map (·.place)
  match ended.min? with
  | some place => if free.all (place < ·) then jobs.filter fun j => !(j.listed && j.place = place) else jobs
  | none => jobs

/-- Jobs with the end of one of them. -/
def withEnd (jobs : List Job) (number : Nat) (ending : Termination) (time : Nat) : List Job :=
  jobs.map fun j => if j.number = number then { j with ended := some (ending, time) } else j

end Job

/-- What is left to do of a part that runs beside the shell. -/
structure Beside where
  number : Nat
  /-- When it has been started. -/
  start : Nat
  /-- Up to when it does nothing more than it has done. -/
  wake : Nat
  work : Machine → Machine × Termination
  /-- What it has written to texts on their way. -/
  shown : List (Nat × String) := []
  /-- The signals that it has sent. -/
  sent : List Sent := []

namespace Beside

/-- How long a process takes to begin. -/
def latency : Nat := 1000

/-- The earlier one of two times, if they are given. -/
def sooner : Option Nat → Option Nat → Option Nat
  | some a, some b => some (min a b)
  | a, b => a <|> b

/-- What stands in a text behind another one that it begins with. -/
def addition? (old new : String) : Option String :=
  if old.isEmpty then some new
  else if old.toList.isPrefixOf new.toList then some (new.drop old.length).toString
  else none

/-- What has come of a run: the machine, and how the part has ended and when, or what is left to do. -/
structure Progress where
  machine : Machine
  left : Beside
  ended : Option (Termination × Nat) := none

/-- What a machine's texts on their way have got that they had not before. -/
def additions (before after : Machine) : List (Nat × String) :=
  (List.range before.streams.size).filterMap fun n =>
    match addition? (before.streams.getD n "") (after.streams.getD n "") with
    | some text => if text = "" then none else some (n, text)
    | none => none

/-- What is new in a text, of which something has been shown already. -/
def unseen (shown text : String) : String :=
  if text.toList.isPrefixOf shown.toList then "" else (addition? shown text).getD text

/-- A machine that gets texts behind what has been shown of them already. -/
def adding (m : Machine) (shown added : List (Nat × String)) : Machine :=
  added.foldl (fun m (n, text) =>
    { m with streams := m.streams.modify n (· ++ unseen ((shown.lookup n).getD "") text) }) m

/-- What has been shown of texts after more of them has been; a run that was halted earlier than
another one shows less. -/
def showing (shown added : List (Nat × String)) : List (Nat × String) :=
  added.foldl (fun shown (n, text) =>
    if unseen ((shown.lookup n).getD "") text = "" then shown
    else (n, text) :: shown.filter (·.1 ≠ n)) shown

/-- Runs a part up to a time, or to its end, while others still write to some texts on their way. -/
def run (b : Beside) (limit : Option Nat) (live : List Nat) (m : Machine) : Progress :=
  let (after, ending) := b.work { m with
    clock := b.start, deadline := sooner m.deadline limit, live := live ++ m.live }
  let others := after.signals.filter fun s => s.number ≠ b.number && !b.sent.contains s
  match after.halted with
  | none =>
    let texts := if b.shown.isEmpty then after
      else
        let base := { after with streams := after.streams.mapIdx fun n text =>
          if (b.shown.lookup n).isSome then m.streams.getD n text else text }
        adding base b.shown ((additions m after).filter fun (n, _) => (b.shown.lookup n).isSome)
    { machine := { texts with
        clock := m.clock, deadline := m.deadline, live := m.live, signals := others
        running := after.running.filter (· ≠ b.number) }
      left := b, ended := some (ending, after.clock) }
  | some (.blocked _) => { machine := { after with clock := m.clock, deadline := m.deadline }, left := b }
  | some halt =>
    let added := additions m after
    let new := others.filter fun s => !m.signals.contains s
    let wake := match halt with
      | .asleep wake => wake
      | _ => m.clock
    { machine := { adding m b.shown added with signals := m.signals ++ new }
      left := { b with wake, shown := showing b.shown added, sent := b.sent ++ new } }

end Beside

end ScriptSearch.Host.Shell
