import ScriptSearch.Loader
import ScriptSearch.Proofs.Messages

/-! Loading a script that was found. An interpreter is one child process, which gets the
script behind `--` and the script's arguments as they are. If the system makes the process
and waits for it, its status is the status of the command. A script that is printed needs no
process. -/

namespace ScriptSearch

/-- The events of a script that is printed or interpreted. -/
def Event.ofLoader : Event → Bool
  | notice n =>
    match n with
    | .running _ | .notForked _ | .notStarted _ _ | .notAwaited _ _ => true
    | _ => false
  | started _ | out _ | err _ => true
  | asked _ _ | handed _ _ | report _ => false

/-- The status of a child process: the program's own, a number for the signal that ended it,
or the one with which a process ends that cannot become its program. -/
def invokedStatus : Except OsError Run → Nat
  | .ok run =>
    match run.ending with
    | .exited code => code.toNat
    | .killed signal => 128 + signal.val
  | .error _ => 127

theorem invokedStatus_lt (invoked : Except OsError Run) : invokedStatus invoked < 256 := by
  cases invoked with
  | error e =>
    show 127 < 256
    decide
  | ok run => exact run.ending.status_lt

variable (launch : Launcher) (c : Command)

/-- The status of a command: that of its child process, unless the system does not make one
or does not wait for it. -/
def Command.status : Nat :=
  match launch c with
  | .ok ⟨invoked, none⟩ => invokedStatus invoked
  | .ok ⟨_, some _⟩ | .error _ => 1

namespace Command

variable {launch c}

theorem status_of_child {invoked : Except OsError Run} (h : launch c = .ok ⟨invoked, none⟩) :
    c.status launch = invokedStatus invoked := by
  rw [status, h]

variable (launch c)

theorem status_lt : c.status launch < 256 := by
  unfold status
  split
  · exact invokedStatus_lt _
  all_goals decide

/-! ### The child process -/

theorem status_invoke (invoked : Except OsError Run) :
    (c.invoke invoked).value.status = invokedStatus invoked := by
  cases invoked with
  | error e => rfl
  | ok run => cases h : run.ending <;> simp [invoke, invokedStatus, Termination.status, h]

theorem trace_invoke (invoked : Except OsError Run) :
    (c.invoke invoked).trace =
      match invoked with
      | .ok run => [.out run.out, .err run.err]
      | .error e => [.notice (.notStarted c.program e)] := by
  cases invoked <;> rfl

/-! ### The whole command -/

theorem value_run : (c.run launch).value = c.status launch := by
  unfold run status
  rcases launch c with e | ⟨invoked, _ | e⟩
  · rfl
  · exact c.status_invoke invoked
  · rfl

theorem trace_run :
    (c.run launch).trace = [.notice (.running c), .started c] ++
      match launch c with
      | .error e => [.notice (.notForked e)]
      | .ok child => (c.invoke child.invoked).trace ++
          (child.lost?.map fun e => .notice (.notAwaited c.program e)).toList := by
  unfold run
  rcases launch c with e | ⟨invoked, _ | e⟩ <;> rfl

/-- What a command does and reports is what a loader does, whether the system makes a process
for it or not. -/
theorem ofLoader_run : ∀ e ∈ (c.run launch).trace, e.ofLoader = true := by
  rw [trace_run]
  rcases launch c with e | ⟨e | run, _ | e⟩ <;> simp [trace_invoke, Event.ofLoader]

theorem commands_run : (c.run launch).trace.commands = [c] := by
  rw [trace_run, Trace.commands_append]
  rcases launch c with e | ⟨e | run, _ | e⟩ <;> rfl

theorem handovers_run : (c.run launch).trace.handovers = [] := by
  rw [trace_run, Trace.handovers_append]
  rcases launch c with e | ⟨e | run, _ | e⟩ <;> rfl

end Command

namespace Loader

variable (path : String) (args : List String)

theorem load_interpret (interpreter : String) :
    load launch path args (interpret interpreter) =
      ⟨(command interpreter path args).status launch,
        ((command interpreter path args).run launch).trace⟩ := by
  ext1
  · simp [load, Command.value_run]
  · simp [load]

theorem load_print : load launch path args print = ⟨0, [.out (path ++ "\n")]⟩ := rfl

end Loader

end ScriptSearch
