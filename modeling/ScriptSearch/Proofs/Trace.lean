import Mathlib.Tactic.SplitIfs
import ScriptSearch.Traced

/-! What of a trace shows. Some events only record a call and write nothing; informative
notices write only on a verbose display. A trace of such events is quiet: nothing of it
shows unless the display is verbose. A trace is passive as long as nothing is loaded. -/

namespace ScriptSearch

/-- Events that can show on one of the outputs; the others only record what was called. -/
def Event.writes : Event → Bool
  | asked _ _ | handed _ _ | started _ => false
  | notice _ | report _ | out _ | err _ => true

theorem Event.stderr_of_silent (display : Display) :
    ∀ {e : Event}, e.writes = false → e.stderr display = ""
  | .asked _ _, _ | .handed _ _, _ | .started _, _ => rfl

namespace Trace

variable {t : Trace} {display : Display}

theorem stdout_eq_empty (h : ∀ e ∈ t, e.stdout = "") : t.stdout = "" := by
  induction t with
  | nil => rfl
  | cons e t ih =>
    obtain ⟨he, ht⟩ := List.forall_mem_cons.mp h
    rw [stdout_cons, he, ih ht, String.empty_append]

theorem stderr_eq_empty (h : ∀ e ∈ t, e.stderr display = "") : t.stderr display = "" := by
  induction t with
  | nil => rfl
  | cons e t ih =>
    obtain ⟨he, ht⟩ := List.forall_mem_cons.mp h
    rw [stderr_cons, he, ih ht, String.empty_append]

/-- The events of a trace that can show. -/
def written (t : Trace) : Trace := t.filter Event.writes

@[simp] theorem written_nil : written [] = [] := rfl

@[simp] theorem written_append (s t : Trace) : written (s ++ t) = s.written ++ t.written :=
  List.filter_append s t

theorem written_cons (e : Event) (t : Trace) :
    written (e :: t) = if e.writes then e :: t.written else t.written := by
  simp [written, List.filter_cons]

theorem stderr_written (display : Display) (t : Trace) :
    t.written.stderr display = t.stderr display := by
  induction t with
  | nil => rfl
  | cons e t ih =>
    rw [written_cons]
    split_ifs with h
    · rw [stderr_cons, stderr_cons, ih]
    · rw [stderr_cons, Event.stderr_of_silent display (by simpa using h), ih, String.empty_append]

end Trace

/-! ### Notices -/

def Event.notice? : Event → Option Notice
  | notice n => some n
  | _ => none

namespace Trace

/-- The notices of one level, in order. -/
def noticesAt (level : Level) (t : Trace) : List Notice :=
  (t.filterMap Event.notice?).filter (·.level = level)

@[simp] theorem noticesAt_nil (level : Level) : noticesAt level [] = [] := rfl

@[simp] theorem noticesAt_append (level : Level) (s t : Trace) :
    noticesAt level (s ++ t) = s.noticesAt level ++ t.noticesAt level := by
  simp [noticesAt]

theorem noticesAt_eq_nil {level : Level} {t : Trace} (h : ∀ n, .notice n ∈ t → n.level ≠ level) :
    t.noticesAt level = [] := by
  rw [noticesAt, List.filter_eq_nil_iff]
  intro n hn
  obtain ⟨e, he, hnotice⟩ := List.mem_filterMap.mp hn
  cases e with
  | notice n' =>
    obtain rfl : n' = n := Option.some.inj hnotice
    simpa using h n' he
  | _ => cases hnotice

end Trace

/-! ### Calls -/

/-- The command for which an event asks the system for a child process. -/
def Event.command? : Event → Option Command
  | started c => some c
  | _ => none

/-- The path and the arguments that an event hands to a loader. -/
def Event.handover? : Event → Option (String × List String)
  | handed path args => some (path, args)
  | _ => none

namespace Trace

/-- The commands for which child processes are asked for, in order. -/
def commands (t : Trace) : List Command := t.filterMap Event.command?

/-- What loaders get, in order. -/
def handovers (t : Trace) : List (String × List String) := t.filterMap Event.handover?

@[simp] theorem commands_nil : commands [] = [] := rfl

@[simp] theorem handovers_nil : handovers [] = [] := rfl

theorem commands_cons (e : Event) (t : Trace) :
    commands (e :: t) = e.command?.toList ++ t.commands := by
  cases h : e.command? <;> simp [commands, h]

theorem handovers_cons (e : Event) (t : Trace) :
    handovers (e :: t) = e.handover?.toList ++ t.handovers := by
  cases h : e.handover? <;> simp [handovers, h]

@[simp] theorem commands_append (s t : Trace) : commands (s ++ t) = s.commands ++ t.commands :=
  List.filterMap_append

@[simp] theorem handovers_append (s t : Trace) :
    handovers (s ++ t) = s.handovers ++ t.handovers :=
  List.filterMap_append

end Trace

/-! ### Quiet traces -/

/-- Events that show at most on a verbose display. -/
def Event.quiet : Event → Bool
  | notice n => n.level == .info
  | asked _ _ | handed _ _ | started _ => true
  | report _ | out _ | err _ => false

theorem Event.stdout_of_quiet : ∀ {e : Event}, e.quiet = true → e.stdout = ""
  | .notice _, _ | .asked _ _, _ | .handed _ _, _ | .started _, _ => rfl

theorem Event.stderr_of_quiet {display : Display} (hd : display.verbose = false) :
    ∀ {e : Event}, e.quiet = true → e.stderr display = ""
  | .asked _ _, _ | .handed _ _, _ | .started _, _ => rfl
  | .notice n, h => by
    have hn : n.level = .info := by simpa [quiet] using h
    simp [stderr, Notice.line, Level.line, hn, Level.shown, hd]

namespace Trace

/-- Nothing of the trace shows unless the display is verbose. -/
def Quiet (t : Trace) : Prop := ∀ e ∈ t, e.quiet = true

theorem Quiet.append {s t : Trace} (hs : s.Quiet) (ht : t.Quiet) : (s ++ t).Quiet :=
  List.forall_mem_append.mpr ⟨hs, ht⟩

theorem Quiet.flatMap {α : Type} {l : List α} {f : α → Trace} (h : ∀ a ∈ l, (f a).Quiet) :
    Quiet (l.flatMap f) :=
  List.forall_mem_flatMap.mpr h

theorem Quiet.stdout {t : Trace} (h : t.Quiet) : t.stdout = "" :=
  stdout_eq_empty fun e he => Event.stdout_of_quiet (h e he)

theorem Quiet.stderr {t : Trace} (h : t.Quiet) {display : Display}
    (hd : display.verbose = false) : t.stderr display = "" :=
  stderr_eq_empty fun e he => Event.stderr_of_quiet hd (h e he)

end Trace

/-! ### Passive traces -/

/-- Events that leave the surroundings alone: what is noted, and who is asked. -/
def Event.passive : Event → Bool
  | notice _ | asked _ _ => true
  | handed _ _ | started _ | report _ | out _ | err _ => false

theorem Event.stdout_of_passive : ∀ {e : Event}, e.passive = true → e.stdout = ""
  | .notice _, _ | .asked _ _, _ => rfl

namespace Trace

/-- Nothing is loaded, started or written to standard output. -/
def Passive (t : Trace) : Prop := ∀ e ∈ t, e.passive = true

theorem Passive.append {s t : Trace} (hs : s.Passive) (ht : t.Passive) : (s ++ t).Passive :=
  List.forall_mem_append.mpr ⟨hs, ht⟩

theorem Passive.not_started {t : Trace} (h : t.Passive) (c : Command) : .started c ∉ t :=
  fun hc => Bool.false_ne_true (h _ hc)

theorem Passive.commands {t : Trace} (h : t.Passive) : t.commands = [] := by
  rw [Trace.commands, List.filterMap_eq_nil_iff]
  intro e he
  have hpassive := h e he
  cases e with
  | started c => cases hpassive
  | _ => rfl

theorem Passive.handovers {t : Trace} (h : t.Passive) : t.handovers = [] := by
  rw [Trace.handovers, List.filterMap_eq_nil_iff]
  intro e he
  have hpassive := h e he
  cases e with
  | handed path args => cases hpassive
  | _ => rfl

theorem Passive.stdout {t : Trace} (h : t.Passive) : t.stdout = "" :=
  stdout_eq_empty fun e he => Event.stdout_of_passive (h e he)

end Trace

end ScriptSearch
