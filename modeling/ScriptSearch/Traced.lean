import ScriptSearch.Notice
import ScriptSearch.Resolution

/-! Computations with a trace of all that they do. The trace does not depend on how
messages are shown: a display turns it into text afterwards. -/

namespace ScriptSearch

/-- Which searcher of a chain: a built-in kind, or one registered under a label. -/
inductive SearcherKind
  | templates
  | directories
  | registered (label : String)
  deriving DecidableEq, Repr

/-- One thing that a run does. -/
inductive Event
  | notice (n : Notice)
  /-- A searcher is asked for a name. -/
  | asked (who : SearcherKind) (name : String)
  /-- A loader gets a path and the script's arguments. -/
  | handed (path : String) (args : List String)
  /-- The system is asked for a child process. -/
  | started (c : Command)
  | report (r : Report)
  | out (text : String)
  | err (text : String)
  deriving DecidableEq, Repr

abbrev Trace := List Event

/-- The part of an event on standard output. -/
def Event.stdout : Event → String
  | out text => text
  | _ => ""

/-- The part of an event on standard error. -/
def Event.stderr (display : Display) : Event → String
  | notice n => n.line display
  | report r => r.text
  | err text => text
  | _ => ""

namespace Trace

def stdout (t : Trace) : String := String.join (t.map Event.stdout)

def stderr (display : Display) (t : Trace) : String := String.join (t.map (Event.stderr display))

@[simp] theorem stdout_nil : stdout [] = "" := rfl

@[simp] theorem stderr_nil (display : Display) : stderr display [] = "" := rfl

@[simp] theorem stdout_cons (e : Event) (t : Trace) : stdout (e :: t) = e.stdout ++ t.stdout := by
  simp [stdout]

@[simp] theorem stderr_cons (display : Display) (e : Event) (t : Trace) :
    stderr display (e :: t) = e.stderr display ++ t.stderr display := by
  simp [stderr]

@[simp] theorem stdout_append (s t : Trace) : stdout (s ++ t) = s.stdout ++ t.stdout := by
  simp [stdout]

@[simp] theorem stderr_append (display : Display) (s t : Trace) :
    stderr display (s ++ t) = s.stderr display ++ t.stderr display := by
  simp [stderr]

end Trace

/-- A value and the trace of its computation. -/
@[ext]
structure Traced (α : Type) where
  value : α
  trace : Trace := []

namespace Traced

variable {α β : Type}

instance : Monad Traced where
  pure a := ⟨a, []⟩
  bind x f := ⟨(f x.value).value, x.trace ++ (f x.value).trace⟩

@[simp] theorem value_pure (a : α) : (pure a : Traced α).value = a := rfl

@[simp] theorem trace_pure (a : α) : (pure a : Traced α).trace = [] := rfl

@[simp] theorem value_bind (x : Traced α) (f : α → Traced β) :
    (x >>= f).value = (f x.value).value := rfl

@[simp] theorem trace_bind (x : Traced α) (f : α → Traced β) :
    (x >>= f).trace = x.trace ++ (f x.value).trace := rfl

/-- Does one thing. -/
def emit (e : Event) : Traced Unit := ⟨(), [e]⟩

/-- Does things in order. -/
def emitAll (events : Trace) : Traced Unit := ⟨(), events⟩

/-- Gives a notice. -/
def note (n : Notice) : Traced Unit := emit (.notice n)

@[simp] theorem trace_emit (e : Event) : (emit e).trace = [e] := rfl

@[simp] theorem trace_emitAll (events : Trace) : (emitAll events).trace = events := rfl

@[simp] theorem trace_note (n : Notice) : (note n).trace = [.notice n] := rfl

end Traced

end ScriptSearch
