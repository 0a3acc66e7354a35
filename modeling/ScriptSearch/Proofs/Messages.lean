import ScriptSearch.Proofs.Trace

/-! Standard error, message by message. A message of the program has a level and a text; a
report and what a child process writes stand there as they are. Verbosity decides which
messages there are, colour how the name of a level looks, and the label of a report only
how the report begins. -/

namespace ScriptSearch

/-! ### Messages -/

inductive Message
  | noted (level : Level) (text : String)
  | report (r : Report)
  /-- What a child process writes. -/
  | passed (text : String)
  deriving DecidableEq, Repr

namespace Message

/-- Messages that only a verbose display shows. -/
def informative : Message → Bool
  | noted .info _ => true
  | _ => false

/-- The message as it is written. -/
def line (colorize : Bool) : Message → String
  | noted level text => level.style.apply colorize (level.name ++ ":") ++ " " ++ text ++ "\n"
  | report r => r.text
  | passed text => text

end Message

/-- What an event has to say on standard error. -/
def Event.message? : Event → Option Message
  | notice n => some (.noted n.level n.text)
  | report r => some (.report r)
  | err text => some (.passed text)
  | _ => none

namespace Trace

/-- The messages of a trace on a display that is verbose or not. -/
def messages (verbose : Bool) (t : Trace) : List Message :=
  (t.filterMap Event.message?).filter fun m => verbose || !m.informative

/-- Without the informative messages, every display has the same messages. -/
theorem filter_messages (verbose : Bool) (t : Trace) :
    (t.messages verbose).filter (fun m => !m.informative) = t.messages false := by
  rw [messages, List.filter_filter]
  congr 1
  funext m
  cases verbose <;> cases m.informative <;> rfl

theorem messages_append (verbose : Bool) (s t : Trace) :
    messages verbose (s ++ t) = s.messages verbose ++ t.messages verbose := by
  simp [messages]

/-- A quiet trace has informative messages only. -/
theorem Quiet.messages {t : Trace} (h : t.Quiet) : t.messages false = [] := by
  rw [Trace.messages, List.filter_eq_nil_iff]
  intro m hm
  obtain ⟨e, he, hmessage⟩ := List.mem_filterMap.mp hm
  have hquiet := h e he
  cases e with
  | notice n =>
    have hlevel : n.level = .info := by simpa [Event.quiet] using hquiet
    obtain rfl : Message.noted n.level n.text = m := Option.some.inj hmessage
    simp [hlevel, Message.informative]
  | report _ | err _ => cases hquiet
  | asked _ _ | handed _ _ | started _ | out _ => cases hmessage

theorem stderr_event (display : Display) (e : Event) :
    e.stderr display =
      String.join ((messages display.verbose [e]).map (Message.line display.colorize)) := by
  cases e with
  | notice n =>
    cases hl : n.level <;> cases hv : display.verbose <;>
      simp [Event.stderr, Notice.line, Level.line, Level.shown, messages, Event.message?,
        Message.informative, Message.line, hl, hv]
  | report r => simp [messages, Event.message?, Event.stderr, Message.informative, Message.line]
  | err text => simp [messages, Event.message?, Event.stderr, Message.informative, Message.line]
  | asked _ _ | handed _ _ | started _ | out _ => rfl

/-- Standard error is made up of the lines of the messages. -/
theorem stderr_eq_join (display : Display) (t : Trace) :
    t.stderr display =
      String.join ((t.messages display.verbose).map (Message.line display.colorize)) := by
  induction t with
  | nil => rfl
  | cons e t ih =>
    have hsplit : messages display.verbose (e :: t) = _ := messages_append _ [e] t
    rw [stderr_cons, stderr_event, ih, hsplit, List.map_append, String.join_append]

end Trace

/-! ### Labels -/

/-- The report under another label. -/
def Report.withLabel (label : String) : Report → Report
  | nameMissing _ => nameMissing label
  | notFound _ e => notFound label e

def Message.withLabel (label : String) : Message → Message
  | report r => report (r.withLabel label)
  | m => m

def Event.withLabel (label : String) : Event → Event
  | report r => report (r.withLabel label)
  | e => e

namespace Trace

variable (label : String)

/-- The trace with its reports under another label. -/
def withLabel (t : Trace) : Trace := t.map (Event.withLabel label)

@[simp] theorem withLabel_nil : withLabel label [] = [] := rfl

@[simp] theorem withLabel_cons (e : Event) (t : Trace) :
    withLabel label (e :: t) = e.withLabel label :: t.withLabel label := rfl

@[simp] theorem withLabel_append (s t : Trace) :
    withLabel label (s ++ t) = s.withLabel label ++ t.withLabel label :=
  List.map_append

/-- A label shows in reports only. -/
theorem withLabel_of_no_report {t : Trace} (h : ∀ r, .report r ∉ t) : t.withLabel label = t := by
  have hid : ∀ e ∈ t, e.withLabel label = e := by
    intro e he
    cases e with
    | report r => exact absurd he (h r)
    | _ => rfl
  rw [withLabel, List.map_congr_left hid, List.map_id']

theorem Passive.withLabel {t : Trace} (h : t.Passive) : t.withLabel label = t :=
  withLabel_of_no_report label fun _ hr => Bool.false_ne_true (h _ hr)

theorem stdout_withLabel (t : Trace) : (t.withLabel label).stdout = t.stdout := by
  rw [stdout, withLabel, List.map_map]
  congr 2
  funext e
  cases e <;> rfl

theorem commands_withLabel (t : Trace) : (t.withLabel label).commands = t.commands := by
  rw [commands, withLabel, List.filterMap_map]
  congr 1
  funext e
  cases e <;> rfl

theorem messages_withLabel (verbose : Bool) (t : Trace) :
    (t.withLabel label).messages verbose = (t.messages verbose).map (Message.withLabel label) := by
  have hmessage : Event.message? ∘ Event.withLabel label =
      fun e => e.message?.map (Message.withLabel label) := by
    funext e
    cases e <;> rfl
  have hinformative (m : Message) : (m.withLabel label).informative = m.informative := by
    cases m <;> rfl
  rw [messages, withLabel, List.filterMap_map, hmessage, ← List.map_filterMap, List.filter_map]
  simp only [Function.comp_def, hinformative, messages]

end Trace

end ScriptSearch
