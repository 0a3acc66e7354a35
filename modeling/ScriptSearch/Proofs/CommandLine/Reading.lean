import ScriptSearch.Reading
import ScriptSearch.Proofs.CommandLine.Grammar

/-! Reading word by word against the grammar. An option item takes the reading from one
place where an option may stand to the next, with the item applied to the options; an
ending decides the status, the arguments and what is written. Which value an option has in
the end is then said for each of them alone, by the last item or by all items that set it. -/

namespace ScriptSearch.CommandLine

/-- What is written at an ending. -/
def Ending.trace : Ending → Trace
  | help => [.out usageText]
  | version => [.out versionText]
  | refused e => [.notice (.badOption e)]
  | _ => []

/-! ### One word -/

namespace Reading

theorem run_cons_ok {r r' : Reading} {word : String} (h : r.step word = ⟨.ok r', []⟩)
    (rest : List String) : r.run (word :: rest) = r'.run rest := by
  ext1 <;> simp [run, h]

theorem run_cons_error {r : Reading} {word : String} {status : Nat} {t : Trace}
    (h : r.step word = ⟨.error status, t⟩) (rest : List String) :
    r.run (word :: rest) = ⟨(some status, r.options), t⟩ := by
  ext1 <;> simp [run, h]

variable (o : Options)

/-- Behind the script's name or `--` all words are arguments. -/
theorem run_argument (words : List String) :
    run ⟨o, .argument⟩ words = ⟨(none, { o with args := o.args ++ words }), []⟩ := by
  induction words generalizing o with
  | nil => simp [run, finish, pure, bind]
  | cons word rest ih =>
    have hstep : step ⟨o, .argument⟩ word = ⟨.ok (addArgument o word), []⟩ := rfl
    rw [run_cons_ok hstep, addArgument, ih]
    simp

/-- With no option pending, a word is read by its meaning. -/
theorem step_option {w : Word} {word : String} (h : w.Means word) :
    step ⟨o, .option⟩ word =
      match w with
      | .help => ⟨.error 0, [.out usageText]⟩
      | .version => ⟨.error 0, [.out versionText]⟩
      | .flag f => ⟨.ok ⟨f.apply o, .option⟩, []⟩
      | .interpreter => ⟨.ok ⟨o, .interpreter⟩, []⟩
      | .template => ⟨.ok ⟨o, .template⟩, []⟩
      | .separator => ⟨.ok ⟨o, .argument⟩, []⟩
      | .unknown => ⟨.error usageStatus, [.notice (.badOption (.unrecognized word))]⟩
      | .plain => ⟨.ok (addArgument o word), []⟩ := by
  rw [step, readOption, Word.ofString_of_means h]
  cases w <;> rfl

/-! ### Items and endings -/

theorem run_item {item : Item} {words : List String} (h : item.Written words)
    (rest : List String) :
    run ⟨o, .option⟩ (words ++ rest) = run ⟨item.apply o, .option⟩ rest := by
  cases item with
  | flag f =>
    obtain ⟨s, hs, rfl⟩ := h
    exact run_cons_ok (step_option o hs) rest
  | interpreter program =>
    obtain ⟨s, hs, rfl⟩ := h
    exact (run_cons_ok (step_option o hs) (program :: rest)).trans (run_cons_ok rfl rest)
  | template text =>
    obtain ⟨s, hs, rfl⟩ := h
    exact (run_cons_ok (step_option o hs) (text :: rest)).trans (run_cons_ok rfl rest)

/-- Complete options leave nothing pending: what follows is read from the options they set. -/
theorem run_items {items : List Item} {front : List String} (h : ItemsWritten items front)
    (rest : List String) :
    run ⟨o, .option⟩ (front ++ rest) = run ⟨items.foldl Item.apply o, .option⟩ rest := by
  induction h generalizing o with
  | nil => rfl
  | cons head _ ih => rw [List.append_assoc, run_item o head, ih, List.foldl_cons]

theorem run_ending {e : Ending} {words : List String} (h : e.Written words) :
    run ⟨o, .option⟩ words = ⟨(e.status?, { o with args := o.args ++ e.args }), e.trace⟩ := by
  match e, h with
  | .noMore, h =>
    subst h
    simp [run, finish, pure, bind, Ending.status?, Ending.args, Ending.trace]
  | .separator args, h =>
    subst h
    rw [run_cons_ok (step_option o (w := .separator) rfl), run_argument]
    rfl
  | .script name args, ⟨hname, h⟩ =>
    subst h
    rw [run_cons_ok (step_option o hname), addArgument, run_argument]
    simp [Ending.status?, Ending.args, Ending.trace]
  | .help, ⟨s, rest, hs, h⟩ =>
    subst h
    rw [run_cons_error (step_option o hs)]
    simp [Ending.status?, Ending.args, Ending.trace]
  | .version, ⟨s, rest, hs, h⟩ =>
    subst h
    rw [run_cons_error (step_option o hs)]
    simp [Ending.status?, Ending.args, Ending.trace]
  | .refused (.unrecognized word), ⟨hword, rest, h⟩ =>
    subst h
    rw [run_cons_error (step_option o hword)]
    simp [Ending.status?, Ending.args, Ending.trace]
  | .refused .missingInterpreter, ⟨s, hs, h⟩ =>
    subst h
    rw [run_cons_ok (step_option o hs)]
    simp [run, finish, refuse, pure, bind, Ending.status?, Ending.args, Ending.trace]
  | .refused .missingTemplate, ⟨s, hs, h⟩ =>
    subst h
    rw [run_cons_ok (step_option o hs)]
    simp [run, finish, refuse, pure, bind, Ending.status?, Ending.args, Ending.trace]

end Reading

/-- Reading a command line word by word does what its items and its ending say. -/
theorem parse_of_writes {c : CommandLine} {words : List String} (h : c.Writes words)
    (o : Options) : parse o words = ⟨(c.ending.status?, c.options o), c.ending.trace⟩ := by
  obtain ⟨front, back, rfl, hfront, hback⟩ := h
  rw [parse, Reading.run_items o hfront, Reading.run_ending _ hback]
  rfl

/-! ### The options in the end -/

/-- The value that an item gives to the interpreter. -/
def Item.interpreter? : Item → Option String
  | interpreter program => some program
  | _ => none

/-- The template that an item adds. -/
def Item.template? : Item → Option String
  | template text => some text
  | _ => none

/-- What an item says about colour. -/
def Item.colour? : Item → Option Bool
  | flag .color => some true
  | flag .noColor => some false
  | _ => none

/-- The options behind some items, each by a rule of its own: set if an item sets it, the
value of the last item that has one, or all values in order. -/
def settle (items : List Item) (o : Options) : Options where
  verbose := o.verbose || decide (.flag .verbose ∈ items)
  colorize := (items.filterMap Item.colour?).getLast?.getD o.colorize
  label := if .flag .dot ∈ items then "." else o.label
  interpreter := (items.filterMap Item.interpreter?).getLast?.getD o.interpreter
  templates := o.templates ++ items.filterMap Item.template?
  args := o.args
  defaultPath := o.defaultPath && !decide (.flag .noDefaultPath ∈ items)
  pathSearch := o.pathSearch || decide (.flag .pathSearch ∈ items)
  print := o.print || decide (.flag .print ∈ items)

theorem settle_cons (item : Item) (items : List Item) (o : Options) :
    settle (item :: items) o = settle items (item.apply o) := by
  cases item with
  | flag f =>
    cases f <;>
      simp [settle, Item.apply, Flag.apply, Item.colour?, Item.interpreter?, Item.template?,
        List.filterMap_cons, List.getLast?_cons, Options.dotLabel]
  | interpreter program =>
    simp [settle, Item.apply, Item.colour?, Item.interpreter?, Item.template?,
      List.filterMap_cons, List.getLast?_cons]
  | template text =>
    simp [settle, Item.apply, Item.colour?, Item.interpreter?, Item.template?,
      List.filterMap_cons]

theorem foldl_apply (items : List Item) (o : Options) :
    items.foldl Item.apply o = settle items o := by
  induction items generalizing o with
  | nil => simp [settle]
  | cons item items ih => rw [List.foldl_cons, ih, settle_cons]

theorem options_eq (c : CommandLine) (o : Options) :
    c.options o = { settle c.items o with args := o.args ++ c.ending.args } := by
  rw [options, foldl_apply]
  rfl

/-- An option in front of a command line sets what the options of the command line start from. -/
theorem parse_append_item {item : Item} {front : List String} (h : item.Written front)
    (o : Options) (words : List String) :
    parse o (front ++ words) =
      ⟨((ofWords words).ending.status?, (ofWords words).options (item.apply o)),
        (ofWords words).ending.trace⟩ := by
  rw [← parse_of_writes (writes_ofWords words)]
  exact Reading.run_item o h words

/-- Exactly one command line writes the given words, and its items are the longest sequence
of options that they begin with. Its ending decides whether the program goes on, stops with
success, or stops with a usage error, and what is written; the options are those that the
items set, also if the program stops, with the arguments from the ending on. -/
theorem parse_eq_grammar (o : Options) (words : List String) :
    ∃ c : CommandLine,
      c.Writes words ∧ (∀ c' : CommandLine, c'.Writes words → c' = c) ∧
      (∀ items front rest, words = front ++ rest → ItemsWritten items front →
        items <+: c.items) ∧
      (parse o words).value.1 =
        (match c.ending with
          | .noMore | .separator _ | .script _ _ => none
          | .help | .version => some 0
          | .refused _ => some 2) ∧
      (parse o words).value.2 =
        { settle c.items o with
          args := o.args ++
            match c.ending with
            | .separator args => args
            | .script name args => name :: args
            | _ => [] } ∧
      (parse o words).trace =
        (match c.ending with
          | .help => [.out usageText]
          | .version => [.out versionText]
          | .refused e => [.notice (.badOption e)]
          | _ => []) := by
  have hparse := parse_of_writes (writes_ofWords words) o
  refine ⟨ofWords words, writes_ofWords words, ?_, ?_, ?_, ?_, ?_⟩
  · intro c' hc'
    exact ((writes_iff c' words).mp hc').symm
  · rintro items front rest rfl hitems
    exact items_prefix_ofWords hitems rest
  · rw [hparse]
    cases (ofWords words).ending <;> rfl
  · rw [hparse, options_eq]
    cases (ofWords words).ending <;> rfl
  · rw [hparse]
    cases (ofWords words).ending <;> rfl

/-- Values that look like options are values, and so is `--` behind `-x`. -/
example : (parse {} ["-x", "--", "--dot", "-I", "-h", "mod", "-p"]).value =
    (none, { label := ".", interpreter := "--", templates := ["-h"], args := ["mod", "-p"] }) := by
  rfl

end ScriptSearch.CommandLine
