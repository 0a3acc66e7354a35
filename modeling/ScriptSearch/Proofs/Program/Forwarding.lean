import ScriptSearch.Proofs.Program.Stages
import ScriptSearch.Proofs.Program.Locate

/-! The arguments of a script on their way to its interpreter. Behind the options, and behind
`--` if it is there, the words of the command line are the script's name and its arguments;
the arguments reach the interpreter as they were written, whatever they look like, and the
status of the interpreter is the status of the run, provided that the system makes a process
for it and waits for it. -/

namespace ScriptSearch

namespace CommandLine

variable {items : List Item} {front : List String}

/-- The options of a command line of items, `--` and a script with its arguments. -/
theorem parse_separator (h : ItemsWritten items front) (o : Options) (args : List String) :
    parse o (front ++ "--" :: args) =
      ⟨(none, { settle items o with args := o.args ++ args }), []⟩ := by
  have hwrites : (⟨items, .separator args⟩ : CommandLine).Writes (front ++ "--" :: args) :=
    ⟨front, "--" :: args, rfl, h, rfl⟩
  rw [parse_of_writes hwrites, options_eq]
  rfl

/-- A plain word needs no `--` in front of it to be the script's name. -/
theorem parse_script (h : ItemsWritten items front) {name : String}
    (hname : Word.plain.Means name) (o : Options) (args : List String) :
    parse o (front ++ name :: args) = parse o (front ++ "--" :: name :: args) := by
  have hwrites : (⟨items, .script name args⟩ : CommandLine).Writes (front ++ name :: args) :=
    ⟨front, name :: args, rfl, h, hname, rfl⟩
  rw [parse_separator h, parse_of_writes hwrites, options_eq]
  rfl

end CommandLine

namespace Program

open CommandLine (Item Word ItemsWritten)

/-- The script's arguments behind some options reach its interpreter unchanged. If the run
finds the script, and the system makes a process and waits for it, that is one process: the
interpreter that was named last, or `bash`, with `--`, the path and the arguments. How it ends
decides the status, and its number fits in the eight bits of a status. The `--` in front of
the name can be left out unless the name looks like an option. -/
theorem run_forwards (w : World) {items : List Item} {front : List String}
    (hitems : ItemsWritten items front) (hprint : .flag .print ∉ items) {name : String}
    (hname : name ≠ "") (rest : List String) :
    let words := front ++ "--" :: name :: rest
    let o := (CommandLine.parse (initial w) words).value.2
    let interpreter := (items.filterMap Item.interpreter?).getLast?.getD "bash"
    (∀ path, Finds w o name path →
      let c : Command := ⟨interpreter, "--" :: path :: rest⟩
      ∀ invoked, w.launch c = .ok { invoked, lost? := none } →
        (run w words).trace.commands = [c] ∧
        (load w o).value = invokedStatus invoked ∧
        invokedStatus invoked < 256 ∧
        (run w words).status = invokedStatus invoked) ∧
    (name = "-" ∨ name.toList.head? ≠ some '-' →
      run w (front ++ name :: rest) = run w words) := by
  intro words o interpreter
  have hparse := CommandLine.parse_separator hitems (initial w) (name :: rest)
  have ho : o = { CommandLine.settle items (initial w) with args := name :: rest } := by
    simp only [o, words, hparse]
    rfl
  constructor
  · intro path hfinds c invoked hlaunch
    have hscript : scriptName o = name := by rw [ho]; rfl
    have hlocate : (locate w o).value = .ok path := by
      rw [locate_of_finds o (by rwa [hscript]) (by rwa [hscript])]
    have hloader : loader o = .interpret interpreter := by
      have hload : o.print = false := by simp [ho, CommandLine.settle, hprint, initial]
      have hinterpreter : o.interpreter = interpreter := by rw [ho]; rfl
      rw [loader, hload, hinterpreter]
      rfl
    have htail : o.args.tail = rest := by rw [ho]; rfl
    have hstatus : (Loader.command interpreter path rest).status w.launch =
        invokedStatus invoked := Command.status_of_child hlaunch
    have hload := load_of_located hlocate
    rw [hloader, htail, Loader.load_interpret, hstatus] at hload
    have haccepted : (CommandLine.parse (initial w) words).value = (none, o) := by
      simp only [words, hparse, ho]
      rfl
    have hlt := invokedStatus_lt invoked
    rw [run_of_accepted haccepted, hload]
    exact ⟨(calls_interpreted w o path rest c).1, rfl, hlt, exitStatus_of_lt hlt⟩
  · intro hplain
    have hmeans : Word.plain.Means name := .inr hplain
    exact run_congr (CommandLine.parse_script hitems hmeans (initial w) rest)

/-- The last interpreter counts although the first one is called `--`, the arguments look like
options, and the script, which is called `-`, is killed by a signal. -/
theorem run_forwards_look_alikes :
    let w : World :=
      ⟨(· == "./-"), fun _ => none, fun _ => .ok ⟨.ok { ending := .killed 9 }, none⟩, false⟩
    let front := ["-x", "--", "-d", "--interpreter", "sh"]
    let words := front ++ "--" :: "-" :: ["-p", "--", ""]
    Finds w (CommandLine.parse (initial w) words).value.2 "-" "./-" ∧
      (run w words).trace.commands = [⟨"sh", ["--", "./-", "-p", "--", ""]⟩] ∧
      (run w words).status = 137 ∧
      run w (front ++ "-" :: ["-p", "--", ""]) = run w words := by
  intro w front words
  have hfirst : (Item.interpreter "--").Written ["-x", "--"] := ⟨"-x", .inl rfl, rfl⟩
  have hdot : (Item.flag .dot).Written ["-d"] := ⟨"-d", by decide, rfl⟩
  have hlast : (Item.interpreter "sh").Written ["--interpreter", "sh"] :=
    ⟨"--interpreter", .inr rfl, rfl⟩
  have hitems : ItemsWritten [.interpreter "--", .flag .dot, .interpreter "sh"] front :=
    .cons hfirst (.cons hdot (.cons hlast .nil))
  have hname : "-" ≠ "" := by decide
  have hfinds : Finds w (CommandLine.parse (initial w) words).value.2 "-" "./-" :=
    ⟨rfl, by decide⟩
  obtain ⟨hfound, hplain⟩ :=
    run_forwards w hitems (by decide) hname ["-p", "--", ""]
  obtain ⟨hcommands, _, _, hstatus⟩ := hfound "./-" hfinds _ rfl
  exact ⟨hfinds, hcommands, hstatus, hplain (.inl rfl)⟩

end Program

end ScriptSearch
