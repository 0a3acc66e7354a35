import ScriptSearch.Host.Shell.Word

/-! The options of a shell: their letters and names, and the arguments that turn them on and
off. -/

namespace ScriptSearch.Host.Shell

/-- An option of a shell. -/
inductive Switch
  | exitOnError | demandSet | trace | echoLines | readOnly | noPatterns | keepFiles | exportAll
  | pipeStatus | interactive | jobControl | ignoreEnd | fromInput | oneCommand | braces | hashing
  | inheritErrors | inheritActions | posix | keywords | physical
  /-- One that changes nothing here, by its name. -/
  | idle (name : String)
  deriving DecidableEq, Repr

namespace Switch

/-- The options in the order in which they are shown. Some have no letter, and some no name. -/
def table : Dialect → List (Option Char × String × Switch)
  | .plain =>
    [(some 'e', "errexit", exitOnError), (some 'f', "noglob", noPatterns),
      (some 'I', "ignoreeof", ignoreEnd), (some 'i', "interactive", interactive),
      (some 'm', "monitor", jobControl), (some 'n', "noexec", readOnly),
      (some 's', "stdin", fromInput), (some 'x', "xtrace", trace),
      (some 'v', "verbose", echoLines), (some 'V', "vi", idle "vi"),
      (some 'E', "emacs", idle "emacs"), (some 'C', "noclobber", keepFiles),
      (some 'a', "allexport", exportAll), (some 'b', "notify", idle "notify"),
      (some 'u', "nounset", demandSet), (some 'p', "privileged", idle "privileged"),
      (none, "nolog", idle "nolog"), (none, "debug", idle "debug")]
  | .bash =>
    [(some 'a', "allexport", exportAll), (some 'B', "braceexpand", braces),
      (none, "emacs", idle "emacs"), (some 'e', "errexit", exitOnError),
      (some 'E', "errtrace", inheritErrors), (some 'T', "functrace", inheritActions),
      (some 'h', "hashall", hashing), (some 'H', "histexpand", idle "histexpand"),
      (none, "history", idle "history"), (none, "ignoreeof", idle "ignoreeof"),
      (none, "interactive-comments", idle "interactive-comments"),
      (some 'k', "keyword", keywords), (some 'm', "monitor", jobControl),
      (some 'C', "noclobber", keepFiles), (some 'n', "noexec", readOnly),
      (some 'f', "noglob", noPatterns), (none, "nolog", idle "nolog"),
      (some 'b', "notify", idle "notify"), (some 'u', "nounset", demandSet),
      (some 't', "onecmd", oneCommand), (some 'P', "physical", physical),
      (none, "pipefail", pipeStatus), (none, "posix", posix),
      (some 'p', "privileged", idle "privileged"), (some 'v', "verbose", echoLines),
      (none, "vi", idle "vi"), (some 'x', "xtrace", trace),
      (some 'i', "", interactive), (some 'r', "", idle "restricted")]

def ofLetter? (d : Dialect) (c : Char) : Option Switch :=
  ((table d).find? (·.1 = some c)).map (·.2.2)

def ofName? (d : Dialect) (name : String) : Option Switch :=
  ((table d).find? fun row => row.2.1 = name && name ≠ "").map (·.2.2)

/-- The options with a name, as they are shown. -/
def named (d : Dialect) : List (String × Switch) :=
  ((table d).map (·.2)).filter (·.1 ≠ "")

/-- The options that are on at the start. -/
def standard : Dialect → List Switch
  | .plain => []
  | .bash => [braces, hashing, idle "interactive-comments"]

/-- The letters of options that are on. -/
def letters (d : Dialect) (on : List Switch) : String :=
  let found := (table d).filterMap fun row => if on.contains row.2.2 then row.1 else none
  match d with
  | .plain => String.ofList found.reverse
  | .bash =>
    let (upper, lower) := found.partition Char.isUpper
    let sorted (cs : List Char) : List Char := cs.mergeSort fun a b => decide (a ≤ b)
    String.ofList (sorted lower ++ sorted upper)

/-- The names of options that are on. -/
def names (d : Dialect) (on : List Switch) : String :=
  String.intercalate ":" ((named d).filterMap fun row => if on.contains row.2 then some row.1 else none)

/-- Options with one of them turned on or off. -/
def turn (on : List Switch) (o : Switch) (set : Bool) : List Switch :=
  on.filter (· ≠ o) ++ if set then [o] else []

/-- The options as they are shown: with what they are, or as commands that set them so. -/
def listing (d : Dialect) (asCommands : Bool) (isOn : Switch → Bool) : String :=
  let row (name : String) (o : Switch) : String :=
    if asCommands then "set " ++ (if isOn o then "-" else "+") ++ "o " ++ name ++ "\n"
    else
      let width := match d with
        | .plain => 16
        | .bash => 15
      name ++ "".pushn ' ' (width - name.length) ++ (if d = .plain then "" else "\t") ++
        (if isOn o then "on" else "off") ++ "\n"
  (if d = .plain ∧ !asCommands then "Current option settings\n" else "") ++
    String.join ((named d).map fun r => row r.1 r.2)

/-- Further options of the large shell, and how they are at the start. -/
def further : List (String × Bool) :=
  ([("autocd", 0), ("assoc_expand_once", 0), ("cdable_vars", 0), ("cdspell", 0), ("checkhash", 0),
    ("checkjobs", 0), ("checkwinsize", 1), ("cmdhist", 1), ("compat31", 0), ("compat32", 0),
    ("compat40", 0), ("compat41", 0), ("compat42", 0), ("compat43", 0), ("compat44", 0),
    ("complete_fullquote", 1), ("direxpand", 0), ("dirspell", 0), ("dotglob", 0), ("execfail", 0),
    ("expand_aliases", 0), ("extdebug", 0), ("extglob", 0), ("extquote", 1), ("failglob", 0),
    ("force_fignore", 1), ("globasciiranges", 1), ("globskipdots", 1), ("globstar", 0),
    ("gnu_errfmt", 0), ("histappend", 0), ("histreedit", 0), ("histverify", 0),
    ("hostcomplete", 1), ("huponexit", 0), ("inherit_errexit", 0), ("interactive_comments", 1),
    ("lastpipe", 0), ("lithist", 0), ("localvar_inherit", 0), ("localvar_unset", 0),
    ("login_shell", 0), ("mailwarn", 0), ("no_empty_cmd_completion", 0), ("nocaseglob", 0),
    ("nocasematch", 0), ("noexpand_translation", 0), ("nullglob", 0), ("patsub_replacement", 1),
    ("progcomp", 1), ("progcomp_alias", 0), ("promptvars", 1), ("restricted_shell", 0),
    ("shift_verbose", 0), ("sourcepath", 1), ("varredir_close", 0), ("xpg_echo", 0)] :
      List (String × Nat)).map fun row => (row.1, row.2 = 1)

/-- A further option as it is shown. -/
def furtherLine (asCommand : Bool) (name : String) (on : Bool) : String :=
  if asCommand then "shopt " ++ (if on then "-s " else "-u ") ++ name ++ "\n"
  else name ++ "".pushn ' ' (15 - name.length) ++ "\t" ++ (if on then "on" else "off") ++ "\n"

end Switch

/-- What an argument with options asks for. -/
inductive Choice
  | turn (o : Switch) (on : Bool)
  /-- A further option of the large shell is to be turned on or off. -/
  | further (name : String) (on : Bool)
  /-- The options are to be shown, as they are or as commands. -/
  | listing (asCommands : Bool)
  | furtherListing (asCommands : Bool)
  /-- A letter that only a shell's call can have. -/
  | call (letter : Char)
  | unknownLetter (sign letter : Char)
  | unknownName (name : String)
  deriving DecidableEq, Repr

namespace Choice

/-- The letters that only a shell's call can have. -/
def callLetters : Dialect → List Char
  | .plain => ['c', 'l']
  | .bash => ['c', 'l', 's', 'D']

/-- What a letter asks for. In the plain shell one way of editing lines turns off the other;
the large shell cannot become interactive later. -/
def ofLetter (d : Dialect) (calling on : Bool) (c : Char) : List Choice :=
  if calling && (callLetters d).contains c then [call c]
  else if d = .bash ∧ c = 'i' ∧ !calling then [unknownLetter (if on then '-' else '+') c]
  else
    match Switch.ofLetter? d c with
    | none => [unknownLetter (if on then '-' else '+') c]
    | some o =>
      let other : List Choice :=
        if d = .plain ∧ on ∧ c = 'V' then [turn (.idle "emacs") false]
        else if d = .plain ∧ on ∧ c = 'E' then [turn (.idle "vi") false]
        else []
      turn o on :: other

/-- What a name asks for. -/
def ofName (d : Dialect) (on : Bool) (name : String) : Choice :=
  match Switch.ofName? d name with
  | some o => turn o on
  | none => unknownName name

/-- Whether an argument of `set` in the large shell is no name of an option but options. -/
def isNoName (name : String) : Bool :=
  match name.toList with
  | [] => true
  | c :: _ => c = '-' || c = '+'

/-- What the letters of an argument ask for, and the arguments behind the names that belong
to them. -/
def ofLetters (d : Dialect) (calling on : Bool) : List Char → List String → List Choice × List String
  | [], args => ([], args)
  | c :: cs, args =>
    let behind (found : List Choice) (args : List String) : List Choice × List String :=
      let (more, rest) := ofLetters d calling on cs args
      (found ++ more, rest)
    if c = 'o' then
      match args with
      | [] => behind [listing (!on)] []
      | name :: rest =>
        if d = .bash ∧ !calling ∧ isNoName name then behind [listing (!on)] args
        else behind [ofName d on name] rest
    else if c = 'O' ∧ d = .bash ∧ calling then
      match args with
      | [] => behind [furtherListing (!on)] []
      | name :: rest => behind [further name on] rest
    else behind (ofLetter d calling on c) args

/-- What the options at the start of some arguments ask for, and the arguments behind them if
there are any or they are said to end there. The first argument bounds the steps. -/
def read (d : Dialect) (calling : Bool) : Nat → List String → List Choice × Option (List String)
  | _, [] => ([], none)
  | 0, args => ([], some args)
  | steps + 1, arg :: args =>
    match arg.toList with
    | ['-'] =>
      if calling then ([], some args)
      else ([turn .trace false, turn .echoLines false], if args.isEmpty then none else some args)
    | ['-', '-'] => ([], some args)
    | sign :: letters =>
      if sign = '-' ∨ sign = '+' then
        let (found, args) := ofLetters d calling (sign = '-') letters args
        let (more, rest) := read d calling steps args
        (found ++ more, rest)
      else ([], some (arg :: args))
    | [] => ([], some (arg :: args))

/-- What the options at the start of some arguments ask for, and the arguments behind them. -/
def ofArgs (d : Dialect) (calling : Bool) (args : List String) : List Choice × Option (List String) :=
  read d calling args.length args

end Choice

end ScriptSearch.Host.Shell
