import ScriptSearch.Command

/-! Signals that one process can send another, by name and number. -/

namespace ScriptSearch.Host.Signal

def numbers : List (String × Fin 128) :=
  [("HUP", 1), ("INT", 2), ("QUIT", 3), ("ILL", 4), ("TRAP", 5), ("ABRT", 6), ("BUS", 7),
    ("FPE", 8), ("KILL", 9), ("USR1", 10), ("SEGV", 11), ("USR2", 12), ("PIPE", 13),
    ("ALRM", 14), ("TERM", 15), ("STKFLT", 16), ("CHLD", 17), ("CONT", 18), ("STOP", 19),
    ("TSTP", 20), ("TTIN", 21), ("TTOU", 22), ("URG", 23), ("XCPU", 24), ("XFSZ", 25),
    ("VTALRM", 26), ("PROF", 27), ("WINCH", 28), ("IO", 29), ("PWR", 30), ("SYS", 31)]

/-- The numbers above those with names of their own. -/
def farNumber (n : Nat) : Fin 128 := Fin.ofNat 128 n

/-- Names that count from the first number of a range, or back from the last. -/
def counted : List (String × Fin 128) :=
  (List.range 31).map fun i =>
    let name :=
      if i = 0 then "RTMIN" else if i = 30 then "RTMAX"
      else if i < 16 then "RTMIN+" ++ toString i else "RTMAX-" ++ toString (30 - i)
    (name, farNumber (34 + i))

/-- All names; `long` has one more. -/
def names (long : Bool) : List (String × Fin 128) :=
  numbers.filter (fun row => long || row.1 ≠ "STKFLT") ++ counted

/-- Signals that no action can be set for. -/
def certain : List (Fin 128) := [9, 19]

/-- The signal that the large shell takes no notice of. -/
def quit : Fin 128 := 3

/-- Signals that a process does not end at: they are ignored or only stop it for a while. -/
def harmless : List (Fin 128) := [0, 17, 18, 19, 20, 21, 22, 23, 28]

/-- Signals at which a shell ends at once. -/
def uncaught : List (Fin 128) := [3, 9]

/-- The signal for writing what nobody reads. -/
def brokenPipe : Fin 128 := 13

/-- The signal that ends a process in any case. -/
def forced : Fin 128 := 9

/-- The signal to a calculation whose result cannot be held. -/
def unheld : Fin 128 := 8

/-- The signal that is sent if none is named. -/
def termination : Fin 128 := 15

/-- The number that asks whether a process is there. -/
def question : Fin 128 := 0

/-- The largest number of a signal. -/
def last : Nat := 64

def name? (signal : Fin 128) : Option String :=
  ((names true).find? fun row => row.2 == signal).map (·.1)

def upper (s : String) : String := String.ofList (s.toList.map Char.toUpper)

/-- A signal written as a number or as a name in letters of any case; `long` allows `SIG` in
front of the name, and knows one more name. -/
def ofString? (long : Bool) (s : String) : Option (Fin 128) :=
  let isNumber := s != "" && s.toList.all Char.isDigit
  match if isNumber then s.toNat? else none with
  | some n => if h : n < 65 then some ⟨n, by omega⟩ else none
  | none =>
    match (upper s).toList with
    | 'S' :: 'I' :: 'G' :: rest => if long then (names long).lookup (String.ofList rest) else none
    | cs => (names long).lookup (String.ofList cs)

/-- What is said of a process that a signal has ended, by name. -/
def descriptions : List (String × String) :=
  [("HUP", "Hangup"), ("QUIT", "Quit"), ("ILL", "Illegal instruction"),
    ("TRAP", "Trace/breakpoint trap"), ("ABRT", "Aborted"), ("BUS", "Bus error"),
    ("FPE", "Floating point exception"), ("KILL", "Killed"), ("USR1", "User defined signal 1"),
    ("SEGV", "Segmentation fault"), ("USR2", "User defined signal 2"), ("ALRM", "Alarm clock"),
    ("TERM", "Terminated"), ("STKFLT", "Stack fault"), ("XCPU", "CPU time limit exceeded"),
    ("XFSZ", "File size limit exceeded"), ("VTALRM", "Virtual timer expired"),
    ("PROF", "Profiling timer expired"), ("IO", "I/O possible"), ("PWR", "Power failure"),
    ("SYS", "Bad system call")]

/-- What is said of a process that a signal has ended, unless nothing is. -/
def description? (signal : Fin 128) : Option String := (name? signal).bind (descriptions.lookup ·)

end ScriptSearch.Host.Signal
