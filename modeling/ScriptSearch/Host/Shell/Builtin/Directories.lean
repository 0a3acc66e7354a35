import ScriptSearch.Host.Shell.Builtin.Place

/-! The list of directories to come back to. The current directory counts as its first one. -/

namespace ScriptSearch.Host.Shell.Builtin

open Act

/-- A directory as the list shows it: with a mark for the home directory. -/
def shownDirectory (home : Option String) (path : String) : String :=
  match home with
  | some home =>
    if home ≠ "" ∧ home ≠ "/" ∧ (path = home ∨ path.startsWith (home ++ "/")) then
      "~" ++ (path.drop home.length).toString
    else path
  | none => path

/-- What an argument says that begins with a sign or stands in front of a directory. -/
inductive StackWord
  /-- A letter of the command's own. -/
  | letter (c : Char)
  /-- A number behind a sign: from the beginning of the list, or from its end. -/
  | place (fromEnd : Bool) (n : Int)
  | noNumber
  | finish
  | other

/-- What an argument says to a command that has some letters. -/
def StackWord.ofArg (letters : List Char) (arg : String) : StackWord :=
  match arg.toList with
  | ['-', '-'] => finish
  | ['-'] => other
  | '-' :: cs =>
    match cs with
    | [c] => if letters.contains c then letter c else number true cs
    | cs => number true cs
  | '+' :: cs => number false cs
  | _ => other
where
  number (fromEnd : Bool) (cs : List Char) : StackWord :=
    match whole? (String.ofList cs) with
    | some n => place fromEnd n
    | none => noNumber

/-- The place in a list that a number stands for. -/
def placeIn (count : Nat) (fromEnd : Bool) (n : Int) : Option Nat :=
  let i := if fromEnd then (count : Int) - 1 - n else n
  if 0 ≤ i ∧ i < count then some i.toNat else none

def refuseNumber (command arg : String) : Act Nat := do
  complain (command ++ ": " ++ arg ++ ": invalid number")
  tellUsage command
  return 2

/-- Refuses a place that is not in the list. -/
def refusePlace (command arg : String) : Act Nat := do
  if (← get).directories.isEmpty then refuse command "directory stack empty" 1
  else refuse command (arg ++ ": directory stack index out of range") 1

/-- How the list is shown. -/
structure Showing where
  /-- Home directories are not shortened. -/
  long : Bool := false
  clears : Bool := false
  eachOnLine : Bool := false
  numbered : Bool := false
  /-- The argument that asks for one directory, and its place. -/
  place : Option (String × Option Nat) := none

/-- Writes the list, the current directory first, or one of it. -/
def showDirectories (how : Showing) : Act Nat := do
  let s ← get
  let home ← if how.long then pure none else value? "HOME"
  let all := (s.path :: s.directories).map (shownDirectory home)
  let row (i : Nat) (path : String) : String :=
    if how.numbered then
      let n := toString i
      "".pushn ' ' (2 - n.length) ++ n ++ "  " ++ path
    else path
  match how.place with
  | some (arg, none) => refusePlace "dirs" (arg.drop 1).toString
  | some (_, some i) =>
    out (row i (all.getD i "") ++ "\n")
    return 0
  | none =>
    let separator := if how.numbered ∨ how.eachOnLine then "\n" else " "
    out (String.intercalate separator (all.mapIdx row) ++ "\n")
    return 0

def directories (args : List String) : Act Nat := do
  let count := (← get).directories.length + 1
  let perform (how : Showing) : Act Nat := do
    if how.clears then
      modify fun s => { s with directories := [] }
      return 0
    else showDirectories how
  let rec go (how : Showing) : List String → Act Nat
    | [] => perform how
    | arg :: rest => do
      match StackWord.ofArg "lcvp".toList arg with
      | .letter 'l' => go { how with long := true } rest
      | .letter 'c' => go { how with clears := true } rest
      | .letter 'v' => go { how with numbered := true } rest
      | .letter _ => go { how with eachOnLine := true } rest
      | .finish => perform how
      | .place fromEnd n => go { how with place := some (arg, placeIn count fromEnd n) } rest
      | .noNumber => refuseNumber "dirs" arg
      | .other =>
        if arg = "-" then refuseNumber "dirs" arg
        else
          complain ("dirs: " ++ arg ++ ": invalid option")
          tellUsage "dirs"
          return 2
  go {} args

/-- Goes to a directory of the list, and shows the list. -/
def goToListed (command path : String) : Act Nat := do
  let status ← changeDirectory command [path]
  if status = 0 then showDirectories {} else return status

/-- Turns the list so that another directory is the first one, and goes there unless it is to `stay`. -/
def turnDirectories (stay : Bool) (i : Nat) : Act Nat := do
  let s ← get
  let all := s.path :: s.directories
  match all.drop i ++ all.take i with
  | [] => return 0
  | first :: rest =>
    set { s with directories := rest }
    if stay then return 0 else goToListed "pushd" first

/-- Puts the current directory on the list and goes to another one, or to the first on it. -/
def pushDirectory (args : List String) : Act Nat := do
  let s ← get
  let count := s.directories.length + 1
  let add (stay : Bool) (args : List String) : Act Nat := do
    match args with
    | [] => return 0
    | path :: _ =>
      let status ← if stay then pure 0 else changeDirectory "pushd" ("--" :: args)
      if status ≠ 0 then return 1
      let new := if stay then path else s.path
      modify fun now => { now with directories := new :: s.directories }
      showDirectories {}
  let rec go (stay : Bool) (turn : Option Nat) : List String → Act Nat
    | [] => do
      match turn with
      | some i => turnDirectories stay i
      | none => return 0
    | arg :: rest => do
      match StackWord.ofArg ['n'] arg with
      | .letter _ => go true turn rest
      | .place fromEnd n =>
        match placeIn count fromEnd n with
        | some i => go stay (some i) rest
        | none => refusePlace "pushd" arg
      | .noNumber => refuseNumber "pushd" arg
      | .finish =>
        match turn with
        | some i => turnDirectories stay i
        | none => add stay rest
      | .other =>
        match turn with
        | some i => turnDirectories stay i
        | none => add stay (arg :: rest)
  match if args.head? = some "--" then args.drop 1 else args with
  | [] =>
    match s.directories with
    | [] => refuse "pushd" "no other directory" 1
    | first :: rest =>
      set { s with directories := s.path :: rest }
      goToListed "pushd" first
  | rest => if args.head? = some "--" then add false rest else go false none rest

/-- Goes to the first directory on the list, and takes it off; or takes another one off. -/
def popDirectory (args : List String) : Act Nat := do
  let s ← get
  let count := s.directories.length + 1
  let drop (stay : Bool) (arg : String) (place : Option Nat) : Act Nat := do
    match place, s.directories with
    | none, _ | _, [] => refusePlace "popd" arg
    | some 0, first :: rest =>
      let status ← if stay then pure 0 else changeDirectory "popd" [first]
      if status ≠ 0 then return status
      modify fun now => { now with directories := rest }
      showDirectories {}
    | some (i + 1), all =>
      set { s with directories := all.eraseIdx i }
      showDirectories {}
  let rec go (stay : Bool) (found : String × Option Nat) : List String → Act Nat
    | [] => drop stay found.1 found.2
    | arg :: rest => do
      match StackWord.ofArg ['n'] arg with
      | .letter _ => go true found rest
      | .place fromEnd n => go stay (arg, placeIn count fromEnd n) rest
      | .noNumber => refuseNumber "popd" arg
      | .finish => drop stay found.1 found.2
      | .other =>
        if arg = "" then drop stay found.1 found.2
        else if arg = "-" then refuseNumber "popd" arg
        else
          complain ("popd: " ++ arg ++ ": invalid argument")
          tellUsage "popd"
          return 2
  go false ("", some 0) args

end ScriptSearch.Host.Shell.Builtin
