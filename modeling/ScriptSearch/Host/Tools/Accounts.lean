import ScriptSearch.Host.Account
import ScriptSearch.Host.Tools.Work

/-! Tools that say who the user is, and on what system. -/

namespace ScriptSearch.Host.Tools

open Work

/-- The name for a number, or the number after a message. -/
def nameOr (kind : String) (name? : Option String) (n : Nat) : Work String := do
  match name? with
  | some name => return name
  | none =>
    fault ("cannot find name for " ++ kind ++ " ID " ++ toString n)
    return toString n

def userName (n : Nat) : Work String := nameOr "user" ((Account.ofNumber? n).map (·.name)) n

def groupName (n : Nat) : Work String := nameOr "group" (Account.groupName? n) n

/-- Everything about a user, on a line. -/
def identity (user group : Nat) : String :=
  let named (n : Nat) (name? : Option String) : String :=
    toString n ++ match name? with
      | some name => "(" ++ name ++ ")"
      | none => ""
  "uid=" ++ named user ((Account.ofNumber? user).map (·.name)) ++
    " gid=" ++ named group (Account.groupName? group) ++
    " groups=" ++ named group (Account.groupName? group)

/-- The users that are asked for, with their groups: the present one if there are no names. -/
def usersNamed (names : List String) : Work (List (String × Nat × Nat)) := do
  if names.isEmpty then return [("", Account.current, Account.current)]
  let mut users := []
  for name in names do
    match Account.ofString? name with
    | some a => users := users ++ [(name, a.number, a.group)]
    | none => fault ((← quoted name) ++ ": no such user")
  return users

/-- Prints who users are. -/
def identities : Work Unit := do
  let g ← options
    { rules := [flag "a", flag "Z" "context", flag "g" "group", flag "G" "groups", flag "n" "name",
        flag "r" "real", flag "u" "user", flag "z" "zero"] }
  if (["u", "g", "G", "Z"].filter g.has).length > 1 then
    fail "cannot print \"only\" of more than one choice"
  if g.has "Z" then fail "--context (-Z) works only on an SELinux-enabled kernel"
  let single := g.hasAny ["u", "g", "G"]
  if !single ∧ g.hasAny ["n", "r"] then fail "cannot print only names or real IDs in default format"
  if !single ∧ g.has "z" then fail "option --zero not permitted in default format"
  let ending := if g.has "z" then "\x00" else "\n"
  for (_, user, group) in ← usersNamed g.operands do
    let text ←
      if g.has "u" then (if g.has "n" then userName user else pure (toString user))
      else if g.hasAny ["g", "G"] then (if g.has "n" then groupName group else pure (toString group))
      else pure (identity user group)
    say (text ++ ending)
    flush

/-- Prints the groups of users. -/
def groups : Work Unit := do
  let g ← options {}
  for (name, _, group) in ← usersNamed g.operands do
    say ((if name = "" then "" else name ++ " : ") ++ (← groupName group) ++ "\n")

/-- A tool without arguments. -/
def alone (work : Work Unit) (status : UInt8 := 1) : Work Unit := do
  refuseExtra (← options {} status) 0 status
  work

def ownName : Work Unit := alone do
  match Account.ofNumber? Account.current with
  | some a => say (a.name ++ "\n")
  | none => fail ("cannot find name for user ID " ++ toString Account.current)

def loginName : Work Unit := alone (fail "no login name")

/-- Says that the standard input is no terminal. -/
def terminalName : Work Unit := do
  let g ← options { rules := [flag "s" "quiet", flag "s" "silent"] } 2
  refuseExtra g 0 2
  if !g.has "s" then say "not a tty\n"
  setStatus 1

def architecture : String := "x86_64"

def machineName : Work Unit := alone (say (architecture ++ "\n"))

/-- Prints who is logged in, which is nobody. -/
def loggedUsers : Work Unit := do
  discard (options {})

/-- Prints what system this is. -/
def systemName : Work Unit := do
  let rules :=
    [flag "a" "all", flag "s" "kernel-name", flag "n" "nodename", flag "r" "kernel-release",
      flag "v" "kernel-version", flag "m" "machine", flag "p" "processor", flag "i" "hardware-platform",
      flag "o" "operating-system"]
  let g ← options { rules }
  refuseExtra g 0
  let parts := [("s", "Linux"), ("n", "localhost"), ("m", architecture), ("p", "unknown"), ("i", "unknown"),
    ("o", "GNU/Linux")]
  let wanted : List String :=
    if g.has "a" then parts.filterMap fun (_, text) => if text = "unknown" then none else some text
    else if g.options.isEmpty then ["Linux"]
    else parts.filterMap fun (name, text) => if g.has name then some text else none
  say (String.intercalate " " wanted ++ "\n")

end ScriptSearch.Host.Tools
