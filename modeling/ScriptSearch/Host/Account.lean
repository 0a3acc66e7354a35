/-! The accounts of the system: their names and numbers, their groups, and where they are at home. -/

namespace ScriptSearch.Host

structure Account where
  name : String
  number : Nat
  group : Nat
  home : String
  deriving Repr

namespace Account

/-- The number of the user that programs run for, who has no account, and of the user's group. -/
def current : Nat := 1000

/-- The accounts that the system comes with. -/
def all : List Account :=
  [⟨"root", 0, 0, "/root"⟩, ⟨"daemon", 1, 1, "/usr/sbin"⟩, ⟨"bin", 2, 2, "/bin"⟩, ⟨"sys", 3, 3, "/dev"⟩,
    ⟨"sync", 4, 65534, "/bin"⟩, ⟨"games", 5, 60, "/usr/games"⟩, ⟨"man", 6, 12, "/var/cache/man"⟩,
    ⟨"lp", 7, 7, "/var/spool/lpd"⟩, ⟨"mail", 8, 8, "/var/mail"⟩, ⟨"news", 9, 9, "/var/spool/news"⟩,
    ⟨"uucp", 10, 10, "/var/spool/uucp"⟩, ⟨"proxy", 13, 13, "/bin"⟩, ⟨"www-data", 33, 33, "/var/www"⟩,
    ⟨"backup", 34, 34, "/var/backups"⟩, ⟨"list", 38, 38, "/var/list"⟩, ⟨"irc", 39, 39, "/run/ircd"⟩,
    ⟨"_apt", 42, 65534, "/nonexistent"⟩, ⟨"nobody", 65534, 65534, "/nonexistent"⟩]

def ofName? (name : String) : Option Account := all.find? (·.name = name)

def ofNumber? (n : Nat) : Option Account := all.find? (·.number = n)

/-- The name of a group. -/
def groupName? (n : Nat) : Option String :=
  if n = 65534 then some "nogroup"
  else if n = current then none
  else (all.find? fun a => a.group = n && a.number ≠ 4).map (·.name)

/-- The account that a name or a number means. -/
def ofString? (s : String) : Option Account :=
  match ofName? s with
  | some a => some a
  | none => (match s.toList with
    | '+' :: cs => String.ofList cs
    | _ => s).toNat?.bind ofNumber?

end Account

end ScriptSearch.Host
