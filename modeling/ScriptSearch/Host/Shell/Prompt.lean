import ScriptSearch.Host.Octet

/-! Prompts of the large shell: texts in which a letter behind a backslash stands for something about
the shell. What it stands for is protected from the expansion that follows. -/

namespace ScriptSearch.Host.Shell.Prompt

/-- What prompts can tell about a shell. -/
structure View where
  shell : String
  user : String
  host : String
  /-- The directory, shortened if it is in the home directory, and its last part. -/
  directory : String
  base : String
  version : String
  release : String
  jobs : Nat
  /-- The number of the command. -/
  command : Nat

/-- A path with a `~` in place of the home directory. -/
def shortened (home path : String) : String :=
  if home = "" ∨ home = "/" then path
  else if path = home then "~"
  else if path.startsWith (home ++ "/") then "~" ++ (path.drop home.length).toString
  else path

/-- A text that stands for itself between double quotes. -/
def guarded (s : String) : String :=
  String.join (s.toList.map fun c =>
    (if "\"\\$\x60".toList.contains c then "\\" else "") ++ String.singleton c)

/-- What a letter stands for, if it stands for something. -/
def meaning? (v : View) : Char → Option String
  | 'a' => some "\x07"
  | 'e' => some "\x1b"
  | 'n' => some "\n"
  | 'r' => some "\r"
  | '\\' => some "\\"
  | 's' => some (guarded v.shell)
  | 'u' => some (guarded v.user)
  | 'h' => some (guarded (String.ofList (v.host.toList.takeWhile (· ≠ '.'))))
  | 'H' => some (guarded v.host)
  | 'w' => some (guarded v.directory)
  | 'W' => some (guarded v.base)
  | 'v' => some v.version
  | 'V' => some v.release
  | 'j' => some (toString v.jobs)
  | 'l' => some "tty"
  | '!' => some "1"
  | '#' => some (toString v.command)
  | '$' => some "$"
  | '[' | ']' => some ""
  | _ => none

/-- A prompt with what stands behind its backslashes put in. -/
def resolved (v : View) : List Char → String
  | '\\' :: c :: cs =>
    match cs with
    | d :: e :: rest =>
      if [c, d, e].all fun c => '0' ≤ c && c ≤ '7' then
        let n := [c, d, e].foldl (fun n c => 8 * n + (c.toNat - 48)) 0 % 256
        (if n = 0 then "" else String.singleton (Octet.char (UInt8.ofNat n))) ++ resolved v rest
      else single c (d :: e :: rest)
    | cs => single c cs
  | c :: cs => String.singleton c ++ resolved v cs
  | [] => ""
where
  single (c : Char) (cs : List Char) : String :=
    ((meaning? v c).getD (String.ofList ['\\', c])) ++ resolved v cs

end ScriptSearch.Host.Shell.Prompt
