import ScriptSearch.Host.Letters
import ScriptSearch.Host.Octet

/-! Names as the system's tools quote them in messages. Text is looked at byte by byte, and bytes
beyond ASCII count as unprintable; or, where text is `wide`, character by character. -/

namespace ScriptSearch.Host.Quoted

/-- Whether a character or a byte can be shown as it is. -/
def isPrintable (wide : Bool) (c : Char) : Bool := Letters.isPrintable wide c

def octalDigit (n : Nat) : Char := Char.ofNat (48 + n % 8)

/-- A byte as a backslash and a letter or three octal digits. -/
def escapedByte (b : UInt8) : List Char :=
  match b.toNat with
  | 7 => ['\\', 'a']
  | 8 => ['\\', 'b']
  | 9 => ['\\', 't']
  | 10 => ['\\', 'n']
  | 11 => ['\\', 'v']
  | 12 => ['\\', 'f']
  | 13 => ['\\', 'r']
  | n => ['\\', octalDigit (n / 64), octalDigit (n / 8), octalDigit n]

/-- The bytes of a character in that form. -/
def escaped (c : Char) : List Char := (Octet.ofChar c).flatMap escapedByte

/-- What stands before and behind a quoted name. -/
def marks (wide : Bool) : Char × Char := if wide then ('\u2018', '\u2019') else ('\'', '\'')

/-- Between quotes, with backslashes for what cannot stand there. -/
def plain (wide : Bool) (s : String) : String :=
  let (before, behind) := marks wide
  let body := (Octet.units wide s).flatMap fun c =>
    if c = behind ∨ c = '\\' then ['\\', c]
    else if isPrintable wide c then [c]
    else escaped c
  String.ofList (before :: body ++ [behind])

/-- Characters that a shell never takes as they stand. -/
def special : List Char := " !\"$&'()*;<=>[\\^\x60|?:".toList

/-- Whether a shell takes a name as it stands. -/
def isBare (wide : Bool) (s : String) : Bool :=
  match Octet.units wide s with
  | [] => false
  | ['\x7b'] | ['\x7d'] => false
  | c :: rest =>
    c != '#' && c != '~' && (c :: rest).all fun c => !special.contains c && isPrintable wide c

/-- Whether a name with single quotes can stand between double quotes. -/
def suitsDouble (wide : Bool) (s : String) : Bool :=
  s.toList.zipIdx.all fun c =>
    c.1.isAlphanum || " '%+,-./:]_@".toList.contains c.1 || (c.2 == 0 && "#~".toList.contains c.1) ||
      ('\x7f' < c.1 && isPrintable wide c.1)

/-- Between single quotes; a run of what is unprintable stands in quotes of its own. A single
quote ends a run. -/
def single (wide : Bool) : (inRun : Bool) → List Char → List Char
  | _, [] => []
  | inRun, c :: rest =>
    if c = '\'' then ['\'', '\\', '\'', '\''] ++ single wide false rest
    else if isPrintable wide c then (if inRun then ['\'', '\''] else []) ++ c :: single wide false rest
    else (if inRun then [] else ['\'', '$', '\'']) ++ escaped c ++ single wide true rest

/-- Between single quotes. With single quotes in it and an unprintable run at its end, the text
begins as if a run went before it. -/
def quoted (wide : Bool) (s : String) : String :=
  let cs := Octet.units wide s
  let quote := cs.contains '\''
  if quote && suitsDouble wide s then "\"" ++ s ++ "\""
  else
    let inRun := quote && cs.getLast?.any fun c => !isPrintable wide c
    "'" ++ String.ofList (single wide inRun cs) ++ "'"

/-- A name the way a shell would read it back. -/
def shell (wide : Bool) (s : String) : String := if isBare wide s then s else quoted wide s

/-- Whether a name has something in it that cannot be printed. -/
def needsEscapes (wide : Bool) (s : String) : Bool :=
  (Octet.units wide s).any fun c => !isPrintable wide c

/-- Between quotes in which escapes are resolved, as the large shell writes it. -/
def escapes (wide : Bool) (s : String) : String :=
  "$'" ++ String.ofList ((Octet.units wide s).flatMap fun c =>
    if c = '\'' ∨ c = '\\' then ['\\', c]
    else if c = '\x1b' then ['\\', 'E']
    else if isPrintable wide c then [c] else escaped c) ++ "'"

/-- A name as it is, or escaped if it has something in it that cannot be printed. -/
def visible (wide : Bool) (s : String) : String := if needsEscapes wide s then escapes wide s else s

end ScriptSearch.Host.Quoted
