/-! Modes of files: twelve bits that say who may do what, the changes to them that can be written
with letters or digits, and their texts. -/

namespace ScriptSearch.Host.Mode

/-- Sets of bits. -/
def owner : Nat := 0o4700

def group : Nat := 0o2070

def others : Nat := 0o1007

def everything : Nat := 0o7777

/-- Bits of one number that are not in another. -/
def without (a b : Nat) : Nat := a - (a &&& b)

/-- What is put into a mode. -/
inductive Bits
  | given (n : Nat)
  /-- The bits of one kind of users, for all kinds. -/
  | copied (mask : Nat)
  /-- The right to run a file, if it is a directory or somebody has the right. -/
  | runnable (n : Nat)
  deriving DecidableEq, Repr

/-- A change: to whose bits, how, and what. -/
structure Change where
  /-- The bits that can change, if somebody is named. -/
  whose : Option Nat
  how : Char
  bits : Bits
  /-- Bits that are set even for a directory that they would stay as they are for. -/
  mentioned : Nat
  deriving DecidableEq, Repr

def isOctal (c : Char) : Bool := '0' ≤ c && c ≤ '7'

def octal (cs : List Char) : Nat := cs.foldl (fun n c => 8 * n + (c.toNat - 48)) 0

/-- The bits that a letter stands for. -/
def letterBits? : Char → Option Nat
  | 'r' => some 0o444
  | 'w' => some 0o222
  | 'x' => some 0o111
  | 's' => some 0o6000
  | 't' => some 0o1000
  | _ => none

/-- The bits of the users that a letter means. -/
def users? : Char → Option Nat
  | 'u' => some owner
  | 'g' => some group
  | 'o' => some others
  | 'a' => some everything
  | _ => none

/-- The changes behind those who are named. The first argument bounds the steps. -/
def operations (whose : Option Nat) : Nat → List Char → Option (List Change × List Char)
  | steps + 1, how :: rest =>
    if how = '+' ∨ how = '-' ∨ how = '=' then
      let (bits, mentioned, rest) : Bits × Nat × List Char :=
        let digits := rest.takeWhile isOctal
        if !digits.isEmpty then (.given (octal digits), everything, rest.drop digits.length)
        else
          match rest with
          | 'u' :: rest => (.copied 0o700, 0, rest)
          | 'g' :: rest => (.copied 0o070, 0, rest)
          | 'o' :: rest => (.copied 0o007, 0, rest)
          | rest =>
            let letters := rest.takeWhile fun c => (letterBits? c).isSome || c = 'X'
            let n := (letters.filterMap letterBits?).foldl (· ||| ·) 0
            ((if letters.contains 'X' then .runnable n else .given n), n, rest.drop letters.length)
      let change : Change := { whose, how, bits, mentioned := mentioned &&& whose.getD everything }
      match rest with
      | [] | ',' :: _ => some ([change], rest)
      | rest => (operations whose steps rest).map fun (more, rest) => (change :: more, rest)
    else none
  | _, _ => none

/-- The changes that a text means. The first argument bounds the steps. -/
def changes : Nat → List Char → Option (List Change)
  | steps + 1, cs =>
    let named := cs.takeWhile fun c => (users? c).isSome
    let whose := if named.isEmpty then none else some ((named.filterMap users?).foldl (· ||| ·) 0)
    match operations whose (cs.length + 1) (cs.drop named.length) with
    | some (found, []) => some found
    | some (found, _ :: rest) => (found ++ ·) <$> changes steps rest
    | none => none
  | 0, _ => none

/-- The changes that an argument means: a mode in digits, or changes in letters. -/
def parse (text : String) : Option (List Change) :=
  let cs := text.toList
  if !cs.isEmpty ∧ cs.all isOctal then
    let n := octal cs
    if everything < n then none
    else some [{ whose := some everything, how := '=', bits := .given n
                 mentioned := if cs.length < 5 then n ||| 0o1777 else everything }]
  else changes (cs.length + 1) cs

/-- A mode with a change made to it. -/
def Change.apply (c : Change) (isDirectory : Bool) (mask mode : Nat) : Nat :=
  let kept := if isDirectory then without 0o6000 c.mentioned else 0
  let value := match c.bits with
    | .given n => n
    | .copied m =>
      let bits := mode &&& m
      (if bits &&& 0o444 ≠ 0 then 0o444 else 0) ||| (if bits &&& 0o222 ≠ 0 then 0o222 else 0) |||
        (if bits &&& 0o111 ≠ 0 then 0o111 else 0)
    | .runnable n => if isDirectory ∨ mode &&& 0o111 ≠ 0 then n ||| 0o111 else n
  let value := without (value &&& c.whose.getD (without everything mask)) kept
  match c.how with
  | '+' => mode ||| value
  | '-' => without mode value
  | _ =>
    let preserved := (match c.whose with
      | some w => without everything w
      | none => 0) ||| kept
    (mode &&& preserved) ||| value

/-- A mode with changes made to it one after the other. -/
def adjusted (cs : List Change) (isDirectory : Bool) (mask mode : Nat) : Nat :=
  cs.foldl (fun mode c => c.apply isDirectory mask mode) mode

/-- A mode as nine letters. -/
def text (mode : Nat) : String :=
  let bit (n : Nat) : Bool := mode &&& n ≠ 0
  let three (r w x s : Nat) (small large : Char) : List Char :=
    [if bit r then 'r' else '-', if bit w then 'w' else '-',
      if bit s then (if bit x then small else large) else if bit x then 'x' else '-']
  String.ofList (three 0o400 0o200 0o100 0o4000 's' 'S' ++ three 0o040 0o020 0o010 0o2000 's' 'S' ++
    three 0o004 0o002 0o001 0o1000 't' 'T')

/-- A mode as four digits. -/
def digits (mode : Nat) : String :=
  let ds := Nat.toDigits 8 mode
  String.ofList (List.replicate (4 - ds.length) '0' ++ ds)

end ScriptSearch.Host.Mode
