import ScriptSearch.Host.Octet

/-! Backslash escapes in texts that are printed. Printers differ in which escapes they know;
a rule says which. Escapes stand for bytes, so text is gathered as bytes. -/

namespace ScriptSearch.Host

/-- Which escapes are known besides those of `Escape.letters`. -/
structure EscapeRule where
  /-- Letters for the escape character. -/
  escapeLetters : List Char := ['e']
  /-- Characters that may be written with a backslash and stand for themselves. -/
  marks : List Char := []
  /-- A digit from 1 to 7 begins an octal number. -/
  octal : Bool := true
  /-- Three more octal digits may follow a zero, not two. -/
  longZero : Bool := false
  hex : Bool := false
  /-- A letter `x` needs digits, and a code point all the digits it can have. -/
  strictHex : Bool := false
  codePoints : Bool := false
  /-- A letter `c` ends all output. -/
  stop : Bool := false
  /-- A letter `c` makes the character behind it a control character. -/
  control : Bool := false
  /-- Whether code points beyond ASCII can be written. -/
  wide : Bool := false

/-- What follows a backslash. -/
inductive Escape
  | bytes (bs : List UInt8)
  | stop
  | hexMissing
  /-- The letter and digits of a number that is no code point. -/
  | badPoint (text : String)
  /-- No escape: the backslash stands for itself. -/
  | unknown
  deriving Repr

namespace Escape

/-- The bytes that every rule gives to a letter. -/
def letters : List (Char × UInt8) :=
  [('a', 7), ('b', 8), ('f', 12), ('n', 10), ('r', 13), ('t', 9), ('v', 11), ('\\', 92)]

def digit? (base : Nat) (c : Char) : Option Nat :=
  let d := if c.isDigit then some (c.toNat - 48)
    else if 'a' ≤ c ∧ c ≤ 'f' then some (c.toNat - 87)
    else if 'A' ≤ c ∧ c ≤ 'F' then some (c.toNat - 55)
    else none
  d.filter (· < base)

/-- The number at the start of a text, with at most so many digits. -/
def number (base : Nat) (most : Nat) (cs : List Char) : Option (Nat × List Char) :=
  let digits := (cs.take most).takeWhile fun c => (digit? base c).isSome
  if digits.isEmpty then none
  else some (digits.foldl (fun n c => base * n + (digit? base c).getD 0) 0, cs.drop digits.length)

/-- A code point. Where only ASCII can be printed, any other is written as an escape. -/
def codePoint (wide : Bool) (n : Nat) : List UInt8 :=
  let hex := (Nat.toDigits 16 n).map Char.toUpper
  let long := 0x10000 ≤ n
  if n < 128 then [UInt8.ofNat n]
  else if wide then Octet.ofChars [Char.ofNat n]
  else Octet.ofChars ('\\' :: (if long then 'U' else 'u') ::
    List.replicate ((if long then 8 else 4) - hex.length) '0' ++ hex)

/-- Digits in base 16, at least so many. -/
def hexDigits (least n : Nat) : List Char :=
  let ds := Nat.toDigits 16 n
  List.replicate (least - ds.length) '0' ++ ds

/-- Whether a number is kept for halves of code points, and is none itself. -/
def isHalf (n : Nat) : Bool := 0xd800 ≤ n && n ≤ 0xdfff

/-- The control character that belongs to a character. -/
def controlOf (c : Char) : UInt8 :=
  if c = '?' then 127 else UInt8.ofNat (c.toUpper.toNat % 32)

/-- Reads an escape after its backslash. -/
def read (rule : EscapeRule) : List Char → Escape × List Char
  | [] => (.unknown, [])
  | c :: rest =>
    let value (base most : Nat) (cs : List Char) : Escape × List Char :=
      match number base most cs with
      | some (n, rest) => (.bytes [UInt8.ofNat n], rest)
      | none => (.unknown, c :: rest)
    let point (most : Nat) : Escape × List Char :=
      match number 16 most rest with
      | some (n, after) =>
        if !rule.strictHex then (.bytes (codePoint rule.wide n), after)
        else if rest.length < after.length + most then (.hexMissing, rest)
        else if isHalf n then (.badPoint (String.ofList (c :: hexDigits most n)), after)
        else (.bytes (codePoint rule.wide n), after)
      | none => if rule.strictHex then (.hexMissing, rest) else (.unknown, c :: rest)
    match letters.lookup c with
    | some b => (.bytes [b], rest)
    | none =>
      if rule.escapeLetters.contains c then (.bytes [27], rest)
      else if rule.marks.contains c then (.bytes (Octet.ofChars [c]), rest)
      else if c = 'c' ∧ rule.stop then (.stop, rest)
      else if c = 'c' ∧ rule.control ∧ !rest.isEmpty then
        (.bytes [controlOf (rest.headD ' ')], rest.drop 1)
      else if c = '0' then value 8 (if rule.longZero then 4 else 3) (c :: rest)
      else if rule.octal ∧ (digit? 8 c).isSome then value 8 3 (c :: rest)
      else if c = 'x' ∧ rule.hex then
        match value 16 2 rest with
        | (.unknown, _) => if rule.strictHex then (.hexMissing, rest) else (.unknown, c :: rest)
        | escape => escape
      else if c = 'u' ∧ rule.codePoints then point 4
      else if c = 'U' ∧ rule.codePoints then point 8
      else (.unknown, c :: rest)

/-- A text with its escapes resolved: its bytes, the escape that ended it, if one did, and the
letters of escapes whose digits are missing. -/
structure Resolved where
  bytes : List UInt8 := []
  ending : Option Escape := none
  digitless : List Char := []

def Resolved.prepend (bytes : List UInt8) (r : Resolved) : Resolved :=
  { r with bytes := bytes ++ r.bytes }

/-- Resolves the escapes in a text. The first argument bounds the steps; the length of the
text suffices. -/
def resolveUpTo (rule : EscapeRule) : Nat → List Char → Resolved
  | 0, _ | _, [] => {}
  | steps + 1, '\\' :: rest =>
    match read rule rest with
    | (.stop, _) => { ending := some .stop }
    | (.hexMissing, _) => { ending := some .hexMissing }
    | (.badPoint text, _) => { ending := some (.badPoint text) }
    | (.bytes bs, rest) => (resolveUpTo rule steps rest).prepend bs
    | (.unknown, rest) =>
      let r := (resolveUpTo rule steps rest).prepend [92]
      { r with digitless := (rest.head?.filter "xuU".toList.contains).toList ++ r.digitless }
  | steps + 1, c :: rest => (resolveUpTo rule steps rest).prepend (Octet.ofChars [c])

def resolve (rule : EscapeRule) (text : String) : Resolved :=
  resolveUpTo rule text.length text.toList

end Escape

/-- Who provides a command: it is a program of its own, or a part of the plain shell or of
the large one. -/
inductive Provider
  | program
  | plain
  | bash
  deriving DecidableEq, Repr

namespace Provider

/-- Escapes in a format, where text is characters if `wide`. -/
def formatRule (wide : Bool) : Provider → EscapeRule
  | program =>
    { marks := ['"'], hex := true, strictHex := true, codePoints := true, stop := true, wide }
  | plain => {}
  | bash =>
    { escapeLetters := ['e', 'E'], marks := ['\'', '"', '?'], hex := true, codePoints := true, wide }

/-- Escapes in an argument of a format whose escapes are to be resolved. -/
def argumentRule (p : Provider) (wide : Bool) : EscapeRule :=
  let rule := p.formatRule wide
  { rule with longZero := true, stop := true, marks := if p = bash then [] else rule.marks }

/-- Escapes in the arguments of `echo`. -/
def echoRule (wide : Bool) : Provider → EscapeRule
  | program => { longZero := true, hex := true, stop := true }
  | plain => { longZero := true, stop := true }
  | bash =>
    { escapeLetters := ['e', 'E'], octal := false, longZero := true, hex := true
      codePoints := true, stop := true, wide }

/-- How the options of `echo` are set at the start: whether the line's end is left out and
whether escapes are resolved. -/
def echoDefault : Provider → Bool × Bool
  | plain => (false, true)
  | _ => (false, false)

/-- Options at the start of the arguments, and the arguments that are printed. The plain
shell knows a single `-n`; the others know letters in any number. -/
def echoOptions (p : Provider) (set : Bool × Bool) : List String → (Bool × Bool) × List String
  | [] => (set, [])
  | arg :: args =>
    match p, arg.toList with
    | plain, ['-', 'n'] => ((true, set.2), args)
    | plain, _ => (set, arg :: args)
    | _, '-' :: c :: cs =>
      if (c :: cs).all "neE".toList.contains then
        echoOptions p ((c :: cs).foldl (fun set c => match c with
          | 'n' => (true, set.2)
          | c => (set.1, c = 'e')) set) args
      else (set, arg :: args)
    | _, _ => (set, arg :: args)

/-- The arguments with a blank between neighbours and, unless it is left out, a line's end. -/
def echoed (p : Provider) (wide bare escapes : Bool) (args : List String) : String :=
  let text := String.intercalate " " args
  let (text, stopped) :=
    if escapes then
      let r := Escape.resolve (p.echoRule wide) text
      (Octet.text r.bytes, r.ending.isSome)
    else (text, false)
  if bare || stopped then text else text ++ "\n"

/-- What `echo` prints. -/
def echo (p : Provider) (wide : Bool) (args : List String) : String :=
  let ((bare, escapes), args) := p.echoOptions p.echoDefault args
  p.echoed wide bare escapes args

end Provider

end ScriptSearch.Host
