import ScriptSearch.Host.Escape

/-! Whole numbers as the system's tools read and write them. -/

namespace ScriptSearch.Host.Numeral

def isSpace (c : Char) : Bool := c == ' ' || (9 ≤ c.toNat && c.toNat ≤ 13)

/-- A number at the start of a text and what follows it. -/
structure Reading where
  value : Int
  rest : List Char
  deriving Repr

/-- The base that the start of a numeral shows, and the digits after the mark of it. -/
def base : List Char → Nat × List Char
  | '0' :: mark :: digit :: rest =>
    let radix :=
      if mark = 'x' ∨ mark = 'X' then 16 else if mark = 'b' ∨ mark = 'B' then 2 else 0
    if (Escape.digit? radix digit).isSome then (radix, digit :: rest)
    else (8, '0' :: mark :: digit :: rest)
  | '0' :: rest => (8, '0' :: rest)
  | cs => (10, cs)

/-- Reads white space, a sign and digits. Nothing if there are no digits. -/
def readIn (base? : Option Nat) (cs : List Char) : Option Reading :=
  let cs := cs.dropWhile isSpace
  let (negative, cs) := match cs with
    | '-' :: cs => (true, cs)
    | '+' :: cs => (false, cs)
    | cs => (false, cs)
  let (radix, cs) := match base? with
    | some radix => (radix, cs)
    | none => base cs
  (Escape.number radix cs.length cs).map fun (n, rest) => ⟨if negative then -(n : Int) else n, rest⟩

/-- Reads a numeral in base ten or in the base that it shows. -/
def read (cs : List Char) : Option Reading := readIn none cs

/-- The largest number of a machine word, with a sign and without. -/
def signedMax : Int := 9223372036854775807

def unsignedMax : Int := 18446744073709551615

def isBlank (c : Char) : Bool := c == ' ' || c == '\t'

/-- A decimal numeral that fills the text, up to characters of two kinds in front of it and
behind it. -/
def decimalAmong? (before behind : Char → Bool) (s : String) : Option Int :=
  let cs := s.toList
  if (cs.takeWhile isSpace).all before then
    match readIn (some 10) cs with
    | some ⟨n, rest⟩ => if rest.all behind then some n else none
    | none => none
  else none

/-- A decimal numeral that fills the text, up to white space around it. -/
def decimal? (s : String) : Option Int := decimalAmong? isSpace isSpace s

/-- The digits of a number, most significant first. -/
def digits (base n : Nat) : List Char := Nat.toDigits base n

/-- How a field is laid out. -/
structure Layout where
  left : Bool := false
  plus : Bool := false
  space : Bool := false
  alternate : Bool := false
  zero : Bool := false
  width : Nat := 0
  precision : Option Nat := none
  deriving Repr

namespace Layout

/-- Fills up to the width, counted in bytes. -/
def pad (l : Layout) (text : String) : String :=
  let blanks := "".pushn ' ' (l.width - Octet.size text)
  if l.left then text ++ blanks else blanks ++ text

/-- A sign or mark, then digits; zeros between them fill up to the width. -/
def fill (l : Layout) (zeros : Bool) (mark digits : String) : String :=
  if zeros && l.zero && !l.left then
    mark ++ "".pushn '0' (l.width - mark.length - digits.length) ++ digits
  else l.pad (mark ++ digits)

def sign (l : Layout) (negative : Bool) : String :=
  if negative then "-" else if l.plus then "+" else if l.space then " " else ""

/-- At least as many digits as the precision asks for; zero has none at precision zero. -/
def precise (l : Layout) (n : Nat) (ds : List Char) : List Char :=
  match l.precision with
  | some p => if n = 0 ∧ p = 0 then [] else List.replicate (p - ds.length) '0' ++ ds
  | none => ds

def signed (l : Layout) (n : Int) : String :=
  let ds := l.precise n.natAbs (digits 10 n.natAbs)
  l.fill l.precision.isNone (l.sign (n < 0)) (String.ofList ds)

/-- A number without a sign in base 8, 10 or 16. -/
def unsigned (l : Layout) (base : Nat) (upper : Bool) (n : Nat) : String :=
  let ds := l.precise n (digits base n)
  let ds := if upper then ds.map Char.toUpper else ds
  let ds := if l.alternate ∧ base = 8 ∧ ds.head? ≠ some '0' then '0' :: ds else ds
  let mark := if l.alternate ∧ base = 16 ∧ n ≠ 0 then (if upper then "0X" else "0x") else ""
  l.fill l.precision.isNone mark (String.ofList ds)

end Layout

end ScriptSearch.Host.Numeral
