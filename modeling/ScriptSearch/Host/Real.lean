import ScriptSearch.Host.Numeral

/-! Numbers with a fraction: read as decimals, rounded to binary numbers of a given
precision, and written with a number of digits. All arithmetic is exact; a rounded
quotient goes to the nearest whole number, and a tie to the even one. -/

namespace ScriptSearch.Host.Real

/-- A quotient rounded to the nearest whole number, ties to even. -/
def nearest (num den : Nat) : Nat :=
  let q := num / den
  let twice := 2 * (num % den)
  if twice < den ∨ (twice = den ∧ q % 2 = 0) then q else q + 1

/-- A magnitude, as a quotient or without bound. -/
inductive Magnitude
  | finite (num den : Nat)
  | infinite
  | undefined

structure Number where
  negative : Bool
  magnitude : Magnitude

/-- The power that scales a quotient to between one half of the base and the base's own
power: the exponent of its leading digit. -/
def exponent (base num den : Nat) : Int :=
  let guess : Int := (Nat.log2 num - Nat.log2 den : Int) / (if base = 2 then 1 else 3)
  let scaled (e : Int) : Nat × Nat :=
    (num * Nat.pow base (-e).toNat, den * Nat.pow base e.toNat)
  let rec down : Nat → Int → Int
    | 0, e => e
    | steps + 1, e => let (n, d) := scaled e; if n < d then down steps (e - 1) else e
  let rec up : Nat → Int → Int
    | 0, e => e
    | steps + 1, e => let (n, d) := scaled (e + 1); if d ≤ n then up steps (e + 1) else e
  let steps := guess.natAbs + 8
  up steps (down steps guess)

/-- Which binary numbers there are: how many digits they have, the least exponent of a last
digit, and the exponent at which a number is too large. -/
structure Width where
  digits : Nat
  least : Int
  bound : Int

/-- The width of numbers that fill one machine word. -/
def word : Width := ⟨53, -1074, 1024⟩

/-- The width of numbers that fill more than one machine word. -/
def extended : Width := ⟨64, -16445, 16384⟩

/-- The nearest binary number, and whether it has the digits that such a number can have. -/
def binary (w : Width) (num den : Nat) : Magnitude × Bool :=
  if num = 0 then (.finite 0 1, true)
  else
    let shift : Int := max (exponent 2 num den - w.digits + 1) w.least
    let up := Nat.pow 2 (-shift).toNat
    let down := Nat.pow 2 shift.toNat
    let n := nearest (num * up) (den * down)
    let exact := num * up % (den * down) = 0
    if Nat.pow 2 (w.bound - shift).toNat ≤ n then (.infinite, false)
    else (.finite (n * down) up, exact || Nat.pow 2 (w.digits - 1) ≤ n)

/-- A number that was read, whether it is in range, and what follows it. -/
structure Reading where
  number : Number
  inRange : Bool := true
  rest : List Char

/-- The largest power that is taken into account. -/
def powerLimit : Int := 40000

/-- Reads a number at the start of a text. -/
def read (w : Width) (cs : List Char) : Option Reading :=
  let cs := cs.dropWhile Numeral.isSpace
  let (negative, cs) := match cs with
    | '-' :: cs => (true, cs)
    | '+' :: cs => (false, cs)
    | cs => (false, cs)
  let lower := cs.map Char.toLower
  if "infinity".toList.isPrefixOf lower then some { number := ⟨negative, .infinite⟩, rest := cs.drop 8 }
  else if "inf".toList.isPrefixOf lower then some { number := ⟨negative, .infinite⟩, rest := cs.drop 3 }
  else if "nan".toList.isPrefixOf lower then some { number := ⟨negative, .undefined⟩, rest := cs.drop 3 }
  else
    let radix := if "0x".toList.isPrefixOf lower then 16 else 10
    let body := if radix = 16 then cs.drop 2 else cs
    let isDigit (c : Char) : Bool := (Escape.digit? radix c).isSome
    let whole := body.takeWhile isDigit
    let rest := body.drop whole.length
    let fraction := match rest with
      | '.' :: rest => rest.takeWhile isDigit
      | _ => []
    let rest := match rest with
      | '.' :: more => if whole.isEmpty && fraction.isEmpty then rest else more.drop fraction.length
      | rest => rest
    if whole.isEmpty && fraction.isEmpty then
      if radix = 16 then some { number := ⟨negative, .finite 0 1⟩, rest := cs.drop 1 } else none
    else
      let digits := (whole ++ fraction).foldl
        (fun n c => radix * n + (Escape.digit? radix c).getD 0) 0
      let mark := if radix = 16 then 'p' else 'e'
      let (power, rest) := match rest with
        | c :: more =>
          if c.toLower = mark ∧ !(more.head?.any Numeral.isSpace) then
            match Numeral.readIn (some 10) more with
            | some ⟨e, rest⟩ => (max (-powerLimit) (min powerLimit e), rest)
            | none => (0, rest)
          else (0, rest)
        | [] => (0, [])
      let scale : Nat := if radix = 16 then 2 else 10
      let num := digits * Nat.pow scale power.toNat
      let den := Nat.pow radix fraction.length * Nat.pow scale (-power).toNat
      let (magnitude, inRange) := binary w num den
      some { number := ⟨negative, magnitude⟩, inRange, rest }

/-- Digits with a point before the last so many of them. -/
def pointed (alternate : Bool) (places : Nat) (n : Nat) : String :=
  let ds := Numeral.digits 10 n
  let ds := List.replicate (places + 1 - ds.length) '0' ++ ds
  let whole := ds.take (ds.length - places)
  let fraction := ds.drop (ds.length - places)
  String.ofList (whole ++ (if places = 0 ∧ !alternate then [] else '.' :: fraction))

/-- Digits before and after the point. -/
def fixed (alternate : Bool) (places num den : Nat) : String :=
  pointed alternate places (nearest (num * Nat.pow 10 places) den)

/-- The leading digit and so many more, rounded, with the exponent of the leading one. -/
def leading (places num den : Nat) : Nat × Int :=
  if num = 0 then (0, 0)
  else
    let e := exponent 10 num den
    let shift := (places : Int) - e
    let n := nearest (num * Nat.pow 10 shift.toNat) (den * Nat.pow 10 (-shift).toNat)
    if n = Nat.pow 10 (places + 1) then (Nat.pow 10 places, e + 1) else (n, e)

def scientific (alternate : Bool) (places num den : Nat) : String :=
  let (n, e) := leading places num den
  let ds := Numeral.digits 10 e.natAbs
  let ds := List.replicate (2 - ds.length) '0' ++ ds
  pointed alternate places n ++ (if e < 0 then "e-" else "e+") ++ String.ofList ds

/-- Without zeros at the end of the fraction, nor a point that nothing follows. -/
def trimmed (text : String) : String :=
  if '.' ∈ text.toList then
    let mantissa := text.toList.takeWhile (· ≠ 'e')
    let kept := (mantissa.reverse.dropWhile (· = '0')).dropWhile (· = '.')
    String.ofList (kept.reverse ++ text.toList.drop mantissa.length)
  else text

/-- In fixed or in scientific form, whichever suits the exponent. -/
def general (alternate : Bool) (precision num den : Nat) : String :=
  let p := max precision 1
  let e := (leading (p - 1) num den).2
  let text :=
    if -4 ≤ e ∧ e < p then fixed alternate (p - 1 - e).toNat num den
    else scientific alternate (p - 1) num den
  if alternate then text else trimmed text

/-- A binary number with so many digits in base 16, as many as stand behind a point when
the digits are taken by fours from the last one, or as many as asked for. -/
def hexadecimal (alternate : Bool) (bits : Nat) (precision : Option Nat) (num den : Nat) : String :=
  let first := (bits - 1) % 4
  let places := precision.getD ((bits - 1) / 4)
  let e : Int := if num = 0 then 0 else exponent 2 num den - first
  let shift : Int := 4 * places - e
  let n := nearest (num * Nat.pow 2 shift.toNat) (den * Nat.pow 2 (-shift).toNat)
  let (n, e) := if n = Nat.pow 16 (places + 1) then (Nat.pow 16 places, e + 4) else (n, e)
  let ds := Numeral.digits 16 n
  let ds := List.replicate (places + 1 - ds.length) '0' ++ ds
  let whole := ds.take (ds.length - places)
  let fraction := ds.drop (ds.length - places)
  let fraction :=
    if precision.isNone then (fraction.reverse.dropWhile (· = '0')).reverse else fraction
  String.ofList (whole ++ (if fraction.isEmpty ∧ !alternate then [] else '.' :: fraction)) ++
    (if e < 0 then "p-" else "p+") ++ toString e.natAbs

/-- A number with so many binary digits as the conversion of the given letter writes it. -/
def format (l : Numeral.Layout) (letter : Char) (bits : Nat) (x : Number) : String :=
  let sign := l.sign x.negative
  let precision := l.precision.getD 6
  let upper (s : String) : String := if letter.isUpper then s.toUpper else s
  match x.magnitude with
  | .infinite => l.fill false sign (upper "inf")
  | .undefined => l.fill false sign (upper "nan")
  | .finite num den =>
    let marked := if letter.toLower = 'a' then sign ++ upper "0x" else sign
    l.fill true marked <| upper <| match letter.toLower with
      | 'a' => hexadecimal l.alternate bits l.precision num den
      | 'f' => fixed l.alternate precision num den
      | 'e' => scientific l.alternate precision num den
      | _ => general l.alternate precision num den

end ScriptSearch.Host.Real
