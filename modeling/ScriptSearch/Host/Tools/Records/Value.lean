import ScriptSearch.Host.Printf
import ScriptSearch.Host.Regex

/-! Values of scripts on records: numbers, texts, and texts from outside that count as numbers if they
look like one. -/

namespace ScriptSearch.Host.Records

inductive Value
  /-- What nothing has been put into: zero, or no text. -/
  | unset
  | number (x : Float)
  | text (s : String)
  /-- A text from outside. -/
  | given (s : String)

/-! ### Numbers -/

/-- A number as a quotient. -/
def quotient (x : Float) : Real.Number :=
  let bits := x.toBits.toNat
  let negative : Bool := bits / Nat.pow 2 63 = 1
  let power := bits / Nat.pow 2 52 % 2048
  let digits := bits % Nat.pow 2 52
  if power = 2047 then ⟨negative, if digits = 0 then .infinite else .undefined⟩
  else
    let (digits, power) := if power = 0 then (digits, 1) else (digits + Nat.pow 2 52, power)
    ⟨negative, .finite (digits * Nat.pow 2 (power - 1075)) (Nat.pow 2 (1075 - power))⟩

/-- The number of a quotient whose divisor is a power of two. -/
def ofQuotient (r : Real.Number) : Float :=
  let x := match r.magnitude with
    | .finite num den => (Float.ofNat num).scaleB (-(Nat.log2 den : Int))
    | .infinite => 1.0 / 0.0
    | .undefined => 0.0 / 0.0
  if r.negative then -x else x

/-- A number without its fraction, if it is one. -/
def wholePart (x : Float) : Int :=
  match quotient x with
  | ⟨negative, .finite num den⟩ => if negative then -((num / den : Nat) : Int) else (num / den : Nat)
  | ⟨negative, _⟩ => if negative then -Numeral.signedMax else Numeral.signedMax

/-- What is left when a number is divided by another. -/
def remainder (x y : Float) : Float :=
  match quotient x, quotient y with
  | ⟨n, .finite a b⟩, ⟨_, .finite c d⟩ =>
    if c = 0 then 0.0 / 0.0
    else ofQuotient ⟨n, .finite (a * d % (c * b)) (b * d)⟩
  | ⟨_, .finite _ _⟩, ⟨_, .infinite⟩ => x
  | _, _ => 0.0 / 0.0

/-- The number at the start of a text; zero if there is none. -/
def numberOf (s : String) : Float :=
  match Real.read Real.word s.toList with
  | some r => ofQuotient r.number
  | none => 0.0

/-- Whether a text is a number, up to white space around it. -/
def looksNumeric (s : String) : Bool :=
  let cs := s.toList.dropWhile Numeral.isSpace
  match Real.read Real.word cs with
  | some r =>
    r.rest.all Numeral.isSpace && match cs.head? with
      | some c => c.isDigit || c = '.' || ((c = '+' || c = '-') && (cs.drop 1).head?.any fun c => c.isDigit || c = '.')
      | none => false
  | none => false

/-! ### Formats -/

/-- What is wrong with a format: it asks for too many values, or one of its parts makes no sense. -/
inductive FormatFault
  | tooFew
  | improper (n : Nat)

/-- The largest number that a whole number is written as. -/
def bounded (n : Int) : Int := max (-Numeral.signedMax) (min Numeral.signedMax n)

def Value.toNumber : Value → Float
  | .unset => 0.0
  | .number x => x
  | .text s | .given s => numberOf s

/-- Whether a value counts as a number. -/
def Value.isNumber : Value → Bool
  | .number _ => true
  | .given s => looksNumeric s
  | _ => false

/-- A number as a text: a whole number with its digits, another one as a format says. -/
def textOfNumber (format : String) (x : Float) : String :=
  let whole := bounded (wholePart x)
  match quotient x with
  | ⟨_, .finite num den⟩ =>
    if num % den = 0 ∧ num / den ≤ Numeral.signedMax.toNat + 1 then toString whole
    else
      let (places, letter) : Option Nat × Char := match format.toList with
        | '%' :: '.' :: rest =>
          let ds := rest.takeWhile Char.isDigit
          match rest.drop ds.length with
          | [c] => (some (ds.foldl (fun n c => 10 * n + (c.toNat - 48)) 0), c)
          | _ => (none, 'g')
        | ['%', c] => (none, c)
        | _ => (none, 'g')
      if letter = 'd' ∨ letter = 'i' then toString whole
      else Real.format { precision := places.getD 6 } letter 53 (quotient x)
  | ⟨true, .infinite⟩ => "-inf"
  | ⟨false, .infinite⟩ => "inf"
  | ⟨true, .undefined⟩ => "-nan"
  | ⟨false, .undefined⟩ => "nan"

def Value.toText (format : String) : Value → String
  | .unset => ""
  | .number x => textOfNumber format x
  | .text s | .given s => s

/-- Whether a value counts as true. -/
def Value.isTrue : Value → Bool
  | .unset => false
  | .number x => x != 0.0
  | .text s => s ≠ ""
  | .given s => if looksNumeric s then numberOf s != 0.0 else s ≠ ""

def ofBool (b : Bool) : Value := .number (if b then 1.0 else 0.0)

/-- The order of two values: that of numbers if both count as numbers. Nothing if one is undefined. -/
def Value.order (format : String) (a b : Value) : Option Ordering :=
  let numeric (v : Value) : Bool := v.isNumber || v matches .unset
  if numeric a ∧ numeric b then
    let x := a.toNumber
    let y := b.toNumber
    if x < y then some .lt else if x == y then some .eq else if y < x then some .gt else none
  else some (compare (Octet.bytes (a.toText format)) (Octet.bytes (b.toText format)))

/-- A number in a format, or a star that stands for one of the values; and what is left of both. -/
def starred (cs : List Char) (vs : List Value) : Option (Option Int × List Char × List Value) :=
  match cs with
  | '*' :: cs =>
    match vs with
    | v :: vs => some (some (wholePart v.toNumber), cs, vs)
    | [] => none
  | cs =>
    let ds := cs.takeWhile Char.isDigit
    let n : Nat := ds.foldl (fun n c => 10 * n + (c.toNat - 48)) 0
    some (if ds.isEmpty then none else some (n : Int), cs.drop ds.length, vs)

/-- A number behind a point, if there is one. -/
def starredPrecision (cs : List Char) (vs : List Value) : Option (Option Int × List Char × List Value) :=
  match cs with
  | '.' :: cs => (starred cs vs).map fun (p, cs, vs) => (some (p.getD 0), cs, vs)
  | cs => some (none, cs, vs)

/-- Values written as a format says. The text so far comes with a fault. The first argument bounds the
steps; `place` counts the parts. -/
def formatted (convert : String) : Nat → (place : Nat) → List Char → List Value →
    String × Option FormatFault
  | 0, _, _, _ | _, _, [], _ => ("", none)
  | steps + 1, place, '%' :: '%' :: rest, vs =>
    let (text, fault) := formatted convert steps place rest vs
    ("%" ++ text, fault)
  | steps + 1, place, '%' :: rest, vs =>
    let flags := rest.takeWhile "-+ #0".toList.contains
    let behind := rest.drop flags.length
    match starred behind vs with
    | none => ("", some .tooFew)
    | some (width, behind, vs) =>
      match starredPrecision behind vs with
      | none => ("", some .tooFew)
      | some (precision, behind, vs) =>
        let width := width.getD 0
        let l : Numeral.Layout :=
          { left := flags.contains '-' || width < 0, plus := flags.contains '+', space := flags.contains ' '
            alternate := flags.contains '#', zero := flags.contains '0', width := width.natAbs
            precision := precision.bind fun p => if p < 0 then none else some p.toNat }
        let behind := behind.dropWhile fun c => c = 'l' || c = 'h'
        match behind with
        | [] => ("", some (.improper place))
        | c :: rest =>
          if !"diouxXcseEfFgG".toList.contains c then ("", some (.improper place))
          else
            match vs with
            | [] => ("", some .tooFew)
            | v :: vs =>
              let n := bounded (wholePart v.toNumber)
              let unsigned := if n < 0 then (n + 18446744073709551616).toNat else n.toNat
              let piece := match c with
                | 'd' | 'i' => l.signed n
                | 'o' => l.unsigned 8 false unsigned
                | 'u' => { l with alternate := false }.unsigned 10 false unsigned
                | 'x' => l.unsigned 16 false unsigned
                | 'X' => l.unsigned 16 true unsigned
                | 'c' =>
                  let s := match v with
                    | .number _ => String.singleton (Octet.char (UInt8.ofNat (n % 256).toNat))
                    | .given s => if looksNumeric s then String.singleton (Octet.char (UInt8.ofNat (n % 256).toNat))
                      else (s.take 1).toString
                    | v => ((v.toText convert).take 1).toString
                  { l with zero := false }.pad s
                | 's' =>
                  let s := v.toText convert
                  l.pad (match l.precision with
                    | some p => (s.take p).toString
                    | none => s)
                | c => Real.format l c 53 (quotient v.toNumber)
              let (text, fault) := formatted convert steps (place + 1) rest vs
              (piece ++ text, fault)
  | steps + 1, place, c :: rest, vs =>
    let (text, fault) := formatted convert steps place rest vs
    (String.singleton c ++ text, fault)

/-! ### Expressions for texts -/

/-- What is wrong with an expression for texts. -/
inductive RegexFault
  | missingOperand
  | missingClosing
  | other (s : String)

def RegexFault.message : RegexFault → String
  | missingOperand => "missing operand"
  | missingClosing => "missing ')'"
  | other s => s

/-- What a message says of an expression that cannot be read. -/
def RegexFault.compileMessage (f : RegexFault) (regex : String) : String :=
  "regular expression compile failed (" ++ f.message ++ ")\n" ++ regex

/-- How expressions are understood. -/
def regexRule : RegexRule := { extended := true, lenient := true }

/-- An expression with its escapes resolved, and braces as text. The flag says whether a set of
characters is open, and its start. The first argument bounds the steps. -/
def plainRegex : Nat → (inSet : Bool) → (opening : Bool) → List Char → List Char
  | 0, _, _, cs => cs
  | _, _, _, [] => []
  | steps + 1, inSet, _, '\\' :: c :: rest =>
    match unescapedOne (c :: rest) with
    | some (d, rest) =>
      let special := "\\^$.[]|()*+?\x7b\x7d".toList.contains d
      (if special && !inSet then ['\\', d] else if d = '\\' ∧ inSet then ['\\'] else [d]) ++
        plainRegex steps inSet false rest
    | none =>
      if inSet then c :: plainRegex steps inSet false rest
      else if "\\^$.[]|()*+?\x7b\x7d/".toList.contains c then '\\' :: c :: plainRegex steps inSet false rest
      else c :: plainRegex steps inSet false rest
  | steps + 1, inSet, opening, c :: rest =>
    if inSet then
      match c, rest with
      | '[', ':' :: _ =>
        let name := rest.takeWhile (· ≠ ']')
        c :: name ++ [']'] ++ plainRegex steps true false (rest.drop (name.length + 1))
      | c, rest =>
        if c = ']' ∧ !opening then c :: plainRegex steps false false rest
        else c :: plainRegex steps true (opening && c = '^') rest
    else if c = '[' then c :: plainRegex steps true true rest
    else if c = '\x7b' ∨ c = '\x7d' then '\\' :: c :: plainRegex steps false false rest
    else c :: plainRegex steps false false rest
where
  unescapedOne : List Char → Option (Char × List Char)
    | 'n' :: rest => some ('\n', rest)
    | 't' :: rest => some ('\t', rest)
    | 'f' :: rest => some ('\x0c', rest)
    | 'r' :: rest => some ('\r', rest)
    | 'v' :: rest => some ('\x0b', rest)
    | 'a' :: rest => some ('\x07', rest)
    | 'b' :: rest => some ('\x08', rest)
    | '\\' :: rest => some ('\\', rest)
    | cs =>
      let ds := (cs.take 3).takeWhile fun c => '0' ≤ c && c ≤ '7'
      if ds.isEmpty then none
      else some (Octet.char (UInt8.ofNat (ds.foldl (fun n c => 8 * n + (c.toNat - 48)) 0)), cs.drop ds.length)

/-- Reads an expression for texts. -/
def regexOf (s : String) : Except RegexFault Regex :=
  let cs := s.toList
  let opens := ['*', '+', '?']
  if cs.head?.any opens.contains then .error .missingOperand
  else
    match Regex.read regexRule (String.ofList (plainRegex (cs.length + 1) false false cs)) with
    | .ok (r, _) => .ok r
    | .error .opened => .error .missingClosing
    | .error f => .error (.other f.message)

end ScriptSearch.Host.Records
