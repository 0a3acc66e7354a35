/-! Letters and other kinds of characters. Where text is bytes only ASCII has any; where text is
characters, the letters of the alphabets in common use have both cases. -/

namespace ScriptSearch.Host.Letters

/-- Rows of letters in which the large ones have the small ones at a distance above them. -/
def shiftedRows : List (Nat × Nat × Nat) :=
  [(0xc0, 0xd6, 32), (0xd8, 0xde, 32), (0x388, 0x38a, 37), (0x391, 0x3a1, 32), (0x3a3, 0x3ab, 32),
    (0x400, 0x40f, 80), (0x410, 0x42f, 32), (0x531, 0x556, 48), (0xff21, 0xff3a, 32)]

/-- Rows of letters in which a large one stands right before its small one. -/
def pairedRows : List (Nat × Nat) :=
  [(0x100, 0x12f), (0x132, 0x137), (0x139, 0x148), (0x14a, 0x177), (0x179, 0x17e), (0x1cd, 0x1dc),
    (0x1de, 0x1ef), (0x1f8, 0x21f), (0x222, 0x233), (0x370, 0x373), (0x3d8, 0x3ef), (0x460, 0x481),
    (0x48a, 0x4bf), (0x4c1, 0x4ce), (0x4d0, 0x52f), (0x1e00, 0x1e95), (0x1ea0, 0x1eff)]

/-- Single letters with their small forms. -/
def singles : List (Nat × Nat) :=
  [(0x178, 0xff), (0x386, 0x3ac), (0x38c, 0x3cc), (0x38e, 0x3cd), (0x38f, 0x3ce)]

/-- The large form of a character beyond ASCII. -/
def farUpper (n : Nat) : Nat :=
  match shiftedRows.find? fun (first, last, distance) => first + distance ≤ n && n ≤ last + distance with
  | some (_, _, distance) => n - distance
  | none =>
    match pairedRows.find? fun (first, last) => first ≤ n && n ≤ last with
    | some (first, _) => if (n - first) % 2 = 1 then n - 1 else n
    | none => ((singles.find? (·.2 = n)).map (·.1)).getD (if n = 0xb5 then 0x39c else if n = 0x3c2 then 0x3a3 else n)

/-- The small form of a character beyond ASCII. -/
def farLower (n : Nat) : Nat :=
  match shiftedRows.find? fun (first, last, _) => first ≤ n && n ≤ last with
  | some (_, _, distance) => n + distance
  | none =>
    match pairedRows.find? fun (first, last) => first ≤ n && n ≤ last with
    | some (first, _) => if (n - first) % 2 = 0 then n + 1 else n
    | none => ((singles.find? (·.1 = n)).map (·.2)).getD n

def upper (wide : Bool) (c : Char) : Char :=
  if c.toNat < 0x80 then c.toUpper else if wide then Char.ofNat (farUpper c.toNat) else c

def lower (wide : Bool) (c : Char) : Char :=
  if c.toNat < 0x80 then c.toLower else if wide then Char.ofNat (farLower c.toNat) else c

/-- Rows of characters beyond ASCII that are letters. -/
def letterRows : List (Nat × Nat) :=
  [(0xaa, 0xaa), (0xb5, 0xb5), (0xba, 0xba), (0xc0, 0xd6), (0xd8, 0xf6), (0xf8, 0x2c1),
    (0x370, 0x374), (0x376, 0x377), (0x37a, 0x37d), (0x37f, 0x37f), (0x386, 0x386), (0x388, 0x3f5),
    (0x3f7, 0x481), (0x48a, 0x52f), (0x531, 0x556), (0x560, 0x588), (0x5d0, 0x5ea), (0x620, 0x64a),
    (0x66e, 0x66f), (0x671, 0x6d3), (0x904, 0x939), (0xe01, 0xe30), (0x10a0, 0x10ff),
    (0x1100, 0x11ff), (0x1e00, 0x1fbc), (0x3041, 0x3096), (0x30a1, 0x30fa), (0x3105, 0x312f),
    (0x3400, 0x4dbf), (0x4e00, 0x9fff), (0xa000, 0xa48c), (0xac00, 0xd7a3), (0xf900, 0xfad9),
    (0xff21, 0xff3a), (0xff41, 0xff5a), (0xff66, 0xff9d), (0x20000, 0x2a6df)]

def isFarLetter (n : Nat) : Bool := letterRows.any fun (first, last) => first ≤ n && n ≤ last

/-- Whether a character beyond ASCII can be seen, or moves the place of writing. -/
def isFarPrintable (n : Nat) : Bool :=
  0xa0 ≤ n && !(0xd800 ≤ n && n ≤ 0xdfff) && !(n == 0x2028 || n == 0x2029) && n != 0xfeff &&
    !(0x10ff80 ≤ n) && n % 0x10000 < 0xfffe && !(0xe000 ≤ n && n ≤ 0xf8ff)

/-- Blanks beyond ASCII. -/
def isFarSpace (n : Nat) : Bool :=
  n == 0x1680 || (0x2000 ≤ n && n ≤ 0x200a && n != 0x2007) || n == 0x205f || n == 0x3000

/-- Whether a character can be shown as it is. -/
def isPrintable (wide : Bool) (c : Char) : Bool :=
  (' ' ≤ c && c ≤ '~') || (wide && isFarPrintable c.toNat)

/-- Whether a character is of a named class. -/
def isOfClass (wide : Bool) (c : Char) (name : String) : Bool :=
  if c.toNat < 0x80 then
    match name with
    | "alpha" => c.isAlpha
    | "digit" => c.isDigit
    | "alnum" => c.isAlphanum
    | "upper" => c.isUpper
    | "lower" => c.isLower
    | "space" => c == ' ' || ('\t' ≤ c && c ≤ '\r')
    | "blank" => c == ' ' || c == '\t'
    | "punct" => '!' ≤ c && c ≤ '~' && !c.isAlphanum
    | "print" => ' ' ≤ c && c ≤ '~'
    | "graph" => '!' ≤ c && c ≤ '~'
    | "cntrl" => c < ' ' || c == '\x7f'
    | "xdigit" => c.isDigit || ('a' ≤ c && c ≤ 'f') || ('A' ≤ c && c ≤ 'F')
    | "word" => c.isAlphanum || c == '_'
    | _ => false
  else if !wide then false
  else
    let n := c.toNat
    match name with
    | "alpha" | "alnum" | "word" => isFarLetter n
    | "upper" => farLower n != n
    | "lower" => farUpper n != n || n == 0xdf
    | "space" | "blank" => isFarSpace n
    | "print" => isFarPrintable n
    | "graph" => isFarPrintable n && !isFarSpace n
    | "punct" => isFarPrintable n && !isFarSpace n && !isFarLetter n
    | "cntrl" => n < 0xa0
    | _ => false

end ScriptSearch.Host.Letters
