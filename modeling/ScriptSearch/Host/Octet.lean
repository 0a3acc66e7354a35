/-! Texts as rows of bytes. A text is a row of characters; a byte that is part of no character
is kept as a character of its own, from a range that is set aside for this. So every row of
bytes has a text, and the text leads back to it. -/

namespace ScriptSearch.Host.Octet

/-- Where the characters lie that stand for single bytes. -/
def base : Nat := 0x10ff00

/-- A byte as a character: one of ASCII, or one that is set aside. -/
def char (b : UInt8) : Char := if b < 0x80 then Char.ofNat b.toNat else Char.ofNat (base + b.toNat)

/-- Whether a character stands for a single byte beyond ASCII. -/
def isSingle (c : Char) : Bool := base + 0x80 ≤ c.toNat

/-- The bytes of a character. -/
def ofChar (c : Char) : List UInt8 :=
  if c.toNat < 0x80 then [UInt8.ofNat c.toNat]
  else if isSingle c then [UInt8.ofNat (c.toNat - base)]
  else (String.singleton c).toUTF8.toList

def ofChars (cs : List Char) : List UInt8 := cs.flatMap ofChar

/-- The bytes of a text. -/
def bytes (s : String) : List UInt8 :=
  if s.any isSingle then ofChars s.toList else s.toUTF8.toList

/-- How many bytes a text has. -/
def size (s : String) : Nat :=
  if s.any isSingle then s.foldl (fun n c => n + if isSingle c then 1 else c.utf8Size) 0
  else s.utf8ByteSize

/-- How many bytes can follow a first byte, and what the next one has to be between. -/
def following (first : UInt8) : Option (Nat × UInt8 × UInt8) :=
  if first < 0x80 then some (0, 0x80, 0xbf)
  else if 0xc2 ≤ first ∧ first ≤ 0xdf then some (1, 0x80, 0xbf)
  else if first = 0xe0 then some (2, 0xa0, 0xbf)
  else if first = 0xed then some (2, 0x80, 0x9f)
  else if 0xe1 ≤ first ∧ first ≤ 0xef then some (2, 0x80, 0xbf)
  else if first = 0xf0 then some (3, 0x90, 0xbf)
  else if 0xf1 ≤ first ∧ first ≤ 0xf3 then some (3, 0x80, 0xbf)
  else if first = 0xf4 then some (3, 0x80, 0x8f)
  else none

/-- The bytes that belong to the first one, as far as they are what has to follow. -/
def tailOf : (count : Nat) → (low high : UInt8) → List UInt8 → List UInt8
  | count + 1, low, high, b :: rest =>
    if low ≤ b ∧ b ≤ high then b :: tailOf count 0x80 0xbf rest else []
  | _, _, _, _ => []

/-- The characters of bytes; `broken` says what stands for bytes that begin a character and do
not make one. The first argument bounds the steps. -/
def decode (broken : List UInt8 → List Char) : Nat → List UInt8 → List Char
  | 0, _ | _, [] => []
  | steps + 1, first :: rest =>
    match following first with
    | none => broken [first] ++ decode broken steps rest
    | some (count, low, high) =>
      let tail := tailOf count low high rest
      let chars :=
        if tail.length < count then broken (first :: tail)
        else match String.fromUTF8? ⟨(first :: tail).toArray⟩ with
          | some s => s.toList
          | none => broken (first :: tail)
      chars ++ decode broken steps (rest.drop tail.length)

/-- The text of bytes. -/
def text (bs : List UInt8) : String :=
  match String.fromUTF8? ⟨bs.toArray⟩ with
  | some s => s
  | none => String.ofList (decode (·.map char) bs.length bs)

/-- A text put together from parts, in which the bytes of one character may have met. -/
def met (s : String) : String := if s.any isSingle then text (bytes s) else s

/-- A text as it is shown: a mark stands for what is no character. -/
def shown (s : String) : String :=
  if s.any isSingle then
    let bs := bytes s
    String.ofList (decode (fun _ => ['\ufffd']) bs.length bs)
  else s

/-- The characters of a text, or its bytes as a character each. -/
def units (wide : Bool) (s : String) : List Char :=
  if wide then s.toList
  else s.toList.flatMap fun c => if c.toNat < 0x80 then [c] else (ofChar c).map char

/-- The text of characters that may be bytes of one. -/
def join (cs : List Char) : String := met (String.ofList cs)

/-- A text cut behind so many bytes. -/
def splitAt (n : Nat) (s : String) : String × String :=
  if s.utf8ByteSize ≤ n then (s, "")
  else
    let rec go : Nat → List Char → List Char × List Char
      | 0, cs => ([], cs)
      | _, [] => ([], [])
      | n + 1, c :: cs =>
        let bs := ofChar c
        if bs.length ≤ n + 1 then
          let (front, back) := go (n + 1 - bs.length) cs
          (c :: front, back)
        else ((bs.take (n + 1)).map char, (bs.drop (n + 1)).map char ++ cs)
    termination_by _ cs => cs.length
    let (front, back) := go n s.toList
    (String.ofList front, join back)

end ScriptSearch.Host.Octet
