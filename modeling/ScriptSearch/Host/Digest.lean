/-! Digests of rows of bytes. A digest goes through a message block by block; the message is first
filled up to whole blocks, with its length at the end. -/

namespace ScriptSearch.Host.Digest

/-! ### Words and bytes -/

/-- The number that bytes make, the highest first. -/
def number (bytes : List UInt8) : Nat := bytes.foldl (fun n b => 256 * n + b.toNat) 0

/-- So many bytes of a number, the lowest first. -/
def lowBytes : (count : Nat) → Nat → List UInt8
  | 0, _ => []
  | count + 1, n => UInt8.ofNat n :: lowBytes count (n / 256)

/-- Whether the first byte of a word is its highest or its lowest. -/
inductive ByteOrder
  | highFirst | lowFirst
  deriving DecidableEq, Repr

def ByteOrder.word {w : Nat} (o : ByteOrder) (bytes : List UInt8) : BitVec w :=
  BitVec.ofNat w (number (if o = .highFirst then bytes else bytes.reverse))

def ByteOrder.bytes (o : ByteOrder) (count n : Nat) : List UInt8 :=
  if o = .highFirst then (lowBytes count n).reverse else lowBytes count n

/-- Rows of so many elements; a last row that is shorter is left out. The first argument bounds the
rows. -/
def rows {α : Type} (size : Nat) : Nat → List α → List (List α)
  | 0, _ => []
  | steps + 1, xs => if xs.length < size then [] else xs.take size :: rows size steps (xs.drop size)

/-- The words of a message. -/
def wordsOf {w : Nat} (o : ByteOrder) (bytes : List UInt8) : List (BitVec w) :=
  (rows (w / 8) bytes.length bytes).map o.word

/-- The bytes of words. -/
def ofWords {w : Nat} (o : ByteOrder) (ws : List (BitVec w)) : List UInt8 :=
  ws.flatMap fun x => o.bytes (w / 8) x.toNat

/-- A message filled up: a bit, zeros, and its length in bits, to whole blocks of sixteen words. -/
def padded (o : ByteOrder) (w : Nat) (message : List UInt8) : List UInt8 :=
  let block := 2 * w
  let tail := w / 4
  let zeros := (block - (message.length + 1 + tail) % block) % block
  message ++ 0x80 :: List.replicate zeros 0 ++ o.bytes tail (8 * message.length)

/-- The blocks of sixteen words that a message is worked through in. -/
def blocks {w : Nat} (o : ByteOrder) (message : List UInt8) : List (List (BitVec w)) :=
  let words : List (BitVec w) := wordsOf o (padded o w message)
  rows 16 words.length words

/-- Adds words to words. -/
def sums {w : Nat} (xs ys : List (BitVec w)) : List (BitVec w) := xs.zipWith (· + ·) ys

/-! ### The two digests of four and five words -/

/-- The first words of both. -/
def beginning : List (BitVec 32) := [0x67452301, 0xefcdab89, 0x98badcfe, 0x10325476]

/-- The sines of the first numbers, as fractions of 2 ^ 32. -/
def sines : List (BitVec 32) :=
  [0xd76aa478, 0xe8c7b756, 0x242070db, 0xc1bdceee, 0xf57c0faf, 0x4787c62a, 0xa8304613,
    0xfd469501, 0x698098d8, 0x8b44f7af, 0xffff5bb1, 0x895cd7be, 0x6b901122, 0xfd987193,
    0xa679438e, 0x49b40821, 0xf61e2562, 0xc040b340, 0x265e5a51, 0xe9b6c7aa, 0xd62f105d,
    0x02441453, 0xd8a1e681, 0xe7d3fbc8, 0x21e1cde6, 0xc33707d6, 0xf4d50d87, 0x455a14ed,
    0xa9e3e905, 0xfcefa3f8, 0x676f02d9, 0x8d2a4c8a, 0xfffa3942, 0x8771f681, 0x6d9d6122,
    0xfde5380c, 0xa4beea44, 0x4bdecfa9, 0xf6bb4b60, 0xbebfbc70, 0x289b7ec6, 0xeaa127fa,
    0xd4ef3085, 0x04881d05, 0xd9d4d039, 0xe6db99e5, 0x1fa27cf8, 0xc4ac5665, 0xf4292244,
    0x432aff97, 0xab9423a7, 0xfc93a039, 0x655b59c3, 0x8f0ccc92, 0xffeff47d, 0x85845dd1,
    0x6fa87e4f, 0xfe2ce6e0, 0xa3014314, 0x4e0811a1, 0xf7537e82, 0xbd3af235, 0x2ad7d2bb,
    0xeb86d391]

/-- How far each round turns its word. -/
def turns : List Nat :=
  [[7, 12, 17, 22], [5, 9, 14, 20], [4, 11, 16, 23], [6, 10, 15, 21]].flatMap fun four =>
    four ++ four ++ four ++ four

/-- A round of the digest of four words. -/
def md5Round (block : List (BitVec 32)) (s : List (BitVec 32)) (round : Nat × BitVec 32 × Nat) :
    List (BitVec 32) :=
  let (i, sine, turn) := round
  match s with
  | [a, b, c, d] =>
    let (f, k) :=
      if i < 16 then ((b &&& c) ||| (~~~b &&& d), i)
      else if i < 32 then ((d &&& b) ||| (~~~d &&& c), (5 * i + 1) % 16)
      else if i < 48 then (b ^^^ c ^^^ d, (3 * i + 5) % 16)
      else (c ^^^ (b ||| ~~~d), 7 * i % 16)
    [d, b + (a + f + sine + block.getD k 0).rotateLeft turn, b, c]
  | s => s

/-- The digest of four words. -/
def md5 (message : List UInt8) : List UInt8 :=
  let rounds := (List.range 64).zip (sines.zip turns)
  ofWords .lowFirst ((blocks .lowFirst message).foldl
    (fun s block => sums s (rounds.foldl (md5Round block) s)) beginning)

/-- A round of the digest of five words. -/
def sha1Round (s : List (BitVec 32)) (round : Nat × BitVec 32) : List (BitVec 32) :=
  let (i, word) := round
  match s with
  | [a, b, c, d, e] =>
    let (f, k) : BitVec 32 × BitVec 32 :=
      if i < 20 then ((b &&& c) ||| (~~~b &&& d), 0x5a827999)
      else if i < 40 then (b ^^^ c ^^^ d, 0x6ed9eba1)
      else if i < 60 then ((b &&& c) ||| (b &&& d) ||| (c &&& d), 0x8f1bbcdc)
      else (b ^^^ c ^^^ d, 0xca62c1d6)
    [a.rotateLeft 5 + f + e + k + word, a, b.rotateLeft 30, c, d]
  | s => s

/-- The words of a block with those that follow from them, up to a count. -/
def extended {w : Nat} (next : Array (BitVec w) → BitVec w) (count : Nat) (block : List (BitVec w)) :
    List (BitVec w) :=
  ((List.range (count - 16)).foldl (fun words _ => words.push (next words)) block.toArray).toList

/-- The word that stands so many places before the end. -/
def back {w : Nat} (words : Array (BitVec w)) (count : Nat) : BitVec w :=
  (words[words.size - count]?).getD 0

/-- The digest of five words. -/
def sha1 (message : List UInt8) : List UInt8 :=
  let next (words : Array (BitVec 32)) : BitVec 32 :=
    (back words 3 ^^^ back words 8 ^^^ back words 14 ^^^ back words 16).rotateLeft 1
  ofWords .highFirst ((blocks .highFirst message).foldl
    (fun s block => sums s (((List.range 80).zip (extended next 80 block)).foldl sha1Round s))
    (beginning ++ [0xc3d2e1f0]))

/-! ### The digests of eight words -/

/-- The first primes. -/
def primes : List Nat :=
  (List.range 410).filter fun n => 1 < n && (List.range n).all fun d => d < 2 || n % d != 0

/-- The first 64 bits behind the point of a root of a number. -/
def fraction (degree n : Nat) : Nat :=
  let whole := n * Nat.pow 2 (64 * degree)
  let root := (List.range 72).reverse.foldl
    (fun r i => if Nat.pow (r + Nat.pow 2 i) degree ≤ whole then r + Nat.pow 2 i else r) 0
  root % Nat.pow 2 64

/-- The square roots of the first primes, from one on. -/
def squareRoots (skipped : Nat) : List Nat := ((primes.drop skipped).take 8).map (fraction 2)

def cubeRoots : List Nat := primes.map (fraction 3)

/-- How the words of a digest are turned and shifted. -/
structure Mixing where
  rounds : Nat
  high : Nat × Nat × Nat
  low : Nat × Nat × Nat
  /-- For the words that follow from a block's; the last of three is a shift. -/
  earlier : Nat × Nat × Nat
  later : Nat × Nat × Nat

def mixing32 : Mixing := ⟨64, (2, 13, 22), (6, 11, 25), (7, 18, 3), (17, 19, 10)⟩

def mixing64 : Mixing := ⟨80, (28, 34, 39), (14, 18, 41), (1, 8, 7), (19, 61, 6)⟩

def turned {w : Nat} (amounts : Nat × Nat × Nat) (x : BitVec w) : BitVec w :=
  x.rotateRight amounts.1 ^^^ x.rotateRight amounts.2.1 ^^^ x.rotateRight amounts.2.2

def shifted {w : Nat} (amounts : Nat × Nat × Nat) (x : BitVec w) : BitVec w :=
  x.rotateRight amounts.1 ^^^ x.rotateRight amounts.2.1 ^^^ (x >>> amounts.2.2)

def sha2Round {w : Nat} (m : Mixing) (s : List (BitVec w)) (round : BitVec w × BitVec w) :
    List (BitVec w) :=
  match s with
  | [a, b, c, d, e, f, g, h] =>
    let one := h + turned m.low e + ((e &&& f) ^^^ (~~~e &&& g)) + round.1 + round.2
    let two := turned m.high a + ((a &&& b) ^^^ (a &&& c) ^^^ (b &&& c))
    [one + two, a, b, c, d + one, e, f, g]
  | s => s

/-- A digest of eight words. -/
def sha2 {w : Nat} (m : Mixing) (start : List (BitVec w)) (message : List UInt8) : List UInt8 :=
  let roots : List (BitVec w) := cubeRoots.map fun n => BitVec.ofNat w (n / Nat.pow 2 (64 - w))
  let next (words : Array (BitVec w)) : BitVec w :=
    shifted m.later (back words 2) + back words 7 + shifted m.earlier (back words 15) + back words 16
  ofWords .highFirst ((blocks .highFirst message).foldl
    (fun s block => sums s ((roots.zip (extended next m.rounds block)).foldl (sha2Round m) s)) start)

def sha256 : List UInt8 → List UInt8 :=
  sha2 mixing32 ((squareRoots 0).map fun n => BitVec.ofNat 32 (n / Nat.pow 2 32))

def sha224 (message : List UInt8) : List UInt8 :=
  (sha2 mixing32 ((squareRoots 8).map (BitVec.ofNat 32)) message).take 28

def sha512 : List UInt8 → List UInt8 := sha2 mixing64 ((squareRoots 0).map (BitVec.ofNat 64))

def sha384 (message : List UInt8) : List UInt8 :=
  (sha2 mixing64 ((squareRoots 8).map (BitVec.ofNat 64)) message).take 48

/-! ### The digest whose length is chosen -/

/-- In which order each round takes the words of a block. -/
def orders : List (List Nat) :=
  [[0, 1, 2, 3, 4, 5, 6, 7, 8, 9, 10, 11, 12, 13, 14, 15],
    [14, 10, 4, 8, 9, 15, 13, 6, 1, 12, 0, 2, 11, 7, 5, 3],
    [11, 8, 12, 0, 5, 2, 15, 13, 10, 14, 3, 6, 7, 1, 9, 4],
    [7, 9, 3, 1, 13, 12, 11, 14, 2, 6, 5, 10, 4, 0, 15, 8],
    [9, 0, 5, 7, 2, 4, 10, 15, 14, 1, 11, 12, 6, 8, 3, 13],
    [2, 12, 6, 10, 0, 11, 8, 3, 4, 13, 7, 5, 15, 14, 1, 9],
    [12, 5, 1, 15, 14, 13, 4, 10, 0, 7, 6, 3, 9, 2, 8, 11],
    [13, 11, 7, 14, 12, 1, 3, 9, 5, 0, 15, 4, 8, 6, 2, 10],
    [6, 15, 14, 9, 11, 3, 0, 8, 12, 2, 13, 7, 1, 4, 10, 5],
    [10, 2, 8, 4, 7, 6, 1, 5, 15, 11, 9, 14, 3, 12, 13, 0]]

/-- Which four words a step of a round mixes: the columns, and then the diagonals. -/
def quarters : List (Nat × Nat × Nat × Nat) :=
  [(0, 4, 8, 12), (1, 5, 9, 13), (2, 6, 10, 14), (3, 7, 11, 15),
    (0, 5, 10, 15), (1, 6, 11, 12), (2, 7, 8, 13), (3, 4, 9, 14)]

def mix (v : Array (BitVec 64)) (step : (Nat × Nat × Nat × Nat) × BitVec 64 × BitVec 64) :
    Array (BitVec 64) :=
  let ((i, j, k, l), x, y) := step
  let word (n : Nat) : BitVec 64 := (v[n]?).getD 0
  let half (a b c d x : BitVec 64) (first second : Nat) :=
    let a := a + b + x
    let d := (d ^^^ a).rotateRight first
    let c := c + d
    (a, (b ^^^ c).rotateRight second, c, d)
  let (a, b, c, d) := half (word i) (word j) (word k) (word l) x 32 24
  let (a, b, c, d) := half a b c d y 16 63
  (((v.setIfInBounds i a).setIfInBounds j b).setIfInBounds k c).setIfInBounds l d

/-- Works a block in: so many bytes of the message have gone by, and whether it is the last. -/
def blake2Block (start s : List (BitVec 64)) (block : List (BitVec 64)) (gone : Nat) (last : Bool) :
    List (BitVec 64) :=
  let ends := if last then BitVec.allOnes 64 else 0
  let v := (s ++ start).zipWith (· ^^^ ·) (List.replicate 12 0 ++ [BitVec.ofNat 64 gone, 0, ends, 0])
  let rounds := orders ++ orders.take 2
  let v := rounds.foldl
    (fun v order =>
      let pairs := rows 2 8 (order.map fun i => block.getD i 0)
      (quarters.zip (pairs.map fun p => (p.getD 0 0, p.getD 1 0))).foldl mix v)
    v.toArray
  let v := v.toList
  s.zipWith (· ^^^ ·) ((v.take 8).zipWith (· ^^^ ·) (v.drop 8))

/-- The digest of so many bytes. -/
def blake2b (size : Nat) (message : List UInt8) : List UInt8 :=
  let start := (squareRoots 0).map (BitVec.ofNat 64)
  let count := max 1 ((message.length + 127) / 128)
  let full := message ++ List.replicate (128 * count - message.length) 0
  let first := start.zipWith (· ^^^ ·) (BitVec.ofNat 64 (0x01010000 + size) :: List.replicate 7 0)
  let s := (rows 128 count full).zipIdx.foldl
    (fun s (block, i) =>
      blake2Block start s (wordsOf .lowFirst block) (min message.length (128 * (i + 1))) (i + 1 = count))
    first
  (ofWords .lowFirst s).take size

/-! ### Sums -/

/-- Divides a row of bits by the polynomial of the cyclic sum. -/
def crcStep (crc : BitVec 32) (byte : UInt8) : BitVec 32 :=
  (List.range 8).foldl
    (fun crc _ => if crc.msb then (crc <<< 1) ^^^ 0x04c11db7 else crc <<< 1)
    (crc ^^^ (BitVec.ofNat 32 byte.toNat <<< 24))

/-- The cyclic sum of a message and its length. -/
def crc (message : List UInt8) : Nat :=
  let rec sizes : Nat → Nat → List UInt8
    | 0, _ => []
    | steps + 1, n => if n = 0 then [] else UInt8.ofNat n :: sizes steps (n / 256)
  (~~~((message ++ sizes 16 message.length).foldl crcStep 0)).toNat

/-- The sum that turns by a bit before each byte. -/
def turningSum (message : List UInt8) : Nat :=
  (message.foldl (fun (s : BitVec 16) b => s.rotateRight 1 + BitVec.ofNat 16 b.toNat) 0).toNat

/-- The plain sum, folded to sixteen bits. -/
def plainSum (message : List UInt8) : Nat :=
  let s := message.foldl (fun n b => n + b.toNat) 0
  let r := s % 65536 + s % 4294967296 / 65536
  r % 65536 + r / 65536

/-- Bytes as hexadecimal digits. -/
def hexadecimal (bytes : List UInt8) : String :=
  String.ofList (bytes.flatMap fun b => (Nat.toDigits 16 (256 + b.toNat)).tail)

end ScriptSearch.Host.Digest
