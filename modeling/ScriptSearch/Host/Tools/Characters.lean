import ScriptSearch.Host.Tools.Work
import ScriptSearch.Host.Letters
import ScriptSearch.Host.Octet

/-! A tool that replaces, deletes and squeezes characters, which are single bytes. The characters
are given as sets, in which ranges, classes and repetitions can stand. -/

namespace ScriptSearch.Host.Tools

open Work

/-- A part of a set. A repetition without a count fills the set up to the length that it needs. -/
inductive SetPart
  | char (c : Nat)
  | range (first last : Nat)
  | named (name : String)
  | equal (c : Nat)
  | repeated (c : Nat) (count : Option Nat)
  deriving DecidableEq, Repr

/-- What is wrong with a set. -/
inductive SetFault
  | reversed (first last : Nat)
  | noClass (name : String)
  | noCount (text : String)
  | noEqual (text : String)

/-- A byte of a set, and whether it stands for itself only. -/
abbrev SetByte := Nat × Bool

/-- The bytes of a set, with escapes resolved. The flag says whether a backslash stands at the
end. -/
def setBytes : List Nat → List SetByte × Bool
  | [] => ([], false)
  | 92 :: [] => ([(92, false)], true)
  | 92 :: a :: b :: c :: rest =>
    if isOctal a ∧ isOctal b ∧ isOctal c ∧ octal [a, b, c] < 256 then
      let (more, ended) := setBytes rest
      ((octal [a, b, c], true) :: more, ended)
    else if isOctal a ∧ isOctal b then
      let (more, ended) := setBytes (c :: rest)
      ((octal [a, b], true) :: more, ended)
    else
      let (more, ended) := setBytes (b :: c :: rest)
      ((single a, true) :: more, ended)
  | 92 :: a :: b :: [] =>
    if isOctal a ∧ isOctal b then ([(octal [a, b], true)], false)
    else
      let (more, ended) := setBytes [b]
      ((single a, true) :: more, ended)
  | 92 :: a :: [] => ([(single a, true)], false)
  | a :: rest =>
    let (more, ended) := setBytes rest
    ((a, false) :: more, ended)
where
  isOctal (n : Nat) : Bool := 48 ≤ n && n ≤ 55
  octal (ds : List Nat) : Nat := ds.foldl (fun n d => 8 * n + (d - 48)) 0
  /-- What a backslash in front of a byte makes of it. -/
  single (n : Nat) : Nat :=
    if isOctal n then n - 48
    else (([(97, 7), (98, 8), (102, 12), (110, 10), (114, 13), (116, 9), (118, 11)] :
      List (Nat × Nat)).lookup n).getD n

/-- The bytes up to a mark and a closing bracket, and what follows them. -/
def upToMark (mark : Nat) : List SetByte → Option (List Nat × List SetByte)
  | (a, false) :: (93, false) :: rest =>
    if a = mark then some ([], rest)
    else (upToMark mark ((93, false) :: rest)).map fun (found, rest) => (a :: found, rest)
  | (a, _) :: rest => (upToMark mark rest).map fun (found, rest) => (a :: found, rest)
  | [] => none

/-- The text of bytes. -/
def ofBytes (bs : List Nat) : String := Octet.text (bs.map UInt8.ofNat)

/-- A repetition behind an opening bracket. -/
def repetition? : List SetByte → Except SetFault (Option (SetPart × List SetByte))
  | (c, _) :: (42, false) :: rest =>
    let digits := rest.takeWhile fun b => !(b.1 = 93 && !b.2)
    match rest.drop digits.length with
    | [] => .ok none
    | _ :: behind =>
      let ds := digits.map (·.1)
      let base := if ds.head? = some 48 then 8 else 10
      if ds.all fun d => 48 ≤ d && d < 48 + base then
        let n := ds.foldl (fun n d => base * n + (d - 48)) 0
        .ok (some (.repeated c (if n = 0 then none else some n), behind))
      else .error (.noCount (ofBytes ds))
  | _ => .ok none

/-- The parts of a set. The first argument bounds the steps. -/
def setParts : Nat → List SetByte → Except SetFault (List SetPart)
  | 0, _ | _, [] => .ok []
  | steps + 1, (91, false) :: (58, false) :: rest =>
    match upToMark 58 rest with
    | some (name, behind) =>
      if name.length ≠ 0 ∧ isClass (ofBytes name) then (.named (ofBytes name) :: ·) <$> setParts steps behind
      else if name.length = 0 then (.char 91 :: ·) <$> setParts steps ((58, false) :: rest)
      else .error (.noClass (ofBytes name))
    | none => (.char 91 :: ·) <$> setParts steps ((58, false) :: rest)
  | steps + 1, (91, false) :: (61, false) :: rest =>
    match upToMark 61 rest with
    | some ([c], behind) => (.equal c :: ·) <$> setParts steps behind
    | some ([], _) => (.char 91 :: ·) <$> setParts steps ((61, false) :: rest)
    | some (cs, _) => .error (.noEqual (ofBytes cs))
    | none => (.char 91 :: ·) <$> setParts steps ((61, false) :: rest)
  | steps + 1, (c, literal) :: rest => do
    let repeated ← if c = 91 ∧ !literal then repetition? rest else pure none
    match repeated, rest with
    | some (part, behind), _ => (part :: ·) <$> setParts steps behind
    | none, (45, false) :: (last, _) :: behind =>
      if last < c then .error (.reversed c last)
      (.range c last :: ·) <$> setParts steps behind
    | none, _ => (.char c :: ·) <$> setParts steps rest
where
  isClass (name : String) : Bool :=
    ["alpha", "digit", "alnum", "upper", "lower", "space", "blank", "punct", "print", "graph", "cntrl",
      "xdigit"].contains name

/-- The bytes of a class. -/
def classBytes (name : String) : List Nat :=
  (List.range 128).filter fun n => Letters.isOfClass false (Char.ofNat n) name

/-- How many bytes a part has, if it does not fill the set up. -/
def SetPart.size : SetPart → Nat
  | .char _ | .equal _ => 1
  | .range first last => last + 1 - first
  | .named name => (classBytes name).length
  | .repeated _ count => count.getD 0

def SetPart.bytes (fill : Nat) : SetPart → List Nat
  | .char c | .equal c => [c]
  | .range first last => (List.range (last + 1 - first)).map (first + ·)
  | .named name => classBytes name
  | .repeated c count => List.replicate (count.getD fill) c

def SetPart.isFill : SetPart → Bool
  | .repeated _ none => true
  | _ => false

/-- A set. -/
structure ByteSet where
  parts : List SetPart

namespace ByteSet

def size (s : ByteSet) : Nat := (s.parts.map SetPart.size).foldl (· + ·) 0

/-- The bytes in order, filled up to a length. -/
def toList (s : ByteSet) (length : Nat) : List Nat :=
  s.parts.flatMap (SetPart.bytes (length - s.size))

/-- The bytes that are not in a set. -/
def others (s : ByteSet) : List Nat :=
  let bytes := s.toList 0
  (List.range 256).filter fun n => !bytes.contains n

def hasClass (s : ByteSet) (p : String → Bool) : Bool :=
  s.parts.any fun
    | .named name => p name
    | _ => false

/-- The part that a set begins with at each of its places. -/
def starts (s : ByteSet) : List (Nat × SetPart) :=
  (s.parts.foldl (fun (found, place) part => (found ++ [(place, part)], place + part.size)) ([], 0)).1

end ByteSet

/-- A byte as a set can be written with it. -/
def shownByte (n : Nat) : String :=
  if n = 92 then "\\\\"
  else if 32 ≤ n ∧ n < 127 then String.singleton (Char.ofNat n)
  else
    match ([(7, "\\a"), (8, "\\b"), (12, "\\f"), (10, "\\n"), (13, "\\r"), (9, "\\t"), (11, "\\v")] :
        List (Nat × String)).lookup n with
    | some text => text
    | none => "\\" ++ String.ofList (Nat.toDigits 8 (512 + n)).tail

/-- The set that an argument means. -/
def ByteSet.ofText (text : String) : Work ByteSet := do
  let (bytes, ended) := setBytes ((Octet.bytes text).map UInt8.toNat)
  if ended then warn "warning: an unescaped backslash at end of string is not portable"
  match setParts (bytes.length + 1) bytes with
  | .ok parts => return { parts }
  | .error (.reversed first last) =>
    fail ("range-endpoints of '" ++ shownByte first ++ "-" ++ shownByte last ++
      "' are in reverse collating sequence order")
  | .error (.noClass name) => fail ("invalid character class " ++ (← quoted name))
  | .error (.noCount count) => fail ("invalid repeat count " ++ (← quoted count) ++ " in [c*n] construct")
  | .error (.noEqual name) => fail (name ++ ": equivalence class operand must be a single character")

/-- What bytes become, the last pair for a byte before the others. -/
def translation (pairs : List (Nat × Nat)) : Array Nat :=
  pairs.foldl (fun table (a, b) => table.setIfInBounds a b) (Array.range 256)

/-- Pairs of bytes for two sets; classes of large and small letters that stand at the same place
change the case. -/
def pairsOf (from? to? : ByteSet) (first second : List Nat) : List (Nat × Nat) :=
  let cases := (from?.starts.filterMap fun (place, part) =>
    match part, to?.starts.find? (fun t => t.1 = place && t.2 matches .named _) with
    | .named a, some (_, .named b) =>
      if a = "lower" ∧ b = "upper" then some ((classBytes "lower").map fun n => (n, n - 32))
      else if a = "upper" ∧ b = "lower" then some ((classBytes "upper").map fun n => (n, n + 32))
      else none
    | _, _ => none).flatten
  if cases.isEmpty then first.zip second
  else
    let isLetter (n : Nat) : Bool := (65 ≤ n && n ≤ 90) || (97 ≤ n && n ≤ 122)
    ((first.zip second).filter fun (a, b) => !(isLetter a && isLetter b && cases.any (·.1 = a))) ++ cases

/-- Leaves one of equal bytes that follow each other. -/
def squeezed (isIn : Nat → Bool) : (last : Option Nat) → List Nat → List Nat
  | _, [] => []
  | last, n :: rest =>
    if last = some n ∧ isIn n then squeezed isIn last rest else n :: squeezed isIn (some n) rest

/-- Checks the sets of a replacement. -/
def checkSets (complement truncate : Bool) (first second : ByteSet) : Work Unit := do
  if 1 < (second.parts.filter SetPart.isFill).length then
    fail "only one [c*] repeat construct may appear in string2"
  if second.parts.any (fun p => p matches .equal _) then
    fail "[=c=] expressions may not appear in string2 when translating"
  if second.hasClass fun name => name ≠ "upper" && name ≠ "lower" then
    fail ("when translating, the only character classes that may appear in\nstring2 are 'upper' and 'lower'")
  let isCase (name : String) : Bool := name = "upper" || name = "lower"
  if second.hasClass isCase then
    let aligned := second.starts.all fun (place, part) =>
      match part with
      | .named _ => !complement && first.starts.any fun (p, part) =>
          p = place && match part with
            | .named name => isCase name
            | _ => false
      | _ => true
    if !aligned then fail "misaligned [:upper:] and/or [:lower:] construct"
  if second.size = 0 ∧ !second.parts.any SetPart.isFill ∧ !truncate then
    fail "when not truncating set1, string2 must be non-empty"

/-- Replaces, deletes and squeezes characters of the input. -/
def transform : Work Unit := do
  let g ← options
    { rules := [flag "c" "complement", flag "C", flag "d" "delete", flag "s" "squeeze-repeats",
        flag "t" "truncate-set1"], inOrder := true }
  let deletes := g.has "d"
  let squeezes := g.has "s"
  let complement := g.hasAny ["c", "C"]
  let least := if deletes = squeezes then 2 else 1
  let most := if !deletes ∨ squeezes then 2 else 1
  let hint (text : String) : Work Unit := do (← process).err (text ++ "\n")
  let tryHelp : Work Unit := do hint ("Try '" ++ (← process).name ++ " --help' for more information."); leave 1
  if g.operands.length < least then
    match g.operands with
    | [] => warn "missing operand"
    | one :: _ =>
      warn ("missing operand after " ++ (← quoted one))
      hint (if squeezes then "Two strings must be given when both deleting and squeezing repeats."
        else "Two strings must be given when translating.")
    tryHelp
  if let some extra := g.operands[most]? then
    warn ("extra operand " ++ (← quoted extra))
    if g.operands.length = 2 then
      hint "Only one string may be given when deleting without squeezing repeats."
    tryHelp
  let first ← ByteSet.ofText (g.operands.headD "")
  if first.parts.any SetPart.isFill then fail "the [c*] repeat construct may not appear in string1"
  let second? ← match g.operands[1]? with
    | some text => some <$> ByteSet.ofText text
    | none => pure none
  let firstBytes := if complement then first.others else first.toList 0
  let text ← match ← contents "-" with
    | .ok text => pure text
    | .error e => fail ("read error: " ++ e.message)
  let bytes := (Octet.bytes text).map UInt8.toNat
  let result ← match deletes, second? with
    | true, none => pure (bytes.filter fun n => !firstBytes.contains n)
    | true, some second => do
      if second.parts.any SetPart.isFill then
        fail "the [c*] construct may appear in string2 only when translating"
      let kept := bytes.filter fun n => !firstBytes.contains n
      pure (squeezed (second.toList 0).contains none kept)
    | false, none => pure (squeezed firstBytes.contains none bytes)
    | false, some second => do
      checkSets complement (g.has "t") first second
      let secondBytes := second.toList firstBytes.length
      if complement ∧ first.hasClass (fun _ => true) ∧ secondBytes.any (· ≠ secondBytes.headD 0) then
        fail ("when translating with complemented character classes,\n" ++
          "string2 must map all characters in the domain to one")
      let padded :=
        if g.has "t" then secondBytes
        else secondBytes ++ List.replicate (firstBytes.length - secondBytes.length) (secondBytes.getLastD 0)
      let table := translation
        (if complement then firstBytes.zip padded else pairsOf first second firstBytes padded)
      let changed := bytes.map fun n => table.getD n n
      pure (if squeezes then squeezed secondBytes.contains none changed else changed)
  say (ofBytes result)

end ScriptSearch.Host.Tools
