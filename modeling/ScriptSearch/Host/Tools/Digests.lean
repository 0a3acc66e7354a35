import ScriptSearch.Host.Digest
import ScriptSearch.Host.Tools.Lines
import ScriptSearch.Host.Tools.Work

/-! Tools that print digests and sums of files, and that compare digests with those in a list. -/

namespace ScriptSearch.Host.Tools

open Work

/-- A digest by its name, with the number of its bytes. -/
structure DigestKind where
  name : String
  size : Nat
  digest : List UInt8 → List UInt8

namespace DigestKind

def md5 : DigestKind := ⟨"MD5", 16, Digest.md5⟩

def sha1 : DigestKind := ⟨"SHA1", 20, Digest.sha1⟩

def sha224 : DigestKind := ⟨"SHA224", 28, Digest.sha224⟩

def sha256 : DigestKind := ⟨"SHA256", 32, Digest.sha256⟩

def sha384 : DigestKind := ⟨"SHA384", 48, Digest.sha384⟩

def sha512 : DigestKind := ⟨"SHA512", 64, Digest.sha512⟩

/-- The digest of a chosen number of bits. -/
def blake2b (bits : Nat) : DigestKind :=
  ⟨if bits = 512 then "BLAKE2b" else "BLAKE2b-" ++ toString bits, bits / 8, Digest.blake2b (bits / 8)⟩

end DigestKind

/-- How digests are written. -/
structure DigestLayout where
  tagged : Bool := false
  binary : Bool := false
  zero : Bool := false

/-- The line that gives the digest of a file. A name with a line end is written with a mark in front
of the line, and the line end as a letter. -/
def digestLine (k : DigestKind) (l : DigestLayout) (name text : String) : String :=
  let digest := Digest.hexadecimal (k.digest (Octet.bytes text))
  let special (c : Char) : Bool := c == '\n' || c == '\r' || c == '\\'
  let marked := !l.zero && name.any special
  let shown := if !marked then name else name.replace "\\" "\\\\" |>.replace "\n" "\\n" |>.replace "\r" "\\r"
  let line :=
    if l.tagged then k.name ++ " (" ++ shown ++ ") = " ++ digest
    else digest ++ (if l.binary then " *" else "  ") ++ shown
  (if marked then "\\" else "") ++ line ++ if l.zero then "\x00" else "\n"

/-- A name with its escaped characters put back, if they are right. -/
def unmarkedName : List Char → Option (List Char)
  | '\\' :: 'n' :: rest => ('\n' :: ·) <$> unmarkedName rest
  | '\\' :: 'r' :: rest => ('\r' :: ·) <$> unmarkedName rest
  | '\\' :: '\\' :: rest => ('\\' :: ·) <$> unmarkedName rest
  | '\\' :: _ => none
  | c :: rest => (c :: ·) <$> unmarkedName rest
  | [] => some []

/-- A line of a list: the digest, and the file that should have it. The flag says whether a name
begins right behind one blank, if that is known by now. -/
def listedDigest (k : DigestKind) (close? : Option Bool) (line : String) :
    Option (String × String × Option Bool) :=
  let cs := line.toList.dropWhile fun c => c = ' ' || c = '\t'
  let (marked, cs) := match cs with
    | '\\' :: rest => (true, rest)
    | cs => (false, cs)
  let isDigest (ds : List Char) : Bool :=
    ds.length = 2 * k.size && ds.all fun c => c.isDigit || "abcdefABCDEF".toList.contains c
  let named (name digest : List Char) (close? : Option Bool) : Option (String × String × Option Bool) :=
    (if marked then unmarkedName name else some name).map fun name =>
      (String.ofList (digest.map Char.toLower), String.ofList name, close?)
  let tag := k.name.toList ++ " (".toList
  if tag.isPrefixOf cs then
    let body := (cs.drop tag.length).reverse
    let after := body.takeWhile (· ≠ ')')
    match body.drop after.length, after.reverse.dropWhile (· = ' ') with
    | _ :: name, '=' :: rest =>
      let digest := rest.dropWhile (· = ' ')
      if isDigest digest then named name.reverse digest close? else none
    | _, _ => none
  else
    let digest := cs.take (2 * k.size)
    if !isDigest digest then none
    else
      match cs.drop (2 * k.size) with
      | blank :: rest =>
        if blank ≠ ' ' ∧ blank ≠ '\t' then none
        else
          match rest with
          | [] => none
          | [c] => if close? = some false then none else named [c] digest (some true)
          | c :: name =>
            if c ≠ ' ' ∧ c ≠ '*' then if close? = some false then none else named rest digest (some true)
            else if close? = some true then named rest digest close?
            else named name digest (some false)
      | [] => none

/-- How a list is gone through. -/
structure Checking where
  quiet : Bool := false
  silent : Bool := false
  warns : Bool := false
  strict : Bool := false
  passing : Bool := false

/-- What has come out of a list. -/
structure Checked where
  malformed : Nat := 0
  proper : Nat := 0
  unread : Nat := 0
  wrong : Nat := 0
  right : Nat := 0
  close? : Option Bool := none

/-- Words for a number of things. -/
def counted (n : Nat) (one many : String) : String := toString n ++ " " ++ if n = 1 then one else many

/-- Compares the digest of a file with the one that is listed. -/
def checkFile (k : DigestKind) (o : Checking) (digest name : String) (s : Checked) : Work Checked := do
  let shown := if name.toList.contains '\n' then "\\" ++ name.replace "\\" "\\\\" |>.replace "\n" "\\n" else name
  match ← contents name with
  | .error e =>
    if o.passing ∧ e = .noEntry then return s
    warn (← about name e)
    if !o.silent then say (shown ++ ": FAILED open or read\n")
    return { s with unread := s.unread + 1 }
  | .ok text =>
    if Digest.hexadecimal (k.digest (Octet.bytes text)) = digest then
      if !o.silent ∧ !o.quiet then say (shown ++ ": OK\n")
      return { s with right := s.right + 1 }
    else
      if !o.silent then say (shown ++ ": FAILED\n")
      return { s with wrong := s.wrong + 1 }

/-- Goes through a list. -/
def checkList (k : DigestKind) (o : Checking) (list : String) : Work Unit := do
  let shown ← if list = "-" then pure "'standard input'" else bare list
  let some text ← contents? list | return
  let mut s : Checked := {}
  let mut number : Nat := 0
  for line in linesOf '\n' text do
    number := number + 1
    let line := if line.endsWith "\r" then (line.dropEnd 1).toString else line
    if line ≠ "" ∧ !line.startsWith "#" then
      match listedDigest k s.close? line with
      | none =>
        s := { s with malformed := s.malformed + 1 }
        if o.warns then
          flush
          warn (shown ++ ": " ++ toString number ++ ": improperly formatted " ++ k.name ++ " checksum line")
      | some (digest, name, close?) =>
        flush
        s ← checkFile k o digest name { s with proper := s.proper + 1, close? }
  flush
  if s.proper = 0 then fault (shown ++ ": no properly formatted checksum lines found")
  else
    if !o.silent then
      if s.malformed ≠ 0 then
        warn ("WARNING: " ++ counted s.malformed "line is" "lines are" ++ " improperly formatted")
      if s.unread ≠ 0 then
        warn ("WARNING: " ++ counted s.unread "listed file" "listed files" ++ " could not be read")
      if s.wrong ≠ 0 then
        warn ("WARNING: " ++ counted s.wrong "computed checksum" "computed checksums" ++ " did NOT match")
      if o.passing ∧ s.right = 0 then warn (shown ++ ": no file was verified")
    if s.right = 0 ∨ s.wrong ≠ 0 ∨ s.unread ≠ 0 ∨ (o.strict ∧ s.malformed ≠ 0) then setStatus 1

/-- The options of the tools for digests. -/
def digestRules : List OptionRule :=
  [flag "b" "binary", flag "c" "check", flag "" "ignore-missing", flag "" "quiet", flag "" "status",
    flag "" "strict", flag "" "tag", flag "t" "text", flag "w" "warn", flag "z" "zero"]

/-- Prints digests, or goes through lists of them. -/
def digestFiles (k : DigestKind) (g : Given) : Work Unit := do
  let checks := g.has "c"
  if g.has "tag" ∧ checks then refuse "the --tag option is meaningless when verifying checksums"
  if g.has "z" ∧ checks then refuse "the --zero option is not supported when verifying checksums"
  if g.hasAny ["b", "t"] ∧ checks then
    refuse "the --binary and --text options are meaningless when verifying checksums"
  for (name, word) in [("ignore-missing", "ignore-missing"), ("status", "status"), ("w", "warn"),
      ("quiet", "quiet"), ("strict", "strict")] do
    if g.has name ∧ !checks then
      refuse ("the --" ++ word ++ " option is meaningful only when verifying checksums")
  for name in inputs g do
    if checks then
      checkList k
        { quiet := g.lastOf ["status", "w", "quiet"] = some "quiet"
          silent := g.lastOf ["status", "w", "quiet"] = some "status"
          warns := g.lastOf ["status", "w", "quiet"] = some "w"
          strict := g.has "strict", passing := g.has "ignore-missing" } name
    else if let some text ← contents? name then
      say (digestLine k
        { tagged := g.has "tag", binary := g.lastOf ["b", "t"] = some "b", zero := g.has "z" } name text)

/-- A tool for one digest. -/
def digests (k : DigestKind) : Work Unit := do
  digestFiles k (← options { rules := digestRules })

/-- The number of bits that a digest of a chosen length has. -/
def chosenBits (g : Given) : Work Nat := do
  match g.last? "l" with
  | none => return 512
  | some text =>
    match count false text with
    | .error _ => fail ("invalid length: " ++ (← quoted text))
    | .ok n =>
      if 512 < n then
        warn ("invalid length: " ++ (← quoted text))
        fail ("maximum digest length for " ++ (← quoted "BLAKE2b") ++ " is 512 bits")
      if n % 8 ≠ 0 then
        warn ("invalid length: " ++ (← quoted text))
        fail "length is not a multiple of 8"
      return if n = 0 then 512 else n

def blake2bDigests : Work Unit := do
  let g ← options { rules := valued "l" "length" :: digestRules }
  digestFiles (.blake2b (← chosenBits g)) g

/-! ### Sums -/

/-- The sum of a file that turns, and its size in blocks. -/
def turningLine (bytes : List UInt8) : String :=
  let padded (width : Nat) (fill : Char) (n : Nat) : String :=
    let ds := (toString n).toList
    String.ofList (List.replicate (width - ds.length) fill ++ ds)
  padded 5 '0' (Digest.turningSum bytes) ++ " " ++ padded 5 ' ' ((bytes.length + 1023) / 1024)

def plainLine (bytes : List UInt8) : String :=
  toString (Digest.plainSum bytes) ++ " " ++ toString ((bytes.length + 511) / 512)

def cyclicLine (bytes : List UInt8) : String :=
  toString (Digest.crc bytes) ++ " " ++ toString bytes.length

/-- Prints sums of files, with their names if they are given. -/
def sumFiles (line : List UInt8 → String) (g : Given) : Work Unit := do
  for name in inputs g do
    if let some text ← contents? name then
      say (line (Octet.bytes text) ++ (if g.operands.isEmpty then "" else " " ++ name) ++ "\n")

def blockSums : Work Unit := do
  let g ← options { rules := [flag "r", flag "s" "sysv"] }
  sumFiles (if g.lastOf ["r", "s"] = some "s" then plainLine else turningLine) g

/-- The ways to sum that can be chosen, each with its digest or the line that it prints. -/
def sumKinds (bits : Nat) : List (String × Option DigestKind × (List UInt8 → String)) :=
  [("bsd", none, turningLine), ("sysv", none, plainLine), ("crc", none, cyclicLine),
    ("md5", some .md5, fun _ => ""), ("sha1", some .sha1, fun _ => ""),
    ("sha224", some .sha224, fun _ => ""), ("sha256", some .sha256, fun _ => ""),
    ("sha384", some .sha384, fun _ => ""), ("sha512", some .sha512, fun _ => ""),
    ("blake2b", some (.blake2b bits), fun _ => "")]

def checksums : Work Unit := do
  let g ← options
    { rules := [valued "a" "algorithm", valued "l" "length", flag "" "untagged"] ++ digestRules }
  let name := (g.last? "a").getD "crc"
  let kinds := sumKinds (← chosenBits g)
  match kinds.find? (·.1 = name) with
  | none =>
    warn ("invalid argument " ++ (← quoted name) ++ " for " ++ (← quoted "--algorithm"))
    let mut list := "Valid arguments are:\n"
    for kind in kinds.map (·.1) ++ ["sm3"] do
      list := list ++ "  - " ++ (← quoted kind) ++ "\n"
    let p ← process
    p.err (list ++ "Try '" ++ p.name ++ " --help' for more information.\n")
    leave 1
  | some (_, some kind, _) =>
    let tagged := !g.has "untagged" && !g.has "c"
    digestFiles kind (if tagged then g.put [("tag", "")] else g)
  | some (_, none, line) =>
    if g.has "c" then fail "--check is not supported with --algorithm=\x7bbsd,sysv,crc\x7d"
    sumFiles line g

end ScriptSearch.Host.Tools
