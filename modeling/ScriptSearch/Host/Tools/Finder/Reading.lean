import ScriptSearch.Host.Account
import ScriptSearch.Host.FileTree.Change
import ScriptSearch.Host.Mode
import ScriptSearch.Host.Tools.Finder.Condition
import ScriptSearch.Host.Tools.Work

/-! Reading conditions on files from arguments. A word that begins with a dash is a condition or an
option for the whole search; what it needs follows it. -/

namespace ScriptSearch.Host.Finder

open Tools Work

/-- When links are followed. -/
inductive Follows
  | never | arguments | always
  deriving DecidableEq, Repr

/-- How expressions are written. -/
inductive RegexKind
  /-- Like a basic one, but `+` and `?` are operators, and no braces are. -/
  | editor
  | basic
  | extended
  deriving DecidableEq, Repr

/-- Options for a whole search. -/
structure Options where
  follows : Follows := .never
  /-- Whether what is in a directory comes before it. -/
  inner : Bool := false
  /-- Whether that has been asked for. -/
  innerAsked : Bool := false
  least : Nat := 0
  most : Option Nat := none

/-- What has been read: the latest mark first. -/
structure Draft where
  options : Options := {}
  marks : List Mark := []
  regexKind : RegexKind := .editor
  gathers : Nat := 0

/-- Whether an operand begins the condition. -/
def beginsCondition (leading : Bool) (word : String) : Bool :=
  match word.toList with
  | '-' :: _ :: _ => true
  | [')'] | [','] => !leading
  | ['!'] | ['('] => true
  | _ => false

/-- A mark behind the others; what is no operator is joined to what stands before it. -/
def Draft.add (d : Draft) (m : Mark) : Draft :=
  let joins : Bool := match m with
    | .joint _ _ | .closing => false
    | _ => true
  let ended : Bool := match d.marks.head? with
    | some (.primary _) | some .closing => true
    | _ => false
  { d with marks := if joins && ended then m :: .joint .and "-a" :: d.marks else m :: d.marks }

def Draft.test (d : Draft) (p : Primary) : Draft := d.add (.primary p)

/-! ### Values -/

/-- A whole number with the sign that says how it is compared. -/
def Amount.ofString? (s : String) : Option Amount :=
  let (relation, cs) := match s.toList with
    | '+' :: cs => (Ordering.gt, cs)
    | '-' :: cs => (Ordering.lt, cs)
    | cs => (Ordering.eq, cs)
  if !cs.isEmpty ∧ cs.all Char.isDigit then
    some ⟨relation, cs.foldl (fun n c => 10 * n + (c.toNat - 48)) 0⟩
  else none

/-- The bytes that a letter behind a size stands for. -/
def sizeUnits : List (Char × Nat) :=
  [('b', 512), ('c', 1), ('w', 2), ('k', 1024), ('M', 1048576), ('G', 1073741824)]

def sizeTest (text : String) : Work Primary := do
  match text.toList.getLast? with
  | none => fail "invalid null argument to -size"
  | some c =>
    match if c.isDigit then some 512 else sizeUnits.lookup c with
    | none => fail ("invalid -size type \x60" ++ String.singleton c ++ "'")
    | some unit =>
      match Amount.ofString? (if c.isDigit then text else (text.dropEnd 1).toString) with
      | some a => return .size a unit
      | none => fail ("Invalid argument \x60" ++ text ++ "' to -size")

/-- Reads letters of kinds that commas stand between. -/
def kindLetters (word : String) : List Char → (found : List Char) → Work (List Char)
  | [], _ => fail ("Arguments to " ++ word ++ " should contain at least one letter")
  | c :: rest, found => do
    if !"bcdflpsD".toList.contains c then
      fail ("Unknown argument to " ++ word ++ ": " ++ String.singleton c)
    if found.contains c then
      fail ("Duplicate file type '" ++ String.singleton c ++ "' in the argument list to " ++ word ++ ".")
    match rest with
    | [] => return found ++ [c]
    | [','] =>
      fail ("Last file type in list argument to " ++ word ++ " is missing, i.e., list is ending on: ','")
    | ',' :: rest => kindLetters word rest (found ++ [c])
    | _ => fail ("Must separate multiple arguments to " ++ word ++ " using: ','")

def modeTest (text : String) : Work Primary := do
  let (how, body) := match text.toList with
    | '-' :: cs => ('-', cs)
    | '/' :: cs => ('/', cs)
    | cs => ('=', cs)
  match if body.head? = some '+' then none else Mode.parse (String.ofList body) with
  | none => fail ("invalid mode " ++ (← quoted text))
  | some cs =>
    let bits := Mode.adjusted cs false 0 0
    return if how = '/' ∧ bits = 0 then .always true else .mode how bits

/-- An expression as a basic one. The flag says whether a set of characters is open; the first
argument bounds the steps. -/
def basicForm : Nat → (inSet : Bool) → List Char → List Char
  | 0, _, cs => cs
  | _, _, [] => []
  | steps + 1, true, c :: rest => c :: basicForm steps (c ≠ ']') rest
  | steps + 1, false, '\\' :: c :: rest =>
    if c = '+' ∨ c = '?' then c :: basicForm steps false rest
    else if c = '\x7b' ∨ c = '\x7d' then c :: basicForm steps false rest
    else '\\' :: c :: basicForm steps false rest
  | steps + 1, false, c :: rest =>
    if c = '+' ∨ c = '?' then '\\' :: c :: basicForm steps false rest
    else
      match c, rest with
      | '[', '^' :: d :: rest => '[' :: '^' :: d :: basicForm steps true rest
      | '[', d :: rest => '[' :: d :: basicForm steps true rest
      | c, rest => c :: basicForm steps false rest

def regexTest (kind : RegexKind) (foldCase : Bool) (text : String) : Work Primary := do
  let rule : RegexRule := { extended := kind = .extended, foldCase, wide := ← isWide }
  let pattern := if kind = .editor then
      String.ofList (basicForm (text.length + 1) false text.toList)
    else text
  match Regex.read rule pattern with
  | .ok (r, _) => return .regex rule r
  | .error f => fail ("failed to compile regular expression '" ++ text ++ "': " ++ f.message)

/-- The kinds of expressions by name. -/
def regexKinds : List (String × RegexKind) :=
  [("findutils-default", .editor), ("ed", .basic), ("emacs", .editor), ("gnu-awk", .extended),
    ("grep", .basic), ("posix-awk", .extended), ("awk", .extended), ("posix-basic", .basic),
    ("posix-egrep", .extended), ("egrep", .extended), ("posix-extended", .extended),
    ("posix-minimal-basic", .basic), ("sed", .basic)]

def regexKindNamed (name : String) : Work RegexKind := do
  match regexKinds.lookup name with
  | some k => return k
  | none =>
    let mut names := []
    for (name, _) in regexKinds do names := names ++ [← quoted name]
    fail ("Unknown regular expression type " ++ (← quoted name) ++ "; valid types are " ++
      String.intercalate ", " names ++ ".")

/-- A file that something is compared with. -/
def reference (path : String) (follows : Bool) : Work Location := do
  let (tree, here) ← place
  match if follows then (tree.locate here path).bind fun d => (tree.entry d).map fun _ => d.location
      else (tree.look here path).map (·.1) with
  | .ok location => return location
  | .error e => fail ((← quoted path) ++ ": " ++ e.message)

/-- Makes sure that a file can be written, and empties it. -/
def target (path : String) : Work (Option String) := do
  if path = "/dev/stdout" then return none
  if let some e := ← store path "" then fail ((← quoted path) ++ ": " ++ e.message)
  return some path

/-- A user or a group, by a number or by a name. -/
def ownerTest (word : String) (isGroup : Bool) (text : String) : Work Primary := do
  let test := if isGroup then Primary.group else Primary.owner
  if text = "" then
    fail (if isGroup then "argument to -group is empty, but should be a group name"
      else "The argument to -user should not be empty")
  let named := if isGroup then (Account.all.find? fun a => Account.groupName? a.group = some text).map (·.group)
    else (Account.ofName? text).map (·.number)
  match named, Amount.ofString? text with
  | some n, _ => return test ⟨.eq, n⟩
  | none, some a => return test { a with relation := .eq }
  | none, none =>
    fail ((← quoted text) ++ (if word = "-group" then " is not the name of an existing group"
      else " is not the name of a known user"))

/-! ### Formats -/

/-- The character that an escape stands for, and what follows. -/
def escaped? : List Char → Option (Char × List Char)
  | 'a' :: rest => some ('\x07', rest)
  | 'b' :: rest => some ('\x08', rest)
  | 'f' :: rest => some ('\x0c', rest)
  | 'n' :: rest => some ('\n', rest)
  | 'r' :: rest => some ('\r', rest)
  | 't' :: rest => some ('\t', rest)
  | 'v' :: rest => some ('\x0b', rest)
  | '\\' :: rest => some ('\\', rest)
  | cs =>
    let ds := (cs.take 3).takeWhile Mode.isOctal
    if ds.isEmpty then none else some (Octet.char (UInt8.ofNat (Mode.octal ds)), cs.drop ds.length)

/-- Letters that stand for something known of a file. -/
def knownLetters : List Char := "abcdDfFgGhHiklmMnpPsStuUyYZ".toList

/-- Reads a format. The first argument bounds the steps. -/
def formatParts : Nat → List Char → Work (List FormatPart)
  | 0, _ | _, [] => return []
  | _, '\\' :: 'c' :: _ => return [.finish]
  | steps + 1, '\\' :: rest => do
    match escaped? rest with
    | some (c, rest) => return .text (String.singleton c) :: (← formatParts steps rest)
    | none =>
      match rest with
      | [] =>
        warn "warning: escape \x60\\' followed by nothing at all"
        return [.text "\\"]
      | c :: rest =>
        warn ("warning: unrecognized escape \x60\\" ++ String.singleton c ++ "'")
        return .text ("\\" ++ String.singleton c) :: (← formatParts steps rest)
  | steps + 1, '%' :: rest => do
    let flags := rest.takeWhile "-+ #0".toList.contains
    let behind := rest.drop flags.length
    let width := behind.takeWhile Char.isDigit
    let behind := behind.drop width.length
    let (most, behind) : Option (List Char) × List Char := match behind with
      | '.' :: behind =>
        let ds := behind.takeWhile Char.isDigit
        (some ds, behind.drop ds.length)
      | behind => (none, behind)
    let number (ds : List Char) : Nat := ds.foldl (fun n c => 10 * n + (c.toNat - 48)) 0
    match behind with
    | [] => fail "error: % at end of format string"
    | '%' :: behind => return .text "%" :: (← formatParts steps behind)
    | c :: behind =>
      if knownLetters.contains c then
        return .known c (flags.contains '-') (flags.contains '0') (flags.contains '#') (number width)
          (most.map number) :: (← formatParts steps behind)
      else if "ABCT".toList.contains c ∧ !behind.isEmpty then
        return .text "" :: (← formatParts steps behind.tail)
      else
        warn ("warning: unrecognized format directive \x60%" ++ String.singleton c ++ "'")
        return .text ("%" ++ String.singleton c) :: (← formatParts steps behind)
  | steps + 1, c :: rest => return .text (String.singleton c) :: (← formatParts steps rest)

/-! ### Commands -/

/-- Whether a text has the mark in it that a path takes the place of. -/
def holdsMark (s : String) : Bool := (s.splitOn "\x7b\x7d").length ≠ 1

/-- Splits arguments at the end of a command: its words, whether many files are given at once, and
the rest. The rest alone is what is left if there is no end. -/
def commandWords (mayGather : Bool) : (before : Option String) → List String →
    List String × Bool × Option (List String)
  | _, [] => ([], false, none)
  | before, word :: rest =>
    if word = ";" then ([], false, some rest)
    else if mayGather ∧ word = "+" ∧ before.any holdsMark then ([], true, some rest)
    else
      let (words, gathers, left) := commandWords mayGather (some word) rest
      (word :: words, gathers, left)

def callTest (word : String) (d : Draft) (args : List String) : Work (Draft × List String) := do
  let asks := word = "-ok" || word = "-okdir"
  let inside := word = "-execdir" || word = "-okdir"
  let (words, gathers, left) := commandWords (!asks) none args
  match left with
  | none => fail ("missing argument to \x60" ++ word ++ "'")
  | some rest =>
    if words.isEmpty then fail ("invalid argument \x60;' to \x60" ++ word ++ "'")
    if gathers then
      let among := words.filter holdsMark
      if among.length > 1 then
        fail ("Only one instance of \x7b\x7d is supported with " ++ word ++ " ... +")
      if let some other := among.find? (· ≠ "\x7b\x7d") then
        fail ("In " ++ (← quoted (word ++ " ... \x7b\x7d +")) ++ " the " ++ (← quoted "\x7b\x7d") ++
          " must appear by itself, but you specified " ++ (← quoted other))
      return ({ d with gathers := d.gathers + 1 }.test (.gather d.gathers { words := words.dropLast, inside }), rest)
    else
      return (d.test (.call { words, inside, asks }), rest)

/-! ### Words -/

/-- Conditions without arguments. -/
def plainWords : List (String × Primary) :=
  [("-true", .always true), ("-false", .always false), ("-empty", .empty), ("-print", .print none "\n"),
    ("-print0", .print none "\x00"), ("-ls", .list none), ("-prune", .prune), ("-quit", .quit),
    ("-readable", .permitted .read), ("-writable", .permitted .write),
    ("-executable", .permitted .execute), ("-nouser", .nameless), ("-nogroup", .nameless)]

/-- Operators. -/
def operatorWords : List (String × Mark) :=
  [("!", .negation "!"), ("-not", .negation "-not"), ("-a", .joint .and "-a"), ("-and", .joint .and "-and"),
    ("-o", .joint .or "-o"), ("-or", .joint .or "-or"), (",", .joint .comma ","), ("(", .opening),
    (")", .closing)]

/-- Options that change nothing here. -/
def idleWords : List String :=
  ["-daystart", "-ignore_readdir_race", "-noignore_readdir_race", "-mount", "-noleaf", "-nowarn", "-warn", "-xdev"]

/-- The arguments of words that compare a number. -/
def amountWords : List (String × (Amount → Primary)) :=
  let minutes (a : Amount) : Primary := .age { a with number := a.number }
  [("-links", .links), ("-uid", .owner), ("-gid", .group), ("-inum", fun _ => .always false), ("-mtime", .age),
    ("-atime", .age), ("-ctime", .age), ("-used", .age), ("-mmin", minutes), ("-amin", minutes),
    ("-cmin", minutes)]

/-- The depth that an option gives. -/
def depthOf (word text : String) : Work Nat := do
  if text ≠ "" ∧ text.all Char.isDigit then return text.toNat?.getD 0
  fail ("Expected a positive decimal integer argument to " ++ word ++ ", but got " ++ (← quoted text))

/-- Reads a word that has an argument. -/
def valuedWord (d : Draft) (word text : String) : Work (Option Draft) := do
  let test (p : Primary) : Work (Option Draft) := return some (d.test p)
  match amountWords.lookup word with
  | some p =>
    match Amount.ofString? text with
    | some a => test (p a)
    | none => fail ("invalid argument \x60" ++ text ++ "' to \x60" ++ word ++ "'")
  | none =>
    match word with
    | "-name" => test (.name false text)
    | "-iname" => test (.name true text)
    | "-path" | "-wholename" => test (.path false text)
    | "-ipath" | "-iwholename" => test (.path true text)
    | "-lname" => test (.target false text)
    | "-ilname" => test (.target true text)
    | "-regex" => test (← regexTest d.regexKind false text)
    | "-iregex" => test (← regexTest d.regexKind true text)
    | "-type" => test (.kind false (← kindLetters word text.toList []))
    | "-xtype" => test (.kind true (← kindLetters word text.toList []))
    | "-size" => test (← sizeTest text)
    | "-perm" => test (← modeTest text)
    | "-user" => test (← ownerTest word false text)
    | "-group" => test (← ownerTest word true text)
    | "-samefile" => test (.same (← reference text (d.options.follows ≠ .never)))
    | "-newer" | "-anewer" | "-cnewer" =>
      discard (reference text (d.options.follows ≠ .never))
      test (.always false)
    | "-fstype" => test (.always false)
    | "-fprint" => test (.print (← target text) "\n")
    | "-fprint0" => test (.print (← target text) "\x00")
    | "-fls" => test (.list (← target text))
    | "-printf" => test (.format none (← formatParts (text.length + 1) text.toList))
    | "-maxdepth" =>
      let n ← depthOf word text
      return some { d with options := { d.options with most := some n } }
    | "-mindepth" =>
      let n ← depthOf word text
      return some { d with options := { d.options with least := n } }
    | "-regextype" =>
      let k ← regexKindNamed text
      return some { d with regexKind := k }
    | _ => return none

/-- Whether a word is one that needs an argument. -/
def needsValue (word : String) : Bool :=
  (amountWords.lookup word).isSome ||
    ["-name", "-iname", "-path", "-wholename", "-ipath", "-iwholename", "-lname", "-ilname", "-regex",
      "-iregex", "-type", "-xtype", "-size", "-perm", "-user", "-group", "-samefile", "-newer",
      "-anewer", "-cnewer", "-fstype", "-fprint", "-fprint0", "-fls", "-printf", "-fprintf", "-maxdepth",
      "-mindepth", "-regextype", "-exec", "-execdir", "-ok", "-okdir"].contains word

/-- Whether a text names a time. -/
def isTimeText (s : String) : Bool := s ≠ "" && s.all fun c => c.isDigit || "-:. TZ+".toList.contains c

/-- Reads a word behind which something else than one argument stands. -/
def otherWord (d : Draft) (word : String) (rest : List String) : Work (Draft × List String) := do
  match word, rest with
  | "-depth", rest | "-d", rest =>
    return ({ d with options := { d.options with inner := true, innerAsked := true } }, rest)
  | "-follow", rest => return ({ d with options := { d.options with follows := .always } }.test (.always true), rest)
  | "-delete", rest => return ({ d with options := { d.options with inner := true } }.test .delete, rest)
  | "-fprintf", file :: text :: rest =>
    let file ← target file
    return (d.test (.format file (← formatParts (text.length + 1) text.toList)), rest)
  | "-fprintf", _ => fail "missing argument to \x60-fprintf'"
  | word, rest =>
    match word.toList.drop 6, rest with
    | [x, y], rest =>
      if !word.startsWith "-newer" then fail ("unknown predicate \x60" ++ word ++ "'")
      if !"aBcm".toList.contains x ∨ !"aBcmt".toList.contains y then
        fail ("invalid predicate \x60" ++ word ++ "'")
      match rest with
      | [] => fail ("missing argument to \x60" ++ word ++ "'")
      | text :: rest =>
        if y = 't' then
          if !isTimeText text then
            fail ("I cannot figure out how to interpret " ++ (← quoted text) ++ " as a date or time")
          return (d.test (.always true), rest)
        else
          discard (reference text (d.options.follows ≠ .never))
          return (d.test (.always false), rest)
    | _, _ => fail ("unknown predicate \x60" ++ word ++ "'")

/-- Reads arguments as marks. The first argument bounds the steps. -/
def marksOf : Nat → Draft → (before : Option String) → List String → Work Draft
  | 0, d, _, _ | _, d, _, [] => return d
  | steps + 1, d, before, word :: rest => do
    if !beginsCondition false word then
      warn ("paths must precede expression: \x60" ++ word ++ "'")
      let (tree, here) ← place
      if (tree.look here word).isOk then
        if let some before := before then
          warn ("possible unquoted pattern after predicate \x60" ++ before ++ "'?")
      leave 1
    match operatorWords.lookup word, plainWords.lookup word with
    | some m, _ => marksOf steps (d.add m) (some word) rest
    | none, some p => marksOf steps (d.test p) (some word) rest
    | none, none =>
      if idleWords.contains word then marksOf steps d (some word) rest
      else if ["-help", "--help", "-version", "--version"].contains word then leave 0
      else if ["-exec", "-execdir", "-ok", "-okdir"].contains word then
        let (d, rest) ← callTest word d rest
        marksOf steps d (some word) rest
      else
        match if needsValue word ∧ word ≠ "-fprintf" then some rest else none with
        | some [] => fail ("missing argument to \x60" ++ word ++ "'")
        | some (text :: rest) =>
          match ← valuedWord d word text with
          | some d => marksOf steps d (some word) rest
          | none => fail ("unknown predicate \x60" ++ word ++ "'")
        | none =>
          let (d, rest) ← otherWord d word rest
          marksOf steps d (some word) rest

end ScriptSearch.Host.Finder
