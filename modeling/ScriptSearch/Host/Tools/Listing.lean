import ScriptSearch.Host.Account
import ScriptSearch.Host.FileTree.Change
import ScriptSearch.Host.Mode
import ScriptSearch.Host.Shell.Pattern
import ScriptSearch.Host.Tools.Lines
import ScriptSearch.Host.Tools.Names
import ScriptSearch.Host.Tools.Work
import ScriptSearch.Host.Version

/-! Tools that list directories and what is known of files. -/

namespace ScriptSearch.Host.Tools

open Work

/-! ### What is known of a file -/

/-- What is known of a file. -/
structure Known where
  name : String
  location : Location
  entry : Entry
  mode : Nat
  size : Nat
  links : Nat
  /-- Whether it belongs to the one who runs all processes. -/
  own : Bool
  /-- Whether it leads to a directory. -/
  toDirectory : Bool

namespace Known

/-- How large a directory is. -/
def directorySize : Nat := 4096

def ofEntry (tree : FileTree) (name : String) (location : Location) (e : Entry) : Known where
  name := name
  location := location
  entry := e
  mode := tree.modeOf location e
  size := match e with
    | .file n => Octet.size (tree.node n).text
    | .directory _ => directorySize
    | .link target => Octet.size target
    | _ => 0
  links := tree.linkCount location e
  own := FileTree.isOwn location
  toDirectory := match e with
    | .directory _ => true
    | .link target => tree.leadsToDirectory ⟨location.dropLast, 0⟩ target
    | _ => false

/-- What is known of the file at a path. -/
def at? (tree : FileTree) (here : Directory) (follows : Bool) (path : String) : Except OsError Known := do
  if follows then
    let d ← tree.locate here path
    return ofEntry tree path d.location (← tree.entry d)
  else
    let (location, e) ← tree.look here path
    return ofEntry tree path location e

/-- The letter of a file's kind. -/
def letter (k : Known) : Char :=
  match k.entry with
  | .directory _ => 'd'
  | .link _ | .descriptor _ => 'l'
  | .null | .zeros | .full | .sealed => 'c'
  | _ => '-'

def isDirectory (k : Known) : Bool := k.letter == 'd'

/-- The number that stands for a file's kind in a mode. -/
def kindBits (k : Known) : Nat :=
  match k.letter with
  | 'd' => 0o040000
  | 'l' => 0o120000
  | 'c' => 0o020000
  | _ => 0o100000

/-- The kind of a file in words. -/
def kind (k : Known) : String :=
  match k.letter with
  | 'd' => "directory"
  | 'l' => "symbolic link"
  | 'c' => "character special file"
  | _ => if k.size = 0 then "regular empty file" else "regular file"

def modeText (k : Known) : String := String.singleton k.letter ++ Mode.text k.mode

/-- The number and the name of the one whom a file belongs to. -/
def ownerNumber (k : Known) : String := if k.own then toString Account.current else "0"

def ownerName (k : Known) : String := if k.own then toString Account.current else "root"

end Known

/-! ### Listings -/

/-- How names are listed. -/
structure Listing where
  all : Bool := false
  /-- Whether `.` and `..` are listed too. -/
  dots : Bool := false
  long : Bool := false
  follows : Bool := false
  followsOperands : Bool := true
  indicator : String := ""
  /-- The order: letters of options. -/
  order : String := ""
  reversed : Bool := false
  grouped : Bool := false
  recursive : Bool := false
  /-- Whether directories are listed as such. -/
  asFiles : Bool := false
  layout : String := "1"
  width : Nat := 80
  quotes : String := "literal"
  ignored : List String := []
  hidden : List String := []
  numeric : Bool := false
  owner : Bool := true
  group : Bool := true
  stop : Char := '\n'

/-- A name as a listing shows it. -/
def Listing.shownName (l : Listing) (wide : Bool) (name : String) : String :=
  match l.quotes with
  | "c" => "\"" ++ escapedName wide true name ++ "\""
  | "escape" => escapedName wide false name
  | "q" =>
    String.ofList ((Octet.units wide name).map fun c => if Letters.isPrintable wide c then c else '?')
  | "shell" => Quoted.shell wide name
  | "shell-always" => Quoted.quoted wide name
  | _ => name
where
  escapedName (wide quotes : Bool) (name : String) : String :=
    String.ofList ((Octet.units wide name).flatMap fun c =>
      if c = '\\' ∨ (quotes ∧ c = '"') ∨ (!quotes ∧ c = ' ') then ['\\', c]
      else if Letters.isPrintable wide c then [c]
      else Quoted.escaped c)

/-- The mark behind a name that says of which kind it is. -/
def Listing.mark (l : Listing) (k : Known) : String :=
  if l.indicator = "" then ""
  else
    match k.letter with
    | 'd' => "/"
    | 'l' => if l.indicator = "slash" then "" else "@"
    | '-' => if l.indicator = "classify" ∧ k.mode &&& 0o111 ≠ 0 then "*" else ""
    | _ => ""

/-- The ending of a name behind its last point. -/
def endingOf (name : String) : List UInt8 :=
  let bs := Octet.bytes name
  let ending := bs.reverse.takeWhile (· ≠ 46)
  if ending.length < bs.length then ending.reverse else []

/-- The order of two files. -/
def Listing.compare (l : Listing) (a b : Known) : Ordering :=
  let byName := Ord.compare (Octet.bytes a.name) (Octet.bytes b.name)
  let o := match l.order with
    | "S" => (Ord.compare b.size a.size).then byName
    | "X" => (Ord.compare (endingOf a.name) (endingOf b.name)).then byName
    | "v" => (Version.compareNames (Octet.bytes a.name) (Octet.bytes b.name)).then byName
    | "U" => .eq
    | "width" => (Ord.compare a.name.length b.name.length).then byName
    | _ => byName
  let o := if l.reversed then o.swap else o
  if l.grouped then (Ord.compare b.toDirectory a.toDirectory).then o else o

def Listing.sorted (l : Listing) (ks : List Known) : List Known :=
  ks.mergeSort fun a b => l.compare a b ≠ .gt

/-- Blanks and tabs from one column to another. The first argument bounds the steps. -/
def indent : Nat → (column target : Nat) → List Char
  | 0, _, _ => []
  | steps + 1, column, target =>
    if target ≤ column then []
    else if (column + 1) / 8 < target / 8 then '\t' :: indent steps (column + (8 - column % 8)) target
    else ' ' :: indent steps (column + 1) target

/-- The widths of so many columns for names, if they fit a line. -/
def columnWidths? (width : Nat) (down : Bool) (names : List Nat) (columns : Nat) : Option (List Nat) :=
  let rows := (names.length + columns - 1) / columns
  let start := List.replicate columns 3
  let widths := names.zipIdx.foldl
    (fun ws (size, i) =>
      let column := if down then i / rows else i % columns
      let real := size + if column + 1 = columns then 0 else 2
      ws.modify column (max real)) start
  if widths.foldl (· + ·) 0 < width then some widths else none

/-- Names in columns. -/
def inColumns (width : Nat) (down : Bool) (names : List String) : String :=
  let sizes := names.map String.length
  let most := min names.length (width / 3 + if width % 3 = 0 then 0 else 1)
  let found := ((List.range most).reverse.map (· + 1)).findSome? fun columns =>
    if columns < 2 then none else columnWidths? width down sizes columns
  let widths := found.getD [0]
  let columns := widths.length
  let rows := (names.length + columns - 1) / columns
  let line (cells : List String) : String :=
    let (text, _, _) := cells.zipIdx.foldl
      (fun ((text, column, place) : String × Nat × Nat) (cell, i) =>
        let text := text ++ String.ofList (indent width column place) ++ cell
        (text, place + cell.length, place + widths.getD i 0)) ("", 0, 0)
    text ++ "\n"
  String.join ((List.range rows).map fun row =>
    line ((List.range columns).filterMap fun column =>
      names[if down then column * rows + row else row * columns + column]?))

/-- Names with commas between them. -/
def withCommas (width : Nat) (names : List String) : String :=
  match names with
  | [] => ""
  | first :: rest =>
    let (text, _) := rest.foldl
      (fun ((text, column) : String × Nat) name =>
        if width = 0 ∨ column + name.length + 2 < width then (text ++ ", " ++ name, column + name.length + 2)
        else (text ++ ",\n" ++ name, name.length)) (first, first.length)
    text ++ "\n"

/-- The lines of a long listing. -/
def Listing.longLines (l : Listing) (wide : Bool) (tree : FileTree) (ks : List Known) : List String :=
  let width (column : Known → String) : Nat := (ks.map fun k => (column k).length).foldl max 0
  let right (column : Known → String) (k : Known) : String :=
    "".pushn ' ' (width column - (column k).length) ++ column k
  let left (column : Known → String) (k : Known) : String :=
    column k ++ "".pushn ' ' (width column - (column k).length)
  let owner (k : Known) : String := if l.numeric then k.ownerNumber else k.ownerName
  ks.map fun k =>
    let target := match k.entry with
      | .link target =>
        " -> " ++ l.shownName wide target ++
          match Known.at? tree ⟨k.location.dropLast, 0⟩ true target with
          | .ok t => l.mark t
          | .error _ => ""
      | _ => ""
    let mark := if target = "" then l.mark k else ""
    k.modeText ++ " " ++ right (fun k => toString k.links) k ++ " " ++
      (if l.owner then left owner k ++ " " else "") ++ (if l.group then left owner k ++ " " else "") ++
      right (fun k => toString k.size) k ++ " Jan  1 00:00 " ++ l.shownName wide k.name ++ mark ++ target

/-- Writes files in order. -/
def Listing.write (l : Listing) (ks : List Known) : Work Unit := do
  let wide ← isWide
  let (tree, _) ← place
  if l.long then say (ofLines l.stop (l.longLines wide tree ks))
  else
    let names := ks.map fun k => l.shownName wide k.name ++ l.mark k
    match l.layout with
    | "C" => if !names.isEmpty then say (inColumns l.width true names)
    | "x" => if !names.isEmpty then say (inColumns l.width false names)
    | "m" => say (withCommas l.width names)
    | _ => say (ofLines l.stop names)

/-- Whether a name matches a pattern. -/
def matchesName (wide foldCase : Bool) (pattern name : String) : Bool :=
  (Shell.Pattern.ofGlyphs { wide, foldCase } (Shell.glyphs false pattern)).accepts name

/-- Lists a directory, and those in it if that is asked for. The first argument bounds the depth. -/
def Listing.directory (l : Listing) : Nat → (headed first top : Bool) → (shown : String) → Location → Work Bool
  | 0, _, first, _, _, _ => return first
  | depth + 1, headed, first, top, shown, location => do
    let (tree, _) ← place
    if !tree.permitsAt .read location then
      let status := (← get).status
      fault ("cannot open directory " ++ (← always shown) ++ ": " ++ OsError.accessDenied.message)
        (if top then 2 else max 1 status)
      return first
    let wide ← isWide
    if headed then say ((if first then "" else "\n") ++ l.shownName wide shown ++ ":\n")
    let hides (name : String) : Bool :=
      (!l.all && name.startsWith ".") || l.ignored.any (matchesName wide false · name) ||
        (!l.all && l.hidden.any (matchesName wide false · name))
    let names := (tree.children location).filter (!hides ·)
    let known := names.filterMap fun name => (tree.get? (location ++ [name])).map fun e =>
      match if l.follows then (Known.at? tree ⟨location, 0⟩ true name).toOption else none with
      | some k => { k with name }
      | none => Known.ofEntry tree name (location ++ [name]) e
    let dots := if l.dots then
        [Known.ofEntry tree "." location (.directory ((tree.get? location).elim 0o755 fun e => tree.modeOf location e)),
          Known.ofEntry tree ".." location.dropLast (.directory 0o755)]
      else []
    let ks := l.sorted (dots ++ known)
    if l.long then say ("total " ++ toString (4 * (ks.filter fun k => k.size ≠ 0 && k.letter ≠ 'l').length) ++ "\n")
    l.write ks
    if l.recursive then
      for k in ks do
        if k.isDirectory ∧ k.name ≠ "." ∧ k.name ≠ ".." ∧ (tree.get? (location ++ [k.name])) matches some (.directory _) then
          let path := if shown.endsWith "/" then shown ++ k.name else shown ++ "/" ++ k.name
          discard (l.directory depth true false false path (location ++ [k.name]))
    return false

def listingRules : List OptionRule :=
  flags "cfgklnopqrtuxCGHNSUX1hsiZ" ++
    [flag "a" "all", flag "A" "almost-all", flag "" "author", flag "b" "escape", valued "" "block-size",
      flag "B" "ignore-backups", perhaps "" "color", flag "d" "directory", flag "D" "dired",
      perhaps "F" "classify", flag "" "file-type", valued "" "format", flag "" "full-time",
      flag "" "group-directories-first", flag "G" "no-group", flag "h" "human-readable", flag "" "si",
      flag "H" "dereference-command-line", flag "" "dereference-command-line-symlink-to-dir",
      valued "" "hide", perhaps "" "hyperlink", valued "" "indicator-style", flag "i" "inode",
      valued "I" "ignore", flag "k" "kibibytes", flag "L" "dereference", flag "m", flag "n" "numeric-uid-gid",
      flag "N" "literal", flag "q" "hide-control-chars", flag "" "show-control-chars", flag "Q" "quote-name",
      valued "" "quoting-style", flag "r" "reverse", flag "R" "recursive", flag "s" "size", valued "" "sort",
      valued "" "time", valued "" "time-style", valued "T" "tabsize", flag "v", valued "w" "width",
      flag "" "zero", flag "Z" "context"]

/-- Refuses a value that an option does not know. -/
def refuseValue (option value : String) (known : List String) (status : UInt8) : Work Unit := do
  if !known.contains value then
    warn ("invalid argument " ++ (← quoted value) ++ " for " ++ (← quoted option))
    let p ← process
    let shown ← known.mapM quoted
    p.err ("Valid arguments are:\n" ++ String.join (shown.map fun v => "  - " ++ v ++ "\n") ++
      "Try '" ++ p.name ++ " --help' for more information.\n")
    leave status

/-- Lists files and directories. -/
def listFiles (layout : String) (quotes : String) : Work Unit := do
  modify fun g => { g with lostStatus := 2 }
  let g ← options { rules := listingRules } 2
  let value (name : String) : String := (g.last? name).getD ""
  let sorts := ["none", "time", "size", "extension", "version", "width"]
  if g.has "sort" then refuseValue "--sort" (value "sort") sorts 1
  let format := match g.lastOf ["l", "g", "n", "o", "C", "x", "m", "1", "format", "full-time"] with
    | none => layout
    | some "format" =>
      (([("long", "l"), ("verbose", "l"), ("commas", "m"), ("horizontal", "x"), ("across", "x"),
        ("vertical", "C"), ("single-column", "1")] : List (String × String)).lookup (value "format")).getD "1"
    | some "1" => if g.hasAny ["l", "g", "n", "o"] then "l" else "1"
    | some f => if ["C", "x", "m"].contains f then f else "l"
  let order := match g.lastOf ["S", "X", "v", "U", "t", "f", "sort"] with
    | some "sort" =>
      (([("size", "S"), ("extension", "X"), ("version", "v"), ("none", "U"), ("width", "width")] :
        List (String × String)).lookup (value "sort")).getD ""
    | some "f" => "U"
    | some o => o
    | none => ""
  let indicator := match g.lastOf ["F", "p", "file-type", "indicator-style"] with
    | some "F" => if ["", "always", "yes", "force"].contains (value "F") then "classify" else ""
    | some "p" => "slash"
    | some "file-type" => "file-type"
    | some _ => if value "indicator-style" = "none" then "" else value "indicator-style"
    | none => ""
  let quotes := match g.lastOf ["b", "Q", "N", "q", "quoting-style"] with
    | some "b" => "escape"
    | some "Q" => "c"
    | some "N" => "literal"
    | some "q" => "q"
    | some _ => value "quoting-style"
    | none => quotes
  let p ← process
  let columns := ((settingOf? p.environment "COLUMNS").bind String.toNat?).getD 80
  let width := if g.has "w" then ((value "w").toNat?).getD 80 else columns
  let l : Listing :=
    { all := g.hasAny ["a", "A", "f"], dots := g.hasAny ["a", "f"] && g.lastOf ["a", "A"] ≠ some "A"
      long := format = "l", follows := g.has "L"
      followsOperands := g.hasAny ["L", "H"] || !(format = "l" || indicator = "classify" || g.has "d")
      indicator, order, reversed := g.has "r", grouped := g.has "group-directories-first"
      recursive := g.has "R", asFiles := g.has "d", layout := format
      width := if width = 0 then 1000000 else width, quotes, ignored := g.all "I" ++ (if g.has "B" then ["*~"] else [])
      hidden := g.all "hide", numeric := g.has "n", owner := !g.has "g", group := !g.hasAny ["o", "G"]
      stop := lineStop (g.has "zero") }
  let (tree, here) ← place
  let names := if g.operands.isEmpty then ["."] else g.operands
  let mut known : List Known := []
  for name in names do
    let plain := Known.at? tree here false name
    let followed := Known.at? tree here true name
    let isLinked (k : Known) : Bool := k.letter == 'l'
    let found : Except OsError Known := match plain, followed with
      | .ok k, .ok t =>
        .ok (if isLinked k ∧ (l.follows ∨ (g.has "H" ∧ !l.asFiles) ∨ (l.followsOperands ∧ t.isDirectory)) then t else k)
      | .ok k, .error e => if l.follows then .error e else .ok k
      | .error e, _ => .error e
    match found with
    | .error e => fault ("cannot access " ++ (← always name) ++ ": " ++ e.message) 2
    | .ok k => known := known ++ [{ k with name }]
  let isListed (k : Known) : Bool := k.isDirectory && !l.asFiles
  let files := l.sorted (known.filter (!isListed ·))
  let directories := l.sorted (known.filter isListed)
  l.write files
  let headed := l.recursive || 1 < names.length
  let mut first := files.isEmpty
  for k in directories do
    first ← l.directory 1000 headed first true k.name k.location

/-! ### Single files -/

/-- What a letter of a format stands for. -/
def Known.part? (k : Known) (shown : String) (c : Char) : Option String :=
  match c with
  | 'a' => some (String.ofList (Nat.toDigits 8 k.mode))
  | 'A' => some k.modeText
  | 'b' => some (if k.size = 0 then "0" else "8")
  | 'B' => some "512"
  | 'f' => some (String.ofList (Nat.toDigits 16 (k.kindBits + k.mode)))
  | 'F' => some k.kind
  | 'h' => some (toString k.links)
  | 'n' => some k.name
  | 'N' => some shown
  | 's' => some (toString k.size)
  | 'u' | 'g' => some k.ownerNumber
  | 'U' | 'G' => some (if k.own then "UNKNOWN" else "root")
  | 't' | 'T' | 'W' => some "0"
  | 'X' | 'Y' | 'Z' => some "0"
  | 'w' => some "-"
  | 'x' | 'y' | 'z' => some "1970-01-01 00:00:00.000000000 +0000"
  | 'i' => some "1"
  | 'd' | 'D' | 'o' | 'm' => some (if c = 'o' then "4096" else "1")
  | '%' => some "%"
  | _ => none

/-- A file as a format asks for it; escapes are resolved if that is wanted. The first argument bounds
the steps. -/
def Known.format (k : Known) (shown : String) (escapes : Bool) : Nat → List Char → String
  | 0, _ | _, [] => ""
  | steps + 1, '%' :: rest =>
    let flags := rest.takeWhile "-+ #0'".toList.contains
    let behind := rest.drop flags.length
    let (ds, behind) := digitsOf behind
    match behind with
    | c :: behind =>
      match k.part? shown c with
      | some text =>
        let space := natOf ds - text.length
        let numeric := text.toList.all Char.isDigit
        let text :=
          if flags.contains '-' then text ++ "".pushn ' ' space
          else "".pushn (if flags.contains '0' ∧ numeric then '0' else ' ') space ++ text
        text ++ k.format shown escapes steps behind
      | none => "?" ++ k.format shown escapes steps behind
    | [] => "%"
  | steps + 1, '\\' :: c :: rest =>
    if escapes then
      let table : List (Char × Char) :=
        [('a', '\x07'), ('b', '\x08'), ('f', '\x0c'), ('n', '\n'), ('r', '\r'), ('t', '\t'), ('v', '\x0b'),
          ('\\', '\\'), ('"', '"'), ('0', '\x00')]
      String.singleton ((table.lookup c).getD c) ++ k.format shown escapes steps rest
    else "\\" ++ k.format shown escapes steps (c :: rest)
  | steps + 1, c :: rest => String.singleton c ++ k.format shown escapes steps rest

/-- Tells what is known of files. -/
def describeFiles : Work Unit := do
  let g ← options
    { rules := [flag "L" "dereference", flag "f" "file-system", valued "c" "format", valued "" "printf",
        flag "t" "terse", valued "" "cached"] }
  if g.operands.isEmpty then refuse "missing operand"
  let wide ← isWide
  for name in g.operands do
    let (tree, here) ← place
    match Known.at? tree here (g.has "L") name with
    | .error e =>
      fault ((if g.has "f" then "cannot read file system information for " else "cannot statx ") ++
        (← always name) ++ ": " ++ e.message)
    | .ok k =>
      let shown := match k.entry with
        | .link target => Quoted.quoted wide name ++ " -> " ++ Quoted.quoted wide target
        | _ => Quoted.quoted wide name
      match g.lastOf ["c", "printf"] with
      | some "c" =>
        let f := (g.last? "c").getD ""
        say (k.format shown false (f.length + 1) f.toList ++ "\n")
      | some _ =>
        let f := (g.last? "printf").getD ""
        say (k.format shown true (f.length + 1) f.toList)
      | none =>
        let f := "  File: %N\n  Size: %-10s\tBlocks: %-10b IO Block: %-6o %F\nAccess: (%04a/%10A)  Uid: (%5u/%8U)   Gid: (%5g/%8G)\n"
        say (k.format shown false (f.length + 1) f.toList)

end ScriptSearch.Host.Tools
