import ScriptSearch.Host.Numeral
import ScriptSearch.Host.Regex
import ScriptSearch.Host.Tools.Lines
import ScriptSearch.Host.Tools.Work

/-! Tools that count or number what is in files, and that lay out lines in columns. -/

namespace ScriptSearch.Host.Tools

open Work

/-! ### Counting -/

/-- What is counted in a text. -/
structure Counts where
  lines : Nat := 0
  words : Nat := 0
  characters : Nat := 0
  bytes : Nat := 0
  /-- The width of the widest line. -/
  widest : Nat := 0

namespace Counts

def add (a b : Counts) : Counts where
  lines := a.lines + b.lines
  words := a.words + b.words
  characters := a.characters + b.characters
  bytes := a.bytes + b.bytes
  widest := max a.widest b.widest

/-- Where counting stands in a line. -/
structure Standing where
  counts : Counts := {}
  inWord : Bool := false
  column : Nat := 0

/-- Counts a character. -/
def Standing.step (wide : Bool) (s : Standing) (c : Char) : Standing :=
  let n := s.counts
  let real := !Octet.isSingle c || !wide
  let n := { n with
    bytes := n.bytes + (Octet.ofChar c).length
    characters := n.characters + if real then 1 else 0 }
  if c = '\n' ∨ c = '\r' ∨ c = '\x0c' then
    { counts := { n with
        lines := n.lines + if c = '\n' then 1 else 0
        widest := max n.widest s.column }
      inWord := false, column := 0 }
  else if c = '\t' then { counts := n, inWord := false, column := s.column + (8 - s.column % 8) }
  else if c = '\x0b' then { s with counts := n, inWord := false }
  else if Letters.isOfClass wide c "space" then { counts := n, inWord := false, column := s.column + 1 }
  else if Letters.isPrintable wide c then
    { counts := { n with words := n.words + if s.inWord then 0 else 1 }
      inWord := true, column := s.column + 1 }
  else { s with counts := n }

/-- The counts of a text. -/
def ofText (wide : Bool) (text : String) : Counts :=
  let s := (Octet.units wide text).foldl (Standing.step wide) {}
  { s.counts with widest := max s.counts.widest s.column }

/-- The counts that options ask for, in order. -/
def chosen (n : Counts) (g : Given) : List Nat :=
  let all := [("l", n.lines), ("w", n.words), ("m", n.characters), ("c", n.bytes), ("L", n.widest)]
  let wanted := if g.hasAny ["l", "w", "m", "c", "L"] then fun (o : String × Nat) => g.has o.1
    else fun o => ["l", "w", "c"].contains o.1
  (all.filter wanted).map (·.2)

end Counts

/-- How wide counts are written: as wide as the size of all files together, and no less than seven
if one of them is no file. -/
def countWidth (names : List String) (kinds : Nat) : Work Nat := do
  if names.length = 1 ∧ kinds = 1 then return 1
  let p ← process
  let m ← machine
  let size? (name : String) : Option (Option Nat) :=
    if name = "-" then
      match p.openFile? m 0 with
      | some f => some (some (Octet.size (m.tree.node f.node).text))
      | none => if (p.channel? 0).isSome then some none else none
    else
      match m.tree.find p.here name with
      | .ok (.file n) => some (some (Octet.size (m.tree.node n).text))
      | .ok (.record _) | .ok (.tool _) => some (some 0)
      | .ok _ => some none
      | .error _ => none
  let sizes := names.filterMap size?
  let total := (sizes.map (·.getD 0)).foldl (· + ·) 0
  let least := if sizes.any Option.isNone then 7 else 1
  return max least (toString total).length

/-- Counts lines, words and bytes. -/
def wordCounts : Work Unit := do
  let g ← options
    { rules := [flag "c" "bytes", flag "m" "chars", flag "l" "lines", flag "w" "words",
        flag "L" "max-line-length", valued "" "files0-from", valued "" "total"] }
  let wide ← isWide
  let names := inputs g
  let width ← countWidth names (Counts.chosen {} g).length
  let row (n : Counts) (name : String) : String :=
    String.intercalate " " ((n.chosen g).map fun k => "".pushn ' ' (width - (toString k).length) ++ toString k) ++
      (if name = "" then "" else " " ++ name) ++ "\n"
  let mut total : Counts := {}
  for name in names do
    let shown ← if g.operands.isEmpty then pure "" else bare name
    match ← contents name with
    | .ok text =>
      let n := Counts.ofText wide text
      say (row n shown)
      total := total.add n
    | .error e =>
      fault (← about name e)
      if e = .isDirectory then say (row {} shown)
  if 1 < names.length then say (row total "total")

/-! ### Numbering -/

/-- Which lines get a number. -/
inductive Numbered
  | all | filled | none
  | matching (rule : RegexRule) (r : Regex)

/-- How lines are numbered. -/
structure Numbering where
  styles : Numbered × Numbered × Numbered := (.none, .filled, .none)
  delimiter : String := "\\:"
  first : Int := 1
  step : Int := 1
  /-- How many blank lines count as one. -/
  blanks : Nat := 1
  separator : String := "\t"
  width : Nat := 6
  left : Bool := false
  zeros : Bool := false
  restarts : Bool := true

/-- The style that an argument means. -/
def Numbered.ofText (what : String) (text : String) : Work Numbered := do
  match text.toList with
  | ['a'] => return .all
  | ['t'] => return .filled
  | ['n'] => return .none
  | 'p' :: cs =>
    let rule : RegexRule := { wide := ← isWide }
    match Regex.read rule (String.ofList cs) with
    | .ok (r, _) => return .matching rule r
    | .error f => fail f.message
  | _ => refuse ("invalid " ++ what ++ " numbering style: " ++ (← quoted text))

/-- Whether a line gets a number, which can depend on how many blank lines came before. -/
def Numbered.takes (n : Numbering) (style : Numbered) (blanks : Nat) (line : String) : Bool :=
  match style with
  | .all => line ≠ "" || n.blanks ≤ blanks + 1
  | .filled => line ≠ ""
  | .none => false
  | .matching rule r => (Regex.find? rule line.toList.toArray r 0).isSome

/-- Where numbering stands. -/
structure NumberedSoFar where
  next : Int
  blanks : Nat := 0
  style : Numbered
  text : List String := []

/-- Numbers a line, or goes on to another part of a page. -/
def Numbering.add (n : Numbering) (s : NumberedSoFar) (line : String) : NumberedSoFar :=
  let (header, body, footer) := n.styles
  let part (style : Numbered) : NumberedSoFar :=
    { s with style, text := "\n" :: s.text, next := if n.restarts then n.first else s.next, blanks := 0 }
  let d := n.delimiter
  if d ≠ "" ∧ line = d ++ d ++ d then part header
  else if d ≠ "" ∧ line = d ++ d then part body
  else if d ≠ "" ∧ line = d then part footer
  else if s.style.takes n s.blanks line then
    let digits := toString s.next
    let space := n.width - digits.length
    let number :=
      if n.zeros ∧ s.next < 0 then "-" ++ "".pushn '0' space ++ toString s.next.natAbs
      else if n.zeros then "".pushn '0' space ++ digits
      else if n.left then digits ++ "".pushn ' ' space
      else "".pushn ' ' space ++ digits
    { s with
      next := s.next + n.step, blanks := 0, text := (number ++ n.separator ++ line ++ "\n") :: s.text }
  else
    let space := "".pushn ' ' (n.width + Octet.size n.separator)
    { s with
      blanks := if line = "" then s.blanks + 1 else 0, text := (space ++ line ++ "\n") :: s.text }

/-- A whole number as the value of an option, or a message about what it is not. -/
def wholeOption (what text : String) (least : Int := -9223372036854775808) : Work Int := do
  match Numeral.decimal? text with
  | some n =>
    if n < least then
      fail ("invalid " ++ what ++ ": " ++ (← quoted text) ++ ": Numerical result out of range")
    return n
  | none => fail ("invalid " ++ what ++ ": " ++ (← quoted text))

/-- Copies files with numbers in front of lines. -/
def numberLines : Work Unit := do
  let g ← options
    { rules := [valued "b" "body-numbering", valued "d" "section-delimiter",
        valued "f" "footer-numbering", valued "h" "header-numbering", valued "i" "line-increment",
        valued "l" "join-blank-lines", valued "n" "number-format", flag "p" "no-renumber",
        valued "s" "number-separator", valued "v" "starting-line-number", valued "w" "number-width"] }
  let style (letter what standard : String) : Work Numbered :=
    Numbered.ofText what ((g.last? letter).getD standard)
  let whole (letter what : String) (standard least : Int) : Work Int :=
    match g.last? letter with
    | some text => wholeOption what text least
    | none => pure standard
  let styles := (← style "h" "header" "n", ← style "b" "body" "t", ← style "f" "footer" "n")
  let delimiter := match (g.last? "d").map String.toList with
    | none => "\\:"
    | some [c] => String.ofList [c, ':']
    | some cs => String.ofList cs
  let first ← whole "v" "starting line number" 1 (-9223372036854775808)
  let step ← whole "i" "line number increment" 1 (-9223372036854775808)
  let blanks ← whole "l" "line number of blank lines" 1 1
  let width ← whole "w" "line number field width" 6 1
  let format := (g.last? "n").getD "rn"
  if !(["ln", "rn", "rz"] : List String).contains format then
    refuse ("invalid line numbering format: " ++ (← quoted format))
  let n : Numbering :=
    { styles, delimiter, first, step, blanks := blanks.toNat, separator := (g.last? "s").getD "\t"
      width := width.toNat, left := format = "ln", zeros := format = "rz", restarts := !g.has "p" }
  let mut s : NumberedSoFar := { next := n.first, style := n.styles.2.1 }
  for name in inputs g do
    if let some text := ← contents? name then
      s := (linesOf '\n' text).foldl n.add s
  say (String.join s.text.reverse)

/-! ### Folding and tabs -/

/-- The column behind a character. -/
def columnAfter (bytes : Bool) (column : Nat) (c : Char) : Nat :=
  if bytes then column + 1
  else if c = '\x08' then column - 1
  else if c = '\r' then 0
  else if c = '\t' then column + (8 - column % 8)
  else column + 1

/-- The column behind characters. -/
def columnsOf (bytes : Bool) (cs : List Char) : Nat := cs.foldl (columnAfter bytes) 0

/-- A line in pieces no wider than a width; pieces can end behind blanks. The first argument bounds
the steps; the piece is in reverse order. -/
def folded (bytes blanks : Bool) (width : Nat) : Nat → (piece : List Char) → List Char → List (List Char)
  | 0, piece, rest => [piece.reverse ++ rest]
  | _, piece, [] => [piece.reverse]
  | steps + 1, piece, c :: rest =>
    if piece.isEmpty ∨ columnAfter bytes (columnsOf bytes piece.reverse) c ≤ width then
      folded bytes blanks width steps (c :: piece) rest
    else
      let tail := piece.takeWhile fun c => c ≠ ' ' && c ≠ '\t'
      if blanks ∧ tail.length < piece.length then
        (piece.drop tail.length).reverse :: folded bytes blanks width steps [] (tail.reverse ++ c :: rest)
      else piece.reverse :: folded bytes blanks width steps [] (c :: rest)

/-- The first argument written in the old way as a number behind a dash, as an option. -/
def withOldNumber (letter : String) (args : List String) : List String :=
  args.flatMap fun arg =>
    match arg.toList with
    | '-' :: d :: cs =>
      if d.isDigit ∧ cs.all Char.isDigit then ["-" ++ letter, String.ofList (d :: cs)] else [arg]
    | _ => [arg]

/-- Copies files with long lines in pieces. -/
def foldLines : Work Unit := do
  let g ← optionsOf { rules := [flag "b" "bytes", flag "s" "spaces", valued "w" "width"] }
    (withOldNumber "w" (← process).args)
  let width ← match g.last? "w" with
    | some text => wholeOption "number of columns" text 1
    | none => pure 80
  for name in inputs g do
    if let some text := ← contents? name then
      for line in fullLines '\n' text do
        let cs := Octet.units false line
        let body := cs.takeWhile (· ≠ '\n')
        let pieces := folded (g.has "b") (g.has "s") width.toNat (2 * body.length + 2) [] body
        let pieces := (pieces.map String.ofList)
        say (Octet.met (String.intercalate "\n" pieces ++ if body.length < cs.length then "\n" else ""))

/-- Where tabs lead: to given columns, and behind them to each column that a size divides. -/
structure TabStops where
  given : List Nat := []
  size : Nat := 8
  /-- Whether the size counts from the last given column. -/
  fromLast : Bool := false
  /-- Whether there are no stops behind the given ones. -/
  ends : Bool := false

/-- The next stop behind a column, if there is one. -/
def TabStops.next (t : TabStops) (column : Nat) : Option Nat :=
  match t.given.find? fun stop => column < stop with
  | some stop => some stop
  | none =>
    if t.ends then none
    else
      let base := if t.fromLast then t.given.getLastD 0 else 0
      some (base + ((column - base) / t.size + 1) * t.size)

/-- The stops that arguments mean. -/
def TabStops.ofTexts (texts : List String) : Work TabStops := do
  let parts := (texts.flatMap fun s => (Text.split ',' s).flatMap (Text.split ' ')).filter (· ≠ "")
  let mut t : TabStops := {}
  for part in parts do
    let (mark, digits) := match part.toList with
      | '/' :: cs => ('/', cs)
      | '+' :: cs => ('+', cs)
      | cs => (' ', cs)
    if digits.isEmpty ∨ !digits.all Char.isDigit then
      fail ("tab size contains invalid character(s): " ++
        (← quoted (String.ofList (digits.dropWhile Char.isDigit))))
    let n := natOf digits
    if mark ≠ ' ' then t := { t with size := n, fromLast := decide (mark = '+') }
    else
      if n = 0 then fail "tab size cannot be 0"
      if n ≤ t.given.getLastD 0 then fail "tab sizes must be ascending"
      t := { t with given := t.given ++ [n] }
  match t.given with
  | [size] => if parts.length = 1 then return { size } else return t
  | [] => return t
  | given => return { t with ends := given.length = parts.length }

/-- A line with blanks for tabs. -/
def expanded (t : TabStops) (initial : Bool) : (column : Nat) → (leading : Bool) → List Char → List Char
  | _, _, [] => []
  | column, leading, c :: rest =>
    if c = '\t' ∧ (leading ∨ !initial) then
      let stop := (t.next column).getD (column + 1)
      List.replicate (stop - column) ' ' ++ expanded t initial stop leading rest
    else
      let column := if c = '\x08' then column - 1 else column + 1
      c :: expanded t initial column (leading && (c == ' ' || c == '\t')) rest

/-- Options for tab stops written in the old way. -/
def withOldStops (args : List String) : List String :=
  args.flatMap fun arg =>
    match arg.toList with
    | '-' :: d :: cs =>
      if d.isDigit ∧ cs.all (fun c => c.isDigit || c = ',') then ["-t", String.ofList (d :: cs)] else [arg]
    | _ => [arg]

/-- Copies files with blanks for tabs. -/
def expandTabs : Work Unit := do
  let g ← optionsOf { rules := [flag "i" "initial", valued "t" "tabs"] } (withOldStops (← process).args)
  let t ← TabStops.ofTexts (g.all "t")
  for name in inputs g do
    if let some text := ← contents? name then
      for line in fullLines '\n' text do
        let cs := Octet.units false line
        say (Octet.join (expanded t (g.has "i") 0 true cs))

/-- Where putting tabs for blanks stands in a line. -/
structure Unexpanding where
  column : Nat := 0
  /-- Blanks that may still become a tab, the last one first. -/
  held : List Char := []
  /-- Whether one of them is a single blank right before a stop. -/
  beforeStop : Bool := false
  afterBlank : Bool := false
  converting : Bool := true

/-- Blanks that were held, as they are written. -/
def Unexpanding.released (s : Unexpanding) : List Char :=
  if s.beforeStop ∧ 1 < s.held.length then '\t' :: s.held.reverse.drop 1 else s.held.reverse

/-- A line with tabs for blanks that lead to a stop. -/
def unexpanded (t : TabStops) (all : Bool) (s : Unexpanding) : List Char → List Char
  | [] => s.released
  | c :: rest =>
    let isBlank := c = ' ' || c = '\t'
    match if s.converting && isBlank then t.next s.column else none with
    | none =>
      s.released ++ c :: unexpanded t all
        { column := if c = '\x08' then s.column - 1 else s.column + 1, afterBlank := isBlank
          converting := s.converting && (all || isBlank) && !isBlank } rest
    | some stop =>
      if c = ' ' ∧ !(s.afterBlank ∧ s.column + 1 = stop) then
        unexpanded t all
          { s with
            column := s.column + 1, held := c :: s.held, afterBlank := true
            beforeStop := s.beforeStop || decide (s.column + 1 = stop) } rest
      else
        let held := if s.beforeStop && !s.held.isEmpty then ['\t'] else []
        held ++ '\t' :: unexpanded t all
          { column := if c = ' ' then s.column + 1 else stop, afterBlank := true } rest

/-- Copies files with tabs for blanks. -/
def unexpandTabs : Work Unit := do
  let g ← optionsOf { rules := [flag "a" "all", flag "" "first-only", valued "t" "tabs"] }
    (withOldStops (← process).args)
  let t ← TabStops.ofTexts (g.all "t")
  let all := g.hasAny ["a", "t"] && !g.has "first-only"
  for name in inputs g do
    if let some text := ← contents? name then
      for line in fullLines '\n' text do
        say (Octet.join (unexpanded t all {} (Octet.units false line)))

end ScriptSearch.Host.Tools
