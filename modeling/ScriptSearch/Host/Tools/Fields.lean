import ScriptSearch.Host.Numeral
import ScriptSearch.Host.Tools.Lines
import ScriptSearch.Host.Tools.Work

/-! Tools that take fields of lines, and that put lines together field by field. -/

namespace ScriptSearch.Host.Tools

open Work

/-! ### Parts of lines -/

/-- A range of places, counted from one. -/
structure Range where
  first : Nat
  last : Option Nat
  deriving DecidableEq, Repr

def Range.has (r : Range) (n : Nat) : Bool := r.first ≤ n && r.last.all (n ≤ ·)

/-- A range that a text means, or what is wrong with it. -/
def Range.ofText (what zero : String) (text : String) : Except (Bool × String) Range :=
  let number (cs : List Char) : Except (Bool × String) Nat :=
    if cs.isEmpty ∨ !cs.all Char.isDigit then .error (true, "invalid " ++ what ++ " ")
    else if countLimit ≤ natOf cs then .error (false, what ++ " number " ++ "'" ++ String.ofList cs ++ "' is too large")
    else if natOf cs = 0 then .error (false, zero)
    else .ok (natOf cs)
  let cs := text.toList
  let before := cs.takeWhile (· ≠ '-')
  match cs.drop before.length with
  | [] => do
    let n ← number before
    .ok ⟨n, some n⟩
  | _ :: behind => do
    if before.isEmpty ∧ behind.isEmpty then .error (false, "invalid range with no endpoint: -")
    if behind.contains '-' then .error (false, "invalid " ++ what ++ " range")
    let first ← if before.isEmpty then pure 1 else number before
    let last ← if behind.isEmpty then pure none else some <$> number behind
    if last.any (· < first) then .error (false, "invalid decreasing range")
    .ok ⟨first, last⟩

/-- Which places are taken. -/
structure Selection where
  ranges : List Range
  complement : Bool

def Selection.has (s : Selection) (n : Nat) : Bool := s.ranges.any (·.has n) != s.complement

/-- Whether a place begins a run of places that are taken. With a text to write between them, each
range begins a run of its own. -/
def Selection.begins (s : Selection) (n : Nat) : Bool :=
  !s.has (n - 1) || n = 1 || (!s.complement && s.ranges.any fun r =>
    r.first = n && !s.ranges.any fun o => o.first < n && o.last.all (n ≤ ·))

/-- The bytes of a line that are taken. -/
def cutBytes (s : Selection) (between : Option String) (line : String) : String :=
  let cs := Octet.units false line
  let taken := cs.zipIdx.filter fun c => s.has (c.2 + 1)
  match between with
  | none => Octet.join (taken.map (·.1))
  | some text =>
    let parts := taken.zipIdx.map fun ((c, i), k) =>
      if k ≠ 0 ∧ s.begins (i + 1) then text ++ String.singleton c else String.singleton c
    Octet.met (String.join parts)

/-- The fields of a line that are taken; a line without the character between them stays whole, or
is left out. -/
def cutFields (s : Selection) (delimiter : Char) (between : Option String) (onlyDelimited : Bool)
    (line : String) : Option String :=
  match Text.split delimiter line with
  | [_] => if onlyDelimited then none else some line
  | parts =>
    let taken := (parts.zipIdx.filter fun c => s.has (c.2 + 1)).map (·.1)
    some (String.intercalate (between.getD (String.singleton delimiter)) taken)

/-- Copies parts of lines. -/
def cutLines : Work Unit := do
  let g ← options
    { rules := [valued "b" "bytes", valued "c" "characters", valued "f" "fields", valued "d" "delimiter",
        flag "n", flag "s" "only-delimited", flag "z" "zero-terminated", flag "" "complement",
        valued "" "output-delimiter"] }
  let kinds := g.options.filter fun o => ["b", "c", "f"].contains o.1
  match kinds with
  | [] => refuse "you must specify a list of bytes, characters, or fields"
  | (kind, list) :: others =>
    if !others.isEmpty then refuse "only one list may be specified"
    let byFields := kind = "f"
    if let some d := g.last? "d" then
      if 1 < Octet.size d then refuse "the delimiter must be a single character"
      if !byFields then refuse "an input delimiter may be specified only when operating on fields"
    if g.has "s" ∧ !byFields then
      refuse "suppressing non-delimited lines makes sense\n\tonly when operating on fields"
    let (what, zero) := if byFields then ("field value", "fields are numbered from 1")
      else ("byte or character position", "byte/character positions are numbered from 1")
    let parts := (Text.split ',' list).flatMap fun s => (Text.split ' ' s).flatMap (Text.split '\t')
    let mut ranges : List Range := []
    for part in parts do
      match Range.ofText what zero part with
      | .ok r => ranges := ranges ++ [r]
      | .error (true, text) => refuse (text ++ (← quoted part))
      | .error (false, text) => refuse text
    let s : Selection := { ranges, complement := g.has "complement" }
    let stop := lineStop (g.has "z")
    let delimiter := match (g.last? "d").map (Octet.units false) with
      | some [c] => c
      | some _ => '\x00'
      | none => '\t'
    let between := g.last? "output-delimiter"
    for name in inputs g do
      if let some text := ← contents? name then
        for line in linesOf stop text do
          let taken := if byFields then cutFields s delimiter between (g.has "s") line
            else some (cutBytes s between line)
          if let some taken := taken then say (taken.push stop)

/-! ### Lines side by side -/

/-- The characters that a list of delimiters means; an empty one is written as a zero. -/
def delimitersOf : List Char → Option (List String)
  | [] => some []
  | '\\' :: rest =>
    match rest with
    | [] => none
    | c :: rest =>
      let d := match c with
        | '0' => ""
        | 'b' => "\x08"
        | 'f' => "\x0c"
        | 'n' => "\n"
        | 'r' => "\r"
        | 't' => "\t"
        | 'v' => "\x0b"
        | c => String.singleton c
      (d :: ·) <$> delimitersOf rest
  | c :: rest => (String.singleton c :: ·) <$> delimitersOf rest

/-- Lines with delimiters between them, which are used in turn. -/
def joinedBy (delimiters : List String) (parts : List String) : String :=
  match parts with
  | [] => ""
  | first :: rest =>
    rest.zipIdx.foldl (fun text (part, i) => text ++ delimiters.getD (i % max 1 delimiters.length) "" ++ part) first

/-- Rows of lines at the same place of several texts. -/
def rowsOf (columns : List (List String)) : List (List String) :=
  let rows := (columns.map List.length).foldl max 0
  (List.range rows).map fun i => columns.map fun column => column.getD i ""

/-- Puts lines of files side by side. -/
def pasteLines : Work Unit := do
  let g ← options { rules := [valued "d" "delimiters", flag "s" "serial", flag "z" "zero-terminated"] }
  let list := (g.last? "d").getD "\t"
  let some delimiters := delimitersOf (Octet.units false list)
    | fail ("delimiter list ends with an unescaped backslash: " ++
        list)
  let delimiters := if delimiters.isEmpty then [""] else delimiters
  let stop := lineStop (g.has "z")
  let names := inputs g
  if g.has "s" then
    for name in names do
      if let some text := ← contents? name then
        say (Octet.met (joinedBy delimiters (linesOf stop text)) |>.push stop)
  else
    -- the standard input under several names gives each of them a line in turn
    let shared := (names.filter (· = "-")).length
    let mut columns : List (List String) := []
    let mut input : Option (List String) := none
    let mut turn : Nat := 0
    for name in names do
      if name = "-" then
        let lines ← match input with
          | some lines => pure lines
          | none => do
            match ← contents "-" with
            | .ok text => pure (linesOf stop text)
            | .error e => fail ("-: " ++ e.message)
        input := some lines
        let k := turn
        columns := columns ++ [(lines.zipIdx.filter fun l => l.2 % shared = k).map (·.1)]
        turn := turn + 1
      else
        match ← contents name with
        | .ok text => columns := columns ++ [linesOf stop text]
        | .error e => fail (← about name e)
    for row in rowsOf columns do say (Octet.met (joinedBy delimiters row) |>.push stop)

/-! ### Joining lines -/

/-- What is written of a pair of lines. -/
inductive Slot
  | key
  | field (second : Bool) (n : Nat)
  deriving DecidableEq, Repr

/-- How lines of two files are joined. -/
structure Joining where
  keys : Nat × Nat := (0, 0)
  separator : Option Char := none
  foldCase : Bool := false
  empty : String := ""
  format : Option (List Slot) := none
  /-- Whether lines that nothing is joined to are written, for each file. -/
  unpaired : Bool × Bool := (false, false)
  /-- Whether lines that are joined are written. -/
  paired : Bool := true

def Joining.fieldsOf (j : Joining) (line : String) : List String :=
  match j.separator with
  | some c => Text.split c line
  | none =>
    ((Text.split ' ' line).flatMap (Text.split '\t')).filter (· ≠ "")

def Joining.key (j : Joining) (second : Bool) (fields : List String) : String :=
  let key := fields.getD (if second then j.keys.2 else j.keys.1) ""
  if j.foldCase then key.toLower else key

/-- A row of fields as it is written. A line of one of the files may be missing. -/
def Joining.row (j : Joining) (a b : Option (List String)) : String :=
  let or (s : Option String) : String := match s with
    | some s => if s = "" then j.empty else s
    | none => j.empty
  let a' := a.getD []
  let b' := b.getD []
  let key : Option String := match a with
    | some fields => fields[j.keys.1]?
    | none => b'[j.keys.2]?
  let parts := match j.format with
    | some slots => slots.map fun
      | .key => or key
      | .field false n => or (a'[n]?)
      | .field true n => or (b'[n]?)
    | none =>
      let others (fields : List String) (key : Nat) : List String :=
        (fields.zipIdx.filter (·.2 ≠ key)).map fun f => or (some f.1)
      or key :: others a' j.keys.1 ++ others b' j.keys.2
  String.intercalate (String.singleton (j.separator.getD ' ')) parts ++ "\n"

/-- Lines that have still to come when the first one without a counterpart has been met. -/
abbrev Remaining := Option (List (List String) × List (List String))

/-- Walks through two rows of lines that are in order, and joins those whose keys are the same. The
first argument bounds the steps. -/
def Joining.rows (j : Joining) : Nat → List (List String) → List (List String) → List String × Remaining
  | 0, _, _ | _, [], [] => ([], none)
  | steps + 1, a :: as, [] =>
    let (rest, later) := j.rows steps as []
    (if j.unpaired.1 then j.row (some a) none :: rest else rest, later)
  | steps + 1, [], b :: bs =>
    let (rest, later) := j.rows steps [] bs
    (if j.unpaired.2 then j.row none (some b) :: rest else rest, later)
  | steps + 1, a :: as, b :: bs =>
    let ka := j.key false a
    let kb := j.key true b
    let before (s t : String) : Bool := Octet.bytes s < Octet.bytes t
    if before ka kb then
      let (rest, _) := j.rows steps as (b :: bs)
      (if j.unpaired.1 then j.row (some a) none :: rest else rest, some (as, b :: bs))
    else if before kb ka then
      let (rest, _) := j.rows steps (a :: as) bs
      (if j.unpaired.2 then j.row none (some b) :: rest else rest, some (a :: as, bs))
    else
      let sameA := as.takeWhile fun a => j.key false a = ka
      let sameB := bs.takeWhile fun b => j.key true b = kb
      let (rest, later) := j.rows steps (as.drop sameA.length) (bs.drop sameB.length)
      let pairs := (a :: sameA).flatMap fun a => (b :: sameB).map fun b => j.row (some a) (some b)
      (if j.paired then pairs ++ rest else rest, later)

/-- The first place at which keys are out of order, counted from the end of the lines. -/
def Joining.disorder (j : Joining) (second : Bool) (rows : List (List String)) : Option Nat :=
  let keys := rows.map fun fields => Octet.bytes (j.key second fields)
  ((keys.zip (keys.drop 1)).zipIdx.find? fun ((k, next), _) => next < k).map fun found =>
    rows.length - found.2 - 1

/-- The slots that a list means. -/
def slotsOf (texts : List String) : Work (List Slot) := do
  let parts := (texts.flatMap fun s => (Text.split ',' s).flatMap (Text.split ' ')).filter (· ≠ "")
  parts.mapM fun part => do
    match part.toList with
    | ['0'] => return .key
    | file :: '.' :: cs =>
      if (file = '1' ∨ file = '2') ∧ !cs.isEmpty ∧ cs.all Char.isDigit ∧ natOf cs ≠ 0 then
        return .field (file = '2') (natOf cs - 1)
      else fail ("invalid field number: " ++ (← quoted (String.ofList cs)))
    | _ => fail ("invalid file number in field spec: " ++ (← quoted part))

/-- Joins lines of two files that have a field in common. -/
def joinLines : Work Unit := do
  let g ← options
    { rules := [valued "1", valued "2", valued "j", valued "a", valued "e", flag "i" "ignore-case",
        valued "o", valued "t", valued "v", flag "z" "zero-terminated", flag "" "check-order",
        flag "" "nocheck-order", flag "" "header"] }
  let keyOf (letter : String) : Work (Option Nat) := do
    match g.last? letter with
    | none => return none
    | some text =>
      let cs := text.toList
      if cs.isEmpty ∨ !cs.all Char.isDigit ∨ natOf cs = 0 then
        fail ("invalid field number: " ++ (← quoted text))
      return some (natOf cs - 1)
  let both ← keyOf "j"
  let first ← keyOf "1"
  let second ← keyOf "2"
  let wanted := g.all "a" ++ g.all "v"
  if let some bad := wanted.find? fun s => s ≠ "1" && s ≠ "2" then
    fail ("invalid field number: " ++ (← quoted bad))
  let separator := match (g.last? "t").map (Octet.units false) with
    | some [c] => some c
    | some ['\\', '0'] => some '\x00'
    | some [] => some '\n'
    | _ => none
  if let some t := g.last? "t" then
    if separator.isNone then fail ("multi-character tab " ++ (← quoted t))
  match g.operands with
  | [] => refuse "missing operand"
  | [one] => refuse ("missing operand after " ++ (← quoted one))
  | _ :: _ :: extra :: _ => refuse ("extra operand " ++ (← quoted extra))
  | [left, right] =>
    let format ← match g.all "o" with
      | [] => pure none
      | ["auto"] => pure none
      | texts => some <$> slotsOf texts
    let j : Joining :=
      { keys := (first.getD (both.getD 0), second.getD (both.getD 0)), separator
        foldCase := g.has "i", empty := (g.last? "e").getD "", format
        unpaired := (wanted.contains "1", wanted.contains "2"), paired := (g.all "v").isEmpty }
    if left = "-" ∧ right = "-" then fail "both files cannot be standard input"
    let stop := lineStop (g.has "z")
    let read (name : String) : Work (List String) := do
      match ← contents name with
      | .ok text => return linesOf stop text
      | .error e => fail (← about name e)
    let as ← read left
    let bs ← read right
    let rowsA := as.map j.fieldsOf
    let rowsB := bs.map j.fieldsOf
    let (headA, restA) := if g.has "header" then (rowsA.take 1, rowsA.drop 1) else ([], rowsA)
    let (headB, restB) := if g.has "header" then (rowsB.take 1, rowsB.drop 1) else ([], rowsB)
    if !headA.isEmpty ∨ !headB.isEmpty then say (j.row headA.head? headB.head?)
    let (rows, later) := j.rows (as.length + bs.length + 1) restA restB
    let checked : Remaining :=
      if g.has "nocheck-order" then none else if g.has "check-order" then some (restA, restB) else later
    say (Octet.met (String.join rows))
    if let some (restA, restB) := checked then
      for (second, name, rows, lines) in [(false, left, restA, as), (true, right, restB, bs)] do
        if let some n := j.disorder second rows then
          let place := lines.length - n
          let text := name ++ ":" ++ toString (place + 1) ++ ": is not sorted: " ++ lines.getD place ""
          if g.has "check-order" then fail text
          fault text
      if (← get).status ≠ 0 then fail "input is not in sorted order"

end ScriptSearch.Host.Tools
