import ScriptSearch.Host.Tools.Editor.Script

/-! Reading scripts of the stream editor. A script is read character by character; a flaw is known
by the number of characters that have been read when it shows. -/

namespace ScriptSearch.Host.Editor

/-- What is left of a text, and how many characters have been read. -/
structure Cursor where
  rest : List Char
  count : Nat := 0

/-- How expressions are understood. -/
structure Manner where
  extended : Bool := false
  wide : Bool := false

abbrev Reader := StateT Cursor (Except (Flaw × Nat))

def flaw {α : Type} (f : Flaw) : Reader α := do throw (f, (← get).count)

/-- Takes the next character, if there is one. -/
def take : Reader (Option Char) := do
  let c ← get
  match c.rest with
  | [] => return none
  | x :: rest =>
    set ({ rest, count := c.count + 1 } : Cursor)
    return some x

/-- The next character, which stays. -/
def peek : Reader (Option Char) := return (← get).rest.head?

/-- Passes over characters of a kind, and gives them. -/
def takeWhile (p : Char → Bool) : Reader (List Char) := do
  let c ← get
  let found := c.rest.takeWhile p
  set ({ rest := c.rest.drop found.length, count := c.count + found.length } : Cursor)
  return found

def isBlank (c : Char) : Bool := c == ' ' || c == '\t'

def isSpace (c : Char) : Bool := isBlank c || ('\n' ≤ c && c ≤ '\r')

/-- Takes the next character that is no blank. -/
def takeVisible : Reader (Option Char) := do
  discard (takeWhile isBlank)
  take

def natOf (ds : List Char) : Nat := ds.foldl (fun n c => 10 * n + (c.toNat - 48)) 0

def number : Reader Nat := return natOf (← takeWhile Char.isDigit)

/-! ### Texts between delimiters -/

/-- Where a character of an expression stands. -/
inductive Spot
  | outside
  /-- At the start of a set of characters. -/
  | opening
  | inside
  /-- In a name within a set, up to a character and a bracket. -/
  | named (c : Char)

/-- Where the next character stands. -/
def Spot.next (s : Spot) (c : Char) (following : Option Char) : Spot :=
  match s with
  | .outside => if c = '[' then .opening else .outside
  | .opening => if c = '^' then .opening else among
  | .inside => if c = ']' then .outside else among
  | .named d => if c = d ∧ following = some ']' then .opening else s
where
  among : Spot :=
    match following with
    | some d => if c = '[' ∧ (d = ':' ∨ d = '.' ∨ d = '=') then .named d else .inside
    | none => .inside

/-- The text up to a delimiter. In an expression `\n` is a line end, and a delimiter in a set of
characters does not count; one behind a backslash stands for itself. Nothing if no delimiter follows
on the line. -/
def delimited (delimiter : Char) (regex : Bool) : Nat → (s : Spot) → Reader (Option (List Char))
  | 0, _ => return none
  | steps + 1, s => do
    match ← peek with
    | none | some '\n' => return none
    | some c =>
      discard take
      let out := s matches .outside
      if c = delimiter ∧ out then return some []
      else if c = '\\' ∧ out then
        match ← take with
        | none => return none
        | some next =>
          let found : List Char :=
            if next = 'n' ∧ regex then ['\n']
            else if next = '\n' then ['\n']
            else if next = delimiter ∧ !(!regex ∧ next = '&') then [next]
            else ['\\', next]
          return (found ++ ·) <$> (← delimited delimiter regex steps s)
      else
        let following ← peek
        let next := if regex then s.next c following else .outside
        match c, following with
        | '\\', some 'n' =>
          discard take
          return ('\n' :: ·) <$> (← delimited delimiter regex steps .inside)
        | '\\', some '\\' =>
          discard take
          return (['\\', '\\'] ++ ·) <$> (← delimited delimiter regex steps .inside)
        | _, _ => return (c :: ·) <$> (← delimited delimiter regex steps next)

/-- A digit of a base. -/
def digitOf? (base : Nat) (c : Char) : Option Nat :=
  let n :=
    if c.isDigit then c.toNat - 48
    else if 'a' ≤ c ∧ c ≤ 'f' then c.toNat - 87
    else if 'A' ≤ c ∧ c ≤ 'F' then c.toNat - 55
    else 99
  if n < base then some n else none

/-- The character that a backslash and a letter produce, and what follows. -/
def produced? : List Char → Option (Char × List Char)
  | 'a' :: rest => some ('\x07', rest)
  | 'f' :: rest => some ('\x0c', rest)
  | 'r' :: rest => some ('\r', rest)
  | 't' :: rest => some ('\t', rest)
  | 'v' :: rest => some ('\x0b', rest)
  | 'c' :: c :: rest => some (Char.ofNat (c.toUpper.toNat ^^^ 64), rest)
  | 'd' :: rest => coded 10 3 rest
  | 'o' :: rest => coded 8 3 rest
  | 'x' :: rest => coded 16 2 rest
  | _ => none
where
  coded (base size : Nat) (rest : List Char) : Option (Char × List Char) :=
    let ds := (rest.take size).takeWhile fun c => (digitOf? base c).isSome
    if ds.isEmpty then none
    else
      let n := ds.foldl (fun n c => base * n + (digitOf? base c).getD 0) 0
      some (Octet.char (UInt8.ofNat n), rest.drop ds.length)

/-- Characters that mean something in an expression. -/
def isSpecial (c : Char) : Bool := "$*.[\\]^+?()\x7b\x7d|/".toList.contains c

/-- An expression with the characters that are written with a backslash put in. The first argument
bounds the steps. -/
def withProduced (special : Char → Bool) : Nat → List Char → List Char
  | 0, cs => cs
  | _, [] => []
  | steps + 1, '\\' :: rest =>
    match produced? rest with
    | some (c, rest) => (if special c then ['\\', c] else [c]) ++ withProduced special steps rest
    | none =>
      match rest with
      | c :: rest => '\\' :: c :: withProduced special steps rest
      | [] => ['\\']
  | steps + 1, c :: rest => c :: withProduced special steps rest

/-- The parts of a replacement. The first argument bounds the steps. -/
def partsOf : Nat → List Char → List Part
  | 0, _ | _, [] => []
  | steps + 1, '\\' :: c :: rest =>
    let more := partsOf steps rest
    if c.isDigit then .group (c.toNat - 48) :: more
    else
      match c with
      | 'L' => .casing .lower :: more
      | 'U' => .casing .upper :: more
      | 'E' => .casing .asIs :: more
      | 'l' => .casing .lowerNext :: more
      | 'u' => .casing .upperNext :: more
      | 'n' => .text ['\n'] :: more
      | c => .text [c] :: more
  | steps + 1, '&' :: rest => .group 0 :: partsOf steps rest
  | steps + 1, c :: rest => .text [c] :: partsOf steps rest

/-- The search that a text means; an empty one is the last that was used. -/
def searchOf (m : Manner) (foldCase lines : Bool) (text : List Char) : Reader (Search × Nat) := do
  let rule : RegexRule := { extended := m.extended, wide := m.wide, foldCase, lines, strict := true }
  if text.isEmpty then return ({ rule, regex := none }, 9)
  match Regex.read rule (String.ofList (withProduced isSpecial (text.length + 1) text)) with
  | .ok (r, groups) => return ({ rule, regex := some r }, groups)
  | .error f => flaw (.regex f)

/-! ### Addresses -/

/-- An expression between delimiters as an address, with its options. -/
def addressSearch (m : Manner) (delimiter : Char) : Reader Search := do
  match ← delimited delimiter true ((← get).rest.length + 1) .outside with
  | none =>
    discard (takeWhile fun c => c ≠ '\n')
    flaw .unterminatedSearch
  | some text =>
    let letters ← takeWhile fun c => c == 'I' || c == 'M' || isBlank c
    return (← searchOf m (letters.contains 'I') (letters.contains 'M') text).1

/-- An address where a command's lines begin, if one comes next. -/
def start? (m : Manner) : Reader (Option Start) := do
  match ← peek with
  | some '/' =>
    discard take
    return some (.found (← addressSearch m '/'))
  | some '\\' =>
    discard take
    match ← take with
    | some c => return some (.found (← addressSearch m c))
    | none => flaw .unterminatedSearch
  | some '$' =>
    discard take
    return some .last
  | some c =>
    if !c.isDigit then return none
    let n ← number
    discard (takeWhile isBlank)
    match ← peek with
    | some '~' =>
      discard take
      discard (takeWhile isBlank)
      let size ← number
      return some (if size = 0 then .line n else .step n size)
    | _ => return some (.line n)
  | none => return none

/-- An address where a command's lines end. -/
def finish? (m : Manner) : Reader (Option Finish) := do
  match ← peek with
  | some '+' =>
    discard take
    return some (.behind (← number))
  | some '~' =>
    discard take
    return some (.multiple (← number))
  | _ =>
    match ← start? m with
    | some (.line n) | some (.step n _) => return some (.line n)
    | some .last => return some .last
    | some (.found s) => return some (.found s)
    | none => return none

/-! ### Commands -/

/-- Looks that a command ends here. -/
def endCommand : Reader Unit := do
  discard (takeWhile isBlank)
  match ← peek with
  | none | some '\x7d' | some '#' => pure ()
  | some c =>
    discard take
    if c ≠ '\n' ∧ c ≠ ';' then flaw .spare

/-- A label, which ends at white space or at what ends a command. -/
def label : Reader String := do
  discard (takeWhile isBlank)
  return String.ofList (← takeWhile fun c => !isSpace c && c ≠ ';' && c ≠ '\x7d')

/-- The name of a file, which ends with the line. -/
def fileName : Reader String := do
  discard (takeWhile isBlank)
  let name ← takeWhile (· ≠ '\n')
  if name.isEmpty then flaw .fileMissing
  return String.ofList name

/-- Text up to the end of a line that no backslash stands before. The first argument bounds the
steps. -/
def textLines : Nat → Reader (List Char)
  | 0 => return []
  | steps + 1 => do
    match ← take with
    | none => return []
    | some '\n' => return []
    | some '\\' =>
      let rest := (← get).rest
      match produced? rest with
      | some (c, behind) =>
        set ({ rest := behind, count := (← get).count + (rest.length - behind.length) } : Cursor)
        return c :: (← textLines steps)
      | none =>
        match ← take with
        | none => return []
        | some 'n' => return '\n' :: (← textLines steps)
        | some c => return c :: (← textLines steps)
    | some c => return c :: (← textLines steps)

/-- The text of a command that has one: behind a backslash and a line end, or on the same line.
Nothing if it is still to come. -/
def commandText : Reader (Option String) := do
  discard (takeWhile isBlank)
  match ← peek with
  | none => flaw .textExpected
  | some '\\' =>
    discard take
    let rest := (← get).rest
    match (rest.dropWhile isBlank).head? with
    | some '\n' =>
      discard (takeWhile isBlank)
      discard take
    | none => discard (takeWhile isBlank)
    | _ => pure ()
    if (← peek).isNone then return none
  | some '\n' => flaw .textExpected
  | _ => pure ()
  let text ← textLines ((← get).rest.length + 1)
  return some (String.ofList text ++ "\n")

/-- The options of a substitution. The first argument bounds the steps. -/
def substitutionOptions : Nat → (s : Substitution) → (numbered foldCase lines : Bool) →
    Reader (Substitution × Bool × Bool)
  | 0, s, _, foldCase, lines => return (s, foldCase, lines)
  | steps + 1, s, numbered, foldCase, lines => do
    match ← peek with
    | none | some '\x7d' | some '#' => return (s, foldCase, lines)
    | some c =>
      discard take
      match c with
      | '\n' | ';' => return (s, foldCase, lines)
      | 'i' | 'I' => substitutionOptions steps s numbered true lines
      | 'm' | 'M' => substitutionOptions steps s numbered foldCase true
      | 'e' => substitutionOptions steps { s with evaluates := true } numbered foldCase lines
      | 'p' =>
        if s.prints then flaw (.repeatedOption 'p')
        substitutionOptions steps { s with prints := true } numbered foldCase lines
      | 'g' =>
        if s.every then flaw (.repeatedOption 'g')
        substitutionOptions steps { s with every := true } numbered foldCase lines
      | 'w' => return ({ s with file := some (← fileName) }, foldCase, lines)
      | c =>
        if isBlank c ∨ c = '\r' then substitutionOptions steps s numbered foldCase lines
        else if c.isDigit then
          if numbered then flaw .repeatedNumber
          let more ← takeWhile Char.isDigit
          let n := natOf (c :: more)
          if n = 0 then flaw .numberZero
          substitutionOptions steps { s with number := n } true foldCase lines
        else flaw .unknownOption

/-- The largest group that a replacement asks for. -/
def largestGroup (parts : List Part) : Nat :=
  parts.foldl (fun n part => match part with
    | .group k => max n k
    | _ => n) 0

def substitution (m : Manner) : Reader Action := do
  let steps := (← get).rest.length + 1
  let some delimiter ← take | flaw (.unterminated 's')
  let some pattern ← delimited delimiter true steps .outside | flaw (.unterminated 's')
  let some replacement ← delimited delimiter false steps .outside | flaw (.unterminated 's')
  let isMark (c : Char) : Bool := c == '&' || c == '\\' || c == '\n'
  let parts := partsOf (2 * replacement.length + 1)
    (withProduced isMark (replacement.length + 1) replacement)
  let empty : Substitution := { search := { rule := {}, regex := none }, parts }
  let (s, foldCase, lines) ← substitutionOptions steps empty false false false
  let (search, groups) ← searchOf m foldCase lines pattern
  if groups < largestGroup parts then flaw (.reference (largestGroup parts))
  return .substitute { s with search }

/-- The characters of one side of a translation. -/
def translated (delimiter : Char) : List Char → List Char
  | '\\' :: c :: rest =>
    if c = '\\' then '\\' :: translated delimiter rest
    else if c = 'n' then '\n' :: translated delimiter rest
    else if c = delimiter then c :: translated delimiter rest
    else '\\' :: c :: translated delimiter rest
  | c :: rest => c :: translated delimiter rest
  | [] => []

def translation : Reader Action := do
  let steps := (← get).rest.length + 1
  let some delimiter ← take | flaw (.unterminated 'y')
  let some first ← delimited delimiter false steps .outside | flaw (.unterminated 'y')
  let some second ← delimited delimiter false steps .outside | flaw (.unterminated 'y')
  let plain (cs : List Char) : List Char :=
    translated delimiter (withProduced (· == '\\') (cs.length + 1) cs)
  let first := plain first
  let second := plain second
  if first.length ≠ second.length then flaw .lengths
  endCommand
  return .translate (first.zip second)

/-- A number that a command can have. -/
def optionalNumber : Reader (Option Nat) := do
  discard (takeWhile isBlank)
  let ds ← takeWhile Char.isDigit
  endCommand
  return if ds.isEmpty then none else some (natOf ds)

/-- Commands without arguments. -/
def plainActions : List (Char × Action) :=
  [('=', .number), ('d', .delete), ('D', .deleteLine), ('F', .fileName), ('g', .get), ('G', .getAppended),
    ('h', .hold), ('H', .holdAppended), ('n', .next), ('N', .nextAppended), ('p', .print),
    ('P', .printLine), ('z', .clear), ('x', .exchange)]

/-- What a command does, by its letter. -/
def action (m : Manner) (g : Guard) (c : Char) : Reader Action := do
  match plainActions.lookup c with
  | some a =>
    endCommand
    return a
  | none =>
    match c with
    | 's' => substitution m
    | 'y' => translation
    | 'b' | 't' | 'T' =>
      let name ← label
      endCommand
      return if c = 'b' then .jump name else if c = 't' then .jumpIfChanged name else .jumpUnlessChanged name
    | 'q' | 'Q' =>
      if g.finish.isSome then flaw .oneAddress
      return .quit ((← optionalNumber).getD 0) (c = 'Q')
    | 'l' | 'L' => return .list (← optionalNumber)
    | 'r' => return .readFile (← fileName)
    | 'R' => return .readLine (← fileName)
    | 'w' => return .writeFile (← fileName)
    | 'W' => return .writeLine (← fileName)
    | 'e' =>
      discard (takeWhile isBlank)
      return .evaluate (String.ofList (← takeWhile (· ≠ '\n')))
    | 'v' =>
      discard label
      endCommand
      return .nothing
    | c => flaw (.unknownCommand c)

/-- What has been read of a script: the steps, the latest last, the labels, and the groups that are
open. -/
structure Draft where
  steps : Array Step := #[]
  labels : List (String × Nat) := []
  groups : List (Nat × String) := []
  silent : Bool := false
  /-- Whether the text of the latest step is still to come. -/
  pending : Bool := false

/-- A command that has a text. -/
def textAction? (text : String) : Char → Option Action
  | 'a' => some (.append text)
  | 'i' => some (.insert text)
  | 'c' => some (.change text)
  | _ => none

/-- Gives its text to the latest step. -/
def Draft.complete (d : Draft) (text : String) : Draft :=
  { d with
    pending := false
    steps := d.steps.modify (d.steps.size - 1) fun s =>
      { s with action := match s.action with
          | .append _ => .append text
          | .insert _ => .insert text
          | .change _ => .change text
          | a => a } }

/-- Reads a command and adds it; `place` is how messages name where it stands. -/
def command (m : Manner) (place : String) (d : Draft) : Reader Draft := do
  let first := (← get).count = 0
  let start ← start? m
  if start.isSome then discard (takeWhile isBlank)
  let finish ← do
    if start.isSome ∧ (← peek) = some ',' then
      discard take
      discard (takeWhile isBlank)
      let f ← finish? m
      if f.isNone then
        discard take
        flaw .unexpectedComma
      discard (takeWhile isBlank)
      pure f
    else pure none
  let zero : Bool := match start, finish with
    | some (.line 0), some (.found _) => false
    | some (.line 0), _ => true
    | _, _ => false
  let some c ← take | flaw .missingCommand
  if zero then flaw .lineZero
  let (negated, c) ← do
    if c = '!' then
      let some c ← takeVisible | flaw .missingCommand
      if c = '!' then flaw .tooManyNegations
      pure (true, c)
    else pure (false, c)
  let g : Guard := { start, finish, negated }
  let here := d.steps.size
  match c with
  | '#' =>
    if start.isSome then flaw .commentAddressed
    let text ← takeWhile (· ≠ '\n')
    return { d with silent := d.silent || (first && text = ['n'] && here = 0) }
  | '\x7b' => return { d with steps := d.steps.push ⟨g, .group 0⟩, groups := (here, place) :: d.groups }
  | '\x7d' =>
    match d.groups with
    | [] => flaw .unexpectedClosing
    | (opening, _) :: groups =>
      if start.isSome then flaw .closingAddressed
      endCommand
      return { d with
        steps := d.steps.modify opening fun s => { s with action := .group here }
        groups }
  | ':' =>
    if start.isSome then flaw .labelAddressed
    let name ← label
    if name = "" then flaw .labelMissing
    return { d with labels := (name, here) :: d.labels }
  | '\n' | ';' => flaw .missingCommand
  | c =>
    if (textAction? "" c).isSome then
      let text ← commandText
      return match textAction? (text.getD "") c with
        | some a => { d with steps := d.steps.push ⟨g, a⟩, pending := text.isNone }
        | none => d
    else
      let a ← action m g c
      return { d with steps := d.steps.push ⟨g, a⟩ }

/-- Reads commands up to the end of a text. The first argument bounds the steps; `place` names a
place by the text before it. -/
def commands (m : Manner) (place : List Char → String) (text : List Char) : Nat → Draft → Reader Draft
  | 0, d => return d
  | steps + 1, d => do
    if d.pending then
      if (← peek).isNone then return d
      let more ← textLines (text.length + 1)
      commands m place text steps (d.complete (String.ofList more ++ "\n"))
    else
      discard (takeWhile fun c => isSpace c || c = ';')
      if (← peek).isNone then return d
      let before := text.take (text.length - (← get).rest.length)
      commands m place text steps (← command m (place before) d)

/-- The labels that steps jump to. -/
def Step.target? (s : Step) : Option String :=
  match s.action with
  | .jump name | .jumpIfChanged name | .jumpUnlessChanged name => if name = "" then none else some name
  | _ => none

/-- The script that a draft has become, if its labels are there. -/
def Draft.finished (d : Draft) : Except Flaw Script :=
  match (d.steps.toList.filterMap Step.target?).find? fun name => (d.labels.lookup name).isNone with
  | some name => .error (.noLabel name)
  | none => .ok { steps := d.steps, labels := d.labels, silent := d.silent }

end ScriptSearch.Host.Editor
