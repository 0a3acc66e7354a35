import ScriptSearch.Host.Escape
import ScriptSearch.Host.Shell.Script

/-! Reading a script from left to right: the place that has been reached, the flaws that end
reading, and the tokens that a script consists of. A token is read once and kept until it is
taken. Texts to read are taken from behind the line that asks for them. -/

namespace ScriptSearch.Host.Shell

inductive Token
  | word (w : Word)
  | redirect (descriptor : Descriptor) (operator : String)
  | operator (text : String)
  | newline
  | finish
  deriving Repr

/-- What is wrong with a script. -/
inductive Flaw
  /-- Something stays open that began with the mark on a line. -/
  | unclosed (mark : String) (line : Nat)
  | unexpected (t : Token) (name : String) (expected : Option String)
  | loopVariable (t : Token) (source : String)
  | functionName (name : String)
  | descriptor
  /-- Something is wrong with a test between double brackets; some flaws are not told. -/
  | test (message : Option String)
  /-- A token stands among the values of a list. -/
  | element (t : Token)
  /-- The values of a list have no end. -/
  | unclosedList
  /-- Something is wrong with the calculations of a loop. -/
  | loopHead (message source : String)
  deriving Repr

/-- A token that comes next. -/
structure Ahead where
  token : Token
  /-- The line that a command counts as standing on whose next token it is. -/
  line : Nat
  /-- How much was left to read where the token begins. -/
  start : Nat
  deriving Repr

/-- A text to read that a line has asked for. -/
structure Pending where
  number : Nat
  tabs : Bool
  quoted : Bool
  finish : String
  line : Nat
  deriving Repr

/-- Where reading stands. -/
structure Cursor where
  rest : List Char
  left : Nat := rest.length
  line : Nat := 1
  ahead : Option Ahead := none
  /-- Whether a command can begin here. -/
  fresh : Bool := true
  /-- Whether assignments can stand among the arguments. -/
  declaring : Bool := false
  /-- Whether patterns of a choice stand here. -/
  patterns : Bool := false
  /-- Whether parentheses can be parts of patterns. -/
  extended : Bool := false
  /-- Whether a parenthesis ends the script. -/
  enclosed : Bool := false
  pending : List Pending := []
  /-- Texts that have been read, by number. -/
  documents : List (Nat × Word) := []
  /-- How many texts have been asked for. -/
  asked : Nat := 0
  /-- Names of commands that stand for a text. -/
  aliases : List (String × String) := []
  /-- Names whose texts are being read, with how much is left behind them. -/
  inside : List (String × Nat) := []
  /-- Texts to read whose end was not found: the line of the redirection and the end. -/
  unended : List (Nat × String) := []
  /-- How many texts to read are asked for at the end of an inner script, by the line. -/
  borrowed : List (Nat × Nat) := []
  deriving Repr

structure ReadError where
  flaw : Flaw
  line : Nat
  deriving Repr

abbrev Reader := EStateM ReadError Cursor

/-- What reading of words rests on: the shell, whether code points beyond ASCII are known, and
the reading of a script in a word up to the parenthesis that closes it or to its end. It gives
the text that the script is kept as. -/
structure Ground where
  dialect : Dialect
  wide : Bool := false
  script : (closed : Bool) → Reader String

def isBlank (c : Char) : Bool := c == ' ' || c == '\t'

/-- Characters that end a word. -/
def endsWord (c : Char) : Bool := isBlank c || c == '\n' || "();&|<>".toList.contains c

namespace Reader

def fail {α : Type} (flaw : Flaw) : Reader α := do
  let c ← get
  throw ⟨flaw, (c.ahead.map (·.line)).getD c.line⟩

/-- Goes on by so many characters. -/
def skip (n : Nat) : Reader Unit :=
  modify fun c => { c with
    rest := c.rest.drop n, left := c.left - n, line := c.line + (c.rest.take n).count '\n' }

/-- A text whose lines are joined as far as it goes on with characters of a kind, and how many ends of
lines that takes out of it. -/
def glued (goes : Char → Bool) : List Char → List Char × Nat
  | '\\' :: '\n' :: cs =>
    let (text, n) := glued goes cs
    (text, n + 1)
  | c :: cs =>
    if goes c then
      let (text, n) := glued goes cs
      (c :: text, n)
    else (c :: cs, 0)
  | [] => ([], 0)

/-- Joins the lines of what comes next, as far as it goes on with characters of a kind. -/
def glue (goes : Char → Bool) : Reader Unit :=
  modify fun c =>
    let (rest, n) := glued goes c.rest
    if n = 0 then c else { c with rest, left := c.left - 2 * n, line := c.line + n }

/-- The text that a script was read over, from one place to a later one. -/
def between (start finish : Cursor) : String :=
  String.ofList (start.rest.take (start.left - finish.left))

/-- Where a word is being read. -/
inductive Mode
  | bare
  | double
  | braces (quoted : Bool)
  /-- A regular expression, in which parentheses and bars are text. -/
  | regular
  /-- Up to the end: a text that is expanded as between double quotes. -/
  | document
  /-- Up to the end: a calculation, in which double quotes are left out. -/
  | calculation
  /-- A calculation of the plain shell between parentheses. -/
  | enclosed
  /-- Between brackets. -/
  | subscript
  /-- Between parentheses of a pattern. -/
  | group
  deriving DecidableEq, Repr

def Mode.quoted : Mode → Bool
  | bare | braces false | regular | subscript | group => false
  | _ => true

def Mode.endsAt : Mode → Char → Bool
  | bare, c => endsWord c
  | double, c => c == '"'
  | braces _, c => c == '\x7d'
  | regular, c => isBlank c || c == '\n' || ";&<>)".toList.contains c
  | subscript, c => c == ']'
  | group, c | enclosed, c => c == ')'
  | document, _ | calculation, _ => false

/-- Whether a character stands for itself wherever it stands. -/
def isOrdinary (mode : Mode) (c : Char) : Bool :=
  match mode with
  | .document => !"$\x60\\".toList.contains c
  | _ => c.isAlphanum || "_-./,:%^~".toList.contains c || 0x80 ≤ c.toNat

/-- The text up to the marks that close a calculation outside inner brackets, and the rest
behind them. -/
def balanced (opening closing : Char) (twice : Bool) : (depth : Nat) → List Char →
    Option (List Char × List Char)
  | _, [] => none
  | depth, c :: cs =>
    if c = closing then
      match depth, cs with
      | 0, next :: rest =>
        if !twice then some ([], cs) else if next = closing then some ([], rest) else none
      | 0, [] => if twice then none else some ([], [])
      | depth + 1, cs => (balanced opening closing twice depth cs).map (Prod.map (c :: ·) id)
    else
      let depth := if c = opening then depth + 1 else depth
      (balanced opening closing twice depth cs).map (Prod.map (c :: ·) id)

/-- The text up to a backquote, with the backslashes resolved that protect from it, how
much was read, and whether the end is there. -/
def backquoted (quoted : Bool) : List Char → List Char × Nat × Bool
  | [] => ([], 0, false)
  | '\x60' :: _ => ([], 1, true)
  | '\\' :: c :: cs =>
    let (text, n, closed) := backquoted quoted cs
    let resolved := c == '$' || c == '\x60' || c == '\\' || (quoted && c == '"')
    (if resolved then c :: text else '\\' :: c :: text, n + 2, closed)
  | c :: cs =>
    let (text, n, closed) := backquoted quoted cs
    (c :: text, n + 1, closed)

/-- Whether a backslash protects a character. -/
def protects (mode : Mode) (c : Char) : Bool :=
  match mode with
  | .bare | .braces false | .regular | .subscript | .group => true
  | .double => "$\x60\"\\".toList.contains c
  | .braces true => "$\x60\"\\\x7d".toList.contains c
  | .document | .calculation | .enclosed => "$\x60\\".toList.contains c

/-- Letters that say how a value is to be shown. -/
def transformLetters : List Char := "QEPAKkaUuL".toList

/-- How the value of a parameter is used, after its name: the use, and how many characters
say so. Arguments follow unless the braces close. -/
def use? (d : Dialect) : List Char → Option (Use × Nat)
  | ':' :: '-' :: _ => some (.default true, 2)
  | ':' :: '=' :: _ => some (.assign true, 2)
  | ':' :: '?' :: _ => some (.demand true, 2)
  | ':' :: '+' :: _ => some (.alternative true, 2)
  | ':' :: '\x7d' :: _ => none
  | '-' :: _ => some (.default false, 1)
  | '=' :: _ => some (.assign false, 1)
  | '?' :: _ => some (.demand false, 1)
  | '+' :: _ => some (.alternative false, 1)
  | '%' :: '%' :: _ => some (.trim true true, 2)
  | '%' :: _ => some (.trim true false, 1)
  | '#' :: '#' :: _ => some (.trim false true, 2)
  | '#' :: _ => some (.trim false false, 1)
  | cs =>
    if d = .plain then none
    else match cs with
      | ':' :: _ => some (.slice, 1)
      | '/' :: '/' :: _ => some (.replace .every, 2)
      | '/' :: '#' :: _ => some (.replace .start, 2)
      | '/' :: '%' :: _ => some (.replace .finish, 2)
      | '/' :: _ => some (.replace .first, 1)
      | '^' :: '^' :: _ => some (.recase .upper true, 2)
      | '^' :: _ => some (.recase .upper false, 1)
      | ',' :: ',' :: _ => some (.recase .lower true, 2)
      | ',' :: _ => some (.recase .lower false, 1)
      | '~' :: '~' :: _ => some (.recase .toggle true, 2)
      | '~' :: _ => some (.recase .toggle false, 1)
      | '@' :: letter :: '\x7d' :: _ =>
        some (if transformLetters.contains letter then (.transform letter, 2) else (.unknown, 1))
      | '@' :: _ => some (.unknown, 1)
      | _ => none

/-- The name of a parameter at the start of a text. -/
def parameterName (cs : List Char) : List Char :=
  match cs with
  | c :: _ =>
    if isNameStart c then cs.takeWhile isNameChar
    else if c.isDigit then cs.takeWhile Char.isDigit
    else if (Parameter.ofChar? c).isSome then [c]
    else []
  | [] => []

/-- Splits pieces at the first unquoted occurrence of a character. -/
def cut (mark : Char) : List Piece → List Piece × Option (List Piece)
  | .text false s :: rest =>
    let before := s.toList.takeWhile (· ≠ mark)
    if before.length < s.length then
      ([.text false (String.ofList before)],
        some (.text false (String.ofList (s.toList.drop (before.length + 1))) :: rest))
    else
      let (first, second) := cut mark rest
      (.text false s :: first, second)
  | p :: rest =>
    let (first, second) := cut mark rest
    (p :: first, second)
  | [] => ([], none)

/-- How many characters stand in front of the first colon of a text that is outside of
parentheses and belongs to no question mark, or how many marks stay open. -/
def colonIn : (depth questions : Nat) → List Char → Nat ⊕ (Nat × Nat)
  | depth, questions, [] => .inr (depth, questions)
  | depth, questions, c :: cs =>
    let on (depth questions : Nat) : Nat ⊕ (Nat × Nat) :=
      match colonIn depth questions cs with
      | .inl n => .inl (n + 1)
      | .inr open? => .inr open?
    if c = '(' then on (depth + 1) questions
    else if 0 < depth then on (if c = ')' then depth - 1 else depth) questions
    else if c = ':' then if 0 < questions then on 0 (questions - 1) else .inl 0
    else on 0 (if c = '?' then questions + 1 else questions)

/-- Splits pieces at the colon between two calculations. -/
def cutColon : (depth questions : Nat) → List Piece → List Piece × Option (List Piece)
  | depth, questions, .text quoted s :: rest =>
    match colonIn depth questions s.toList with
    | .inl n =>
      ([.text quoted (String.ofList (s.toList.take n))],
        some (.text quoted (String.ofList (s.toList.drop (n + 1))) :: rest))
    | .inr (depth, questions) =>
      let (first, second) := cutColon depth questions rest
      (.text quoted s :: first, second)
  | depth, questions, p :: rest =>
    let (first, second) := cutColon depth questions rest
    (p :: first, second)
  | _, _, [] => ([], none)

/-- Takes the brace that closes a parameter, whose argument was read in a mode. The plain shell
tells the end of a script between double quotes from the end between braces. -/
def closeBrace (d : Dialect) (start : Cursor) (outer inside : Mode) : Reader Unit := do
  match (← get).rest with
  | '\x7d' :: _ => skip 1
  | _ =>
    match d with
    | .plain => fail (.unclosed (if outer ≠ .document ∧ inside.quoted then "\"" else "\x7b") start.line)
    | .bash => throw ⟨.unclosed "\x7b" start.line, start.line⟩

/-- How many characters the plain shell drops behind a parameter's name that nothing known
follows. -/
def dropped (after : List Char) : Nat :=
  match after with
  | [] | '\x7d' :: _ => 0
  | ':' :: _ => 2
  | _ => 1

/-- Whether `!` in front of a text makes it name the parameter that is meant. -/
def isIndirect : List Char → Bool
  | '!' :: c :: _ => isNameStart c || c.isDigit || "#?@*".toList.contains c
  | _ => false

/-- Whether `#` in front of a text asks for a length. -/
def isLength (d : Dialect) : List Char → Bool
  | '#' :: cs =>
    let name := parameterName cs
    let next := (cs.drop name.length).head?
    !name.isEmpty && (next == some '\x7d' ||
      (d = .bash && next == some '[' && name.head?.any isNameStart))
  | _ => false

/-- Reads a subscript up to the bracket that closes it. -/
def subscript (inner : Mode → Reader Word) : Reader (Subscript Piece × String) := do
  let start ← get
  let w := (← inner .subscript).located
  match (← get).rest with
  | ']' :: _ => skip 1
  | _ => throw ⟨.unclosed "[" start.line, start.line⟩
  let found : Subscript Piece := match w.source with
    | "@" => .all false
    | "*" => .all true
    | source => .index source w.pieces
  return (found, w.source)

/-- Whether a subscript that comes next is closed in front of the brace behind it. -/
def closesSubscript (inner : Mode → Reader Word) (quoted : Bool) : Reader Bool := do
  let start ← get
  try
    discard (inner (.braces quoted))
    let brace := (← get).left
    set start
    discard (subscript inner)
    let behind := (← get).left
    set start
    return brace ≤ behind
  catch _ =>
    set start
    return false

/-- Reads what stands between braces after a `$`; the braces have been opened. -/
def parameter (d : Dialect) (inner : Mode → Reader Word) (outer : Mode) : Reader Word := do
  let start ← get
  let quoted := outer.quoted
  let lost (known : Nat) (after : List Char) : Reader Word := do
    if d = .plain then
      let lost := after.take (dropped after)
      skip (known + lost.length)
      modify fun c => { c with line := c.line - lost.count '\n' }
    discard (inner (.braces quoted))
    closeBrace d start outer (.braces quoted)
    let source := "$\x7b" ++ between start (← get)
    return { pieces := [.bad ""], source }
  let length := isLength d start.rest
  let indirect := d = .bash && isIndirect start.rest
  let body := if length || indirect then start.rest.drop 1 else start.rest
  let name := parameterName body
  if name.isEmpty then lost 0 body
  else
    let p := Parameter.ofName name
    let known := start.left - (body.drop name.length).length
    let bracketed := d = .bash && name.head?.any isNameStart && (body.drop name.length).head? == some '['
    if bracketed then
      skip (known + 1)
      if !(← closesSubscript inner quoted) then return ← lost 0 []
    let (index, front) ← if bracketed then do
        let (found, source) ← subscript inner
        pure (some found, String.ofList (start.rest.take (known + 1)) ++ source ++ "]")
      else pure (none, String.ofList (start.rest.take known))
    let known := if bracketed then 0 else known
    let after := (← get).rest.drop known
    let done (use : Use) (arguments : List (List Piece)) (source : String) : Reader Word :=
      return { pieces := [.value quoted indirect p index use arguments], source := "$\x7b" ++ source }
    let keys := match index with
      | some (.all _) => indirect
      | _ => false
    match after with
    | '\x7d' :: _ =>
      skip (known + 1)
      done (if length then .length else if keys then .keys else .plain) [] (front ++ "\x7d")
    | mark :: '\x7d' :: _ =>
      if indirect ∧ index.isNone ∧ name.head?.any isNameStart ∧ (mark = '@' ∨ mark = '*') then
        skip (known + 2)
        done (.names (mark = '*')) [] (front ++ String.ofList [mark, '\x7d'])
      else used done lost start length known after front
    | _ => used done lost start length known after front
where
  used (done : Use → List (List Piece) → String → Reader Word) (lost : Nat → List Char → Reader Word)
      (start : Cursor) (length : Bool) (known : Nat) (after : List Char) (front : String) :
      Reader Word := do
    match use? d after with
    | none => lost known after
    | some (use, n) =>
      if length then lost 0 []
      else
        skip (known + n)
        let mode : Mode := match use with
          | .trim _ _ | .replace _ | .recase _ _ => .braces false
          | _ => .braces outer.quoted
        let argument := (← inner mode).located
        closeBrace d start outer mode
        let arguments := match use with
          | .slice => let (a, b) := cutColon 0 0 argument.pieces; a :: b.toList
          | .replace _ => let (a, b) := cut '/' argument.pieces; a :: b.toList
          | .transform _ => []
          | .unknown => [[.bad ""]]
          | _ => [argument.pieces]
        done use arguments (front ++ String.ofList (after.take n) ++ argument.source ++ "\x7d")

/-- Reads a text of its own with the rest of the script put aside. -/
def apart {α : Type} (text : List Char) (line : Nat) (a : Reader α) : Reader α := do
  let c ← get
  set { c with rest := text, left := text.length, line, ahead := none, pending := [] }
  let found ← a
  set c
  return found

/-- Reads a script in parentheses, which have been opened, and gives the text it is kept as. -/
def innerScript (g : Ground) (line : Nat) : Reader String := do
  let c ← get
  set { c with
    ahead := none, fresh := true, declaring := false, patterns := false, enclosed := true
    pending := [] }
  let text ← g.script true
  let now ← get
  set { c with
    rest := now.rest, left := now.left, line := now.line, asked := now.asked
    documents := now.documents, unended := now.unended, inside := now.inside
    borrowed := now.borrowed ++ if now.pending.isEmpty then [] else [(line, now.pending.length)] }
  match g.dialect with
  | .bash => return text
  | .plain => return (between c now).dropEnd 1 |>.toString

/-- The text of a calculation up to the parentheses that close it, if that is what comes next. What is
quoted in it and scripts in it are read over. -/
def calculationText? (inner : Mode → Reader Word) : Reader (Option (List Char)) := do
  let start ← get
  let found ←
    try
      discard (inner .group)
      let c ← get
      match c.rest with
      | ')' :: ')' :: _ =>
        skip 2
        pure (some (start.rest.take (start.left - c.left)))
      | _ => pure none
    catch _ => pure none
  if found.isNone then set start
  return found

/-- Whether the parentheses of a text close one another outside quotes. The first argument is how many
are open. -/
def isBalanced : (depth : Nat) → List Char → Bool
  | depth, [] => depth = 0
  | depth, '\\' :: _ :: cs => isBalanced depth cs
  | depth, '(' :: cs => isBalanced (depth + 1) cs
  | 0, ')' :: _ => false
  | depth + 1, ')' :: cs => isBalanced depth cs
  | depth, '\'' :: cs => isBalancedIn '\'' depth cs
  | depth, '"' :: cs => isBalancedIn '"' depth cs
  | depth, _ :: cs => isBalanced depth cs
where
  /-- The same within quotes. -/
  isBalancedIn (quote : Char) : (depth : Nat) → List Char → Bool
    | depth, [] => depth = 0
    | depth, '\\' :: c :: cs =>
      if quote = '"' then isBalancedIn quote depth cs
      else if c = quote then isBalanced depth cs
      else isBalancedIn quote depth cs
    | depth, c :: cs => if c = quote then isBalanced depth cs else isBalancedIn quote depth cs

/-- Reads a calculation of the plain shell up to the parentheses that close it. A single one is a part of
it. The first argument bounds the steps. -/
def plainCalculation (inner : Mode → Reader Word) (line : Nat) : Nat → Reader Word
  | 0 => return {}
  | steps + 1 => do
    let w ← inner .enclosed
    glue (· = ')')
    match (← get).rest with
    | ')' :: ')' :: _ =>
      skip 2
      return w
    | ')' :: _ =>
      skip 1
      return (← plainCalculation inner line steps).after (w.pieces ++ [.text true ")"]) (w.source ++ ")")
    | _ => fail (.unclosed "((" line)

/-- Characters of what a `$` begins, up to the word that braces hold. -/
def isGlue (c : Char) : Bool := isNameChar c || "$(\x7b[!:=?+%/@*^,~-#".toList.contains c

/-- Joins the lines of what a `$` begins. -/
def glueDollar : Reader Unit := do
  glue "$(\x7b[".toList.contains
  match (← get).rest with
  | '$' :: '(' :: _ => pure ()
  | _ => glue isGlue

/-- Reads what a `$` begins; a `$` that begins nothing stands for itself. -/
def dollar (g : Ground) (inner : Mode → Reader Word) (mode : Mode) : Reader Word := do
  glueDollar
  let start ← get
  let quoted := mode.quoted
  let whole (p : Piece) : Reader Word := return { pieces := [p], source := between start (← get) }
  match start.rest with
  | '$' :: '(' :: '(' :: cs =>
    skip 3
    match g.dialect with
    | .plain =>
      let expression := (← plainCalculation inner start.line start.left).located
      whole (.result quoted expression.pieces)
    | .bash =>
      match (← calculationText? inner).filter (isBalanced 0) with
      | some text =>
        let expression := (← apart text start.line (inner .calculation)).located
        whole (.result quoted expression.pieces)
      | none =>
        if (balanced '(' ')' false 0 ('(' :: cs)).isNone then
          skip start.left
          fail (.unclosed (if cs.count '"' % 2 = 1 then "\"" else "((") start.line)
        else
          set start
          script start
  | '$' :: '(' :: _ => script start
  | '$' :: '\x7b' :: _ =>
    skip 2
    parameter g.dialect inner mode
  | '$' :: '[' :: cs =>
    if g.dialect = .plain then
      skip 1
      whole (.text quoted "$")
    else match balanced '[' ']' false 0 cs with
      | some (text, rest) =>
        let expression := (← apart text start.line (inner .calculation)).located
        skip (start.left - rest.length)
        whole (.result quoted expression.pieces)
      | none =>
        skip start.left
        fail (.unclosed "[" start.line)
  | '$' :: c :: cs =>
    if isNameStart c then
      let name := (c :: cs).takeWhile isNameChar
      skip (1 + name.length)
      whole (.value quoted false (.variable (String.ofList name)) none .plain [])
    else match Parameter.ofChar? c with
      | some p => skip 2; whole (.value quoted false p none .plain [])
      | none => skip 1; whole (.text quoted "$")
  | _ => skip 1; whole (.text quoted "$")
where
  script (start : Cursor) : Reader Word := do
    skip 2
    let text ← innerScript g start.line
    return { pieces := [.output mode.quoted start.line text], source := "$(" ++ text ++ ")" }

/-- Escapes in the quotes that a `$` begins in the large shell. -/
def quoteRule : EscapeRule := { Provider.formatRule false .bash with longZero := false, control := true }

/-- The text up to a single quote that no backslash stands before. -/
def escapedText : List Char → List Char
  | '\\' :: c :: cs => '\\' :: c :: escapedText cs
  | '\'' :: _ | [] => []
  | c :: cs => c :: escapedText cs

/-- A text between single quotes. -/
def singleQuoted (s : String) : String :=
  "'" ++ String.join (s.toList.map fun c => if c = '\'' then "'\\''" else String.ofList [c]) ++ "'"

/-- Characters that begin a pattern in parentheses. -/
def beginsGroup (c : Char) : Bool := "?*+@!".toList.contains c

/-- Reads the pieces up to the end that the mode sets, which stays. The first argument
bounds the steps. -/
def pieces (g : Ground) : Nat → Mode → Reader Word
  | 0, _ => return {}
  | steps + 1, mode => do
    let cursor ← get
    let large := g.dialect = .bash
    let on (front : List Piece) (source : String) : Reader Word :=
      return (← pieces g steps mode).after front source
    match cursor.rest with
    | [] => return {}
    | c :: rest =>
      let next := rest.head?
      if isOrdinary mode c && !mode.endsAt c then
        let run := cursor.rest.takeWhile (isOrdinary mode)
        skip run.length
        on [.text mode.quoted (String.ofList run)] (String.ofList run)
      else if large ∧ mode = .bare ∧ (c = '<' ∨ c = '>') ∧ next = some '(' then
        skip 2
        let text ← innerScript g cursor.line
        on [.process (c = '>') cursor.line text] (String.ofList [c, '('] ++ text ++ ")")
      else if mode.endsAt c then return {}
      else if c = '\\' then
        match rest with
        | [] => skip 1; return { pieces := [.text true "\\"], source := "\\" }
        | '\n' :: _ => skip 2; pieces g steps mode
        | next :: _ =>
          skip 2
          let text := if protects mode next then [next] else ['\\', next]
          on [.text true (String.ofList text)] (String.ofList ['\\', next])
      else if large ∧ c = '$' ∧ !mode.quoted ∧ next = some '\'' then
        let source := escapedText (rest.drop 1)
        skip (source.length + 2)
        if (← get).rest.isEmpty then fail (.unclosed "'" cursor.line)
        skip 1
        let text := Octet.text (Escape.resolve { quoteRule with wide := g.wide } (String.ofList source)).bytes
        let text := String.ofList (text.toList.takeWhile (· ≠ '\x00'))
        on [.text true text] (singleQuoted text)
      else if large ∧ c = '$' ∧ !mode.quoted ∧ next = some '"' then
        skip 1
        pieces g steps mode
      else if c = '$' then
        let w ← dollar g (pieces g steps) mode
        on w.pieces w.source
      else if c = '\x60' then
        let (text, n, closed) := backquoted (mode = .double) rest
        skip (n + 1)
        if !closed then fail (.unclosed "\x60" cursor.line)
        let line := if large then cursor.line else 1
        let script ← if large then pure (String.ofList text) else apart text 1 (g.script false)
        on [.output mode.quoted line script] (between cursor (← get))
      else if c = '\'' ∧ !mode.quoted then
        let text := rest.takeWhile (· ≠ '\'')
        skip (text.length + 1)
        if (← get).rest.isEmpty then fail (.unclosed "'" cursor.line)
        skip 1
        on [.text true (String.ofList text)] (between cursor (← get))
      else if c = '"' ∧ mode = .calculation ∧ large then
        skip 1
        pieces g steps mode
      else if c = '"' ∧ mode ≠ .document ∧ mode ≠ .calculation ∧ mode ≠ .enclosed then
        skip 1
        let inside := (← pieces g steps .double).located
        if (← get).rest.isEmpty then fail (.unclosed "\"" cursor.line)
        skip 1
        on (if inside.pieces.isEmpty then [.text true ""] else inside.pieces)
          ("\"" ++ inside.source ++ "\"")
      else if (mode = .subscript ∧ c = '[') ∨
          ((mode = .group ∨ mode = .regular ∨ mode = .enclosed) ∧ c = '(') then
        let (inside, closing) : Mode × String := match mode with
          | .subscript => (.subscript, "]")
          | .enclosed => (.enclosed, ")")
          | _ => (.group, ")")
        nested steps cursor.line [c] inside closing mode
      else if large ∧ cursor.extended ∧ (mode = .bare ∨ mode = .group) ∧ beginsGroup c ∧
          next = some '(' then
        nested steps cursor.line [c, '('] .group ")" mode
      else
        skip 1
        on [.text mode.quoted (String.ofList [c])] (String.ofList [c])
where
  /-- Reads what stands between brackets of one kind, and goes on behind them. -/
  nested (steps line : Nat) (front : List Char) (inside : Mode) (closing : String) (mode : Mode) :
      Reader Word := do
    skip front.length
    let w ← pieces g steps inside
    if (← get).rest.isEmpty then fail (.unclosed (String.ofList (front.drop (front.length - 1))) line)
    skip 1
    let front := String.ofList front
    return (← pieces g steps mode).after (.text false front :: w.pieces ++ [.text false closing])
      (front ++ w.source ++ closing)

/-- A word with neighbouring texts put together. -/
def neat (w : Word) : Word := { w with pieces := Word.joined w.located.pieces }

/-- Reads a word of the given kind. -/
def word (g : Ground) (mode : Mode) : Reader Word := do
  return neat (← pieces g ((← get).left + 1) mode)

/-- The word of a whole text that is read in a mode. -/
def wordOf (g : Ground) (mode : Mode) (line : Nat) (text : String) : Except ReadError Word :=
  match EStateM.run (word g mode) { rest := text.toList, line } with
  | .ok w _ => .ok w
  | .error e _ => .error e

/-- Goes over blanks, joined lines and a comment. -/
def blanks : Nat → Reader Unit
  | 0 => pure ()
  | steps + 1 => do
    match (← get).rest with
    | '\\' :: '\n' :: _ => skip 2; blanks steps
    | '#' :: cs => skip (1 + (cs.takeWhile (· ≠ '\n')).length)
    | c :: _ => if isBlank c then skip 1; blanks steps
    | [] => pure ()

/-! ### Values between parentheses -/

/-- The value of a list that a word gives. -/
def elementOf (w : Word) : Element Piece :=
  let plain : Element Piece := { value := w.pieces }
  match w.pieces with
  | .brackets _ inside :: .text false s :: rest =>
    let value (append : Bool) (cs : List Char) : Element Piece :=
      { subscript := some inside, append
        value := if cs.isEmpty then rest else .text false (String.ofList cs) :: rest }
    match s.toList with
    | '=' :: cs => value false cs
    | '+' :: '=' :: cs => value true cs
    | _ => plain
  | _ => plain

/-- Reads brackets, which come next, as a piece. -/
def brackets (g : Ground) (steps : Nat) : Reader Word := do
  let start ← get
  skip 1
  let inside := (← pieces g steps .subscript).located
  if (← get).rest.isEmpty then throw ⟨.unclosed "[" start.line, start.line⟩
  skip 1
  return { pieces := [.brackets inside.source (Word.joined inside.pieces)]
           source := "[" ++ inside.source ++ "]" }

/-- Operators that redirect, and the others, longer ones first. -/
def redirections : Dialect → List String
  | .plain => ["<<-", "<<", "<&", "<>", "<", ">>", ">&", ">|", ">"]
  | .bash => ["<<<", "<<-", "<<", "<&", "<>", "<", ">>", ">&", ">|", ">", "&>>", "&>"]

def operators : Dialect → List String
  | .plain => ["&&", "||", ";;", ";", "&", "|", "(", ")"]
  | .bash => ["&&", "||", ";;&", ";;", ";&", ";", "|&", "&", "|", "(", ")"]

def starting (table : List String) (cs : List Char) : Option String :=
  table.find? fun op => op.toList.isPrefixOf cs

/-- Reads the values of a list up to the parenthesis that closes it. -/
def elements (g : Ground) (opened : Nat) : Nat → Reader (List Word)
  | 0 => return []
  | steps + 1 => do
    blanks (← get).left
    let c ← get
    let process := "<(".toList.isPrefixOf c.rest || ">(".toList.isPrefixOf c.rest
    match c.rest with
    | [] => throw ⟨.unclosedList, opened⟩
    | '\n' :: _ => skip 1; elements g opened steps
    | ')' :: _ => skip 1; return []
    | '[' :: _ =>
      let front ← brackets g c.left
      let w ← pieces g c.left .bare
      return neat (w.after front.pieces front.source) :: (← elements g opened steps)
    | _ =>
      match if process then none else starting (redirections g.dialect ++ operators g.dialect) c.rest with
      | some op =>
        skip op.length
        fail (.element (.operator op))
      | none =>
        let w ← pieces g c.left .bare
        return neat w :: (← elements g opened steps)

/-- Reads a word where an assignment can stand. Brackets behind a name belong to it, and values
in parentheses behind its `=`. -/
def settingWord (g : Ground) : Reader Word := do
  let start ← get
  let name := start.rest.takeWhile isNameChar
  let after := start.rest.drop name.length
  let bracketed := start.fresh && after.head? == some '['
  if !isName (String.ofList name) ∨ !(bracketed ∨ beginsList after) then word g .bare
  else
    skip name.length
    let name := String.ofList name
    let index ← if bracketed then brackets g start.left else pure {}
    let front := index.after [.text false name] name
    let behind := (← get).rest
    if beginsList behind then
      let mark := if behind.head? = some '+' then "+=" else "="
      skip (mark.length + 1)
      let values ← elements g start.line start.left
      let source := "(" ++ String.intercalate " " (values.map (·.source)) ++ ")"
      let behind ← pieces g start.left .bare
      let value : List Piece :=
        if behind.pieces.isEmpty then [.list source (values.map elementOf)]
        else
          .text false "(" :: ((values.map (·.pieces)).intersperse [.text true " "]).flatten ++ [.text false ")"]
      return neat (behind.after (front.pieces ++ .text false mark :: value) (front.source ++ mark ++ source))
    else return neat ((← pieces g start.left .bare).after front.pieces front.source)
where
  beginsList : List Char → Bool
    | '=' :: '(' :: _ | '+' :: '=' :: '(' :: _ => true
    | _ => false

/-! ### Texts to read -/

/-- The line at the start of a text, how many ends of lines are joined in it, and what follows. -/
def joinedLine (joins : Bool) : List Char → List Char × Nat × List Char
  | '\\' :: c :: cs =>
    let (line, n, rest) := joinedLine joins cs
    if !joins then
      if c = '\n' then (['\\'], 0, c :: cs) else ('\\' :: c :: line, n, rest)
    else if c = '\n' then (line, n + 1, rest)
    else ('\\' :: c :: line, n, rest)
  | '\n' :: cs => ([], 0, '\n' :: cs)
  | c :: cs =>
    let (line, n, rest) := joinedLine joins cs
    (c :: line, n, rest)
  | [] => ([], 0, [])

/-- The lines up to the one that ends a text, how many lines these are with it, and the
rest if there is such a line. With `enclosed`, a parenthesis can stand behind the end. Lines are joined
unless the text is quoted. -/
def textLines (large enclosed tabs quoted : Bool) (finish : List Char) :
    Nat → List Char → List Char × Nat × Option (List Char)
  | 0, _ | _, [] => ([], 0, none)
  | steps + 1, cs =>
    let (line, joined, after) := joinedLine (!quoted) cs
    let text := if tabs then line.dropWhile (· = '\t') else line
    let behind := text.drop finish.length
    if text = finish ∧ (large ∨ joined = 0) then ([], joined + 1, some (after.drop 1))
    else if enclosed ∧ finish.isPrefixOf text ∧ behind.contains ')' then
      ([], joined, some (behind ++ after))
    else
      let (more, n, rest) := textLines large enclosed tabs quoted finish steps (after.drop 1)
      (text ++ after.take 1 ++ more, n + joined + 1, rest)

/-- Takes the lines of the texts that have been asked for, which come next. -/
def readDocuments (g : Ground) : Reader Unit := do
  let asked := (← get).pending
  modify fun c => { c with pending := [] }
  for p in asked do
    let c ← get
    let large := g.dialect = .bash
    let (text, n, rest) :=
      textLines large (large && c.enclosed) p.tabs p.quoted p.finish.toList (c.left + 1) c.rest
    let source := String.ofList text
    let after := rest.getD []
    modify fun c => { c with
      rest := after, left := after.length, line := c.line + n
      unended := if rest.isNone then c.unended ++ [(p.line, p.finish)] else c.unended }
    let content ← if p.quoted then pure [.text true source]
      else match wordOf g .document c.line source with
        | .ok w => pure w.pieces
        | .error e =>
          let last := c.line + c.rest.count '\n'
          match e.flaw, g.dialect with
          | .unclosed mark _, .plain =>
            throw { e with line := if mark = "\x7b" then c.line + n - 1 else last }
          | .unexpected .finish _ _, .plain => throw { e with line := last }
          | _, .plain => throw e
          | .unclosed mark _, .bash => pure [if mark = "\x7b" then .bad source else .unclosed mark source]
          | _, .bash => pure [.bad source]
    modify fun c => { c with documents := (p.number, { pieces := content, source }) :: c.documents }

/-! ### Tokens -/

/-- The variable or the element between braces that stands right in front of a redirection. -/
def directedName? (cs : List Char) : Option (List Char) :=
  match cs with
  | '\x7b' :: rest =>
    let name := rest.takeWhile isNameChar
    let behind := rest.drop name.length
    let subscript := match behind with
      | '[' :: cs => '[' :: cs.takeWhile (fun c => c ≠ ']' && !isBlank c && !"\n;&|<>()'\"".toList.contains c) ++ [']']
      | _ => []
    let whole := name ++ subscript
    match rest.drop whole.length with
    | '\x7d' :: c :: _ =>
      if whole.isPrefixOf rest ∧ isName (String.ofList name) ∧ (c = '<' ∨ c = '>') then some whole
      else none
    | _ => none
  | _ => none

/-- Reads a token. A number right in front of a redirection is a part of it. -/
def lex (g : Ground) : Reader Ahead := do
  let d := g.dialect
  blanks (← get).left
  let blank ← get
  if blank.rest.head?.any fun c => c.isDigit || "<>;&|()".toList.contains c then
    glue fun c => c.isDigit || "<>;&|()-".toList.contains c
  else if d = .bash ∧ !blank.patterns ∧ (blank.fresh ∨ blank.declaring) then
    glue fun c => isNameChar c || c = '+' || c = '=' || c = '('
  let start ← get
  let found (t : Token) : Reader Ahead := return ⟨t, (← get).line, start.left⟩
  match start.rest with
  | [] =>
    readDocuments g
    found .finish
  | '\n' :: _ =>
    skip 1
    readDocuments g
    return ⟨.newline, (← get).line - 1, start.left⟩
  | c :: cs =>
    let digits := start.rest.takeWhile Char.isDigit
    let after := start.rest.drop digits.length
    let numbered := !digits.isEmpty && (after.head? == some '<' || after.head? == some '>') &&
      (d = .bash || digits.length = 1)
    let name? := if d = .bash then directedName? start.rest else none
    let process := d = .bash && (c == '<' || c == '>') && cs.head? == some '('
    let front := if numbered then digits.length else ((name?.map (·.length + 2)).getD 0)
    match if process then none else starting (redirections d) (start.rest.drop front) with
    | some op =>
      skip (front + op.length)
      let number := digits.foldl (fun n c => 10 * n + (c.toNat - 48)) 0
      found (.redirect (if numbered then .number number
        else match name? with
          | some name => .variable (String.ofList name)
          | none => .standard) op)
    | none =>
      match if process then none else starting (operators d) (c :: cs) with
      | some op =>
        skip op.length
        found (.operator op)
      | none =>
        let setting := d = .bash && !start.patterns && (start.fresh || start.declaring)
        found (.word (← if setting then settingWord g else word g .bare))

/-- The token that comes next, with its place. -/
def ahead (g : Ground) : Reader Ahead := do
  match (← get).ahead with
  | some a => return a
  | none =>
    let a ← lex g
    modify fun c => { c with ahead := some a }
    return a

/-- The token that comes next, which is not taken. -/
def peek (g : Ground) : Reader Token := return (← ahead g).token

/-- Words that have a meaning of their own where a command begins. -/
def keywords (d : Dialect) : List String :=
  ["if", "then", "elif", "else", "fi", "while", "until", "for", "do", "done", "case", "in", "esac",
    "\x7b", "\x7d", "!"] ++
    if d = .bash then ["function", "[[", "select", "time", "coproc"] else []

def keyword? (d : Dialect) : Token → Option String
  | .word w =>
    if w.bare? = some w.source ∧ (keywords d).contains w.source then some w.source else none
  | _ => none

/-- Keywords behind which no command can begin. -/
def barren : List String := ["for", "case", "select", "in", "function", "[["]

/-- Commands of the large shell whose arguments can be assignments. -/
def declarers : List String :=
  ["alias", "declare", "export", "local", "readonly", "typeset", "eval", "let"]

/-- Takes the token that comes next. -/
def take (g : Ground) : Reader Token := do
  let t ← peek g
  modify fun c =>
    let c := { c with ahead := none }
    match t with
    | .word w =>
      if !c.fresh ∨ c.patterns then { c with fresh := false }
      else match keyword? g.dialect t with
        | some name => { c with fresh := !barren.contains name }
        | none =>
          if (Assignment.ofWord? .bash w).isSome then c
          else { c with fresh := false, declaring := declarers.contains w.source }
    | .redirect _ _ => c
    | .operator _ | .newline => { c with fresh := true, declaring := false }
    | .finish => c
  return t

end Reader

end ScriptSearch.Host.Shell
