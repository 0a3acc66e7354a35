import ScriptSearch.Host.Shell.Printed
import ScriptSearch.Host.Shell.Reader
import ScriptSearch.Text.Split

/-! How tokens make statements. A script is read a line at a time: a line's statements can
be run before the next line is read, and a flaw is found only when reading comes to it. -/

namespace ScriptSearch.Host.Shell.Reader

/-- Keywords and operators that can only come after a list of statements. -/
def endsList (d : Dialect) (t : Token) : Bool :=
  match t with
  | .finish => true
  | .operator op => [")", ";;", ";&", ";;&"].contains op
  | t => (keyword? d t).any
      ["then", "elif", "else", "fi", "do", "done", "esac", "\x7d"].contains

/-- A token as messages name it; keywords only where they count as such. -/
def Token.name (d : Dialect) (asKeyword : Bool) (t : Token) : String :=
  match t with
  | .word w => if asKeyword ∧ (keyword? d t).isSome then "\"" ++ w.source ++ "\"" else "word"
  | .redirect _ _ => "redirection"
  | .operator op => "\"" ++ op ++ "\""
  | .newline => "newline"
  | .finish => "end of file"

/-- Ends reading at the next token. The plain shell has read it by then. -/
def unexpected {α : Type} (g : Ground) (asKeyword : Bool) (expected : Option String) : Reader α := do
  let t ← peek g
  if g.dialect = .plain then discard (take g)
  fail (.unexpected t (Token.name g.dialect asKeyword t) expected)

/-- The keyword that comes next, if one does. -/
def nextKeyword (g : Ground) : Reader (Option String) := return keyword? g.dialect (← peek g)

/-- Whether an operator comes next. -/
def isNext (g : Ground) (op : String) : Reader Bool := do
  match ← peek g with
  | .operator found => return found == op
  | _ => return false

/-- Takes an operator, if it comes next. -/
def accept (g : Ground) (op : String) : Reader Bool := do
  let found ← isNext g op
  if found then discard (take g)
  return found

/-- Whether a token begins a statement that is made of others. -/
def beginsCompound (t : Token) : Bool :=
  match t with
  | .operator op => op == "("
  | t => (keyword? .bash t).any
      ["if", "while", "until", "for", "case", "\x7b", "[[", "select"].contains

/-- Goes on only with a statement that a function can have as its body. -/
def expectBody (g : Ground) : Reader Unit := do
  if g.dialect = .bash ∧ !beginsCompound (← peek g) then unexpected g false none

/-- Takes a keyword or an operator that has to come next. -/
def expect (g : Ground) (asKeyword : Bool) (mark : String) : Reader Unit := do
  if (← isNext g mark) ∨ (← nextKeyword g) = some mark then discard (take g)
  else unexpected g asKeyword (some ("\"" ++ mark ++ "\""))

/-- Goes over the ends of lines. -/
def newlines (g : Ground) : Nat → Reader Unit
  | 0 => pure ()
  | steps + 1 => do
    if let .newline ← peek g then
      discard (take g)
      newlines g steps

def allNewlines (g : Ground) : Reader Unit := do newlines g ((← get).left + 1)

/-- Takes a word that comes next. -/
def takeWord? (g : Ground) : Reader (Option Word) := do
  match ← peek g with
  | .word w =>
    discard (take g)
    return some w
  | _ => return none

/-! ### Redirections -/

/-- Asks for a text to read, which ends at a mark. -/
def document (descriptor : Descriptor) (tabs : Bool) (w : Word) : Reader Redirection := do
  let c ← get
  let finish := w.mark
  let p : Pending := ⟨c.asked, tabs, w.isQuoted, finish, c.line⟩
  set { c with asked := c.asked + 1, pending := c.pending ++ [p] }
  return ⟨descriptor, .document p.number tabs p.quoted finish, {}⟩

/-- Reads what a redirection is directed to. -/
def redirection (g : Ground) (descriptor : Descriptor) (op : String) : Reader Redirection := do
  let ⟨fresh, declaring⟩ := ((← get).fresh, (← get).declaring)
  modify fun c => { c with fresh := false, declaring := false }
  match ← target with
  | none => unexpected g false none
  | some w =>
    modify fun c => { c with fresh, declaring }
    let directed (action : Redirect) : Redirection := ⟨descriptor, action, w⟩
    match op with
    | "<" => return directed .input
    | ">|" => return directed (.output true)
    | ">>" => return directed .append
    | "<>" => return directed .inputOutput
    | "<&" => return directed (.copy false)
    | ">&" => return directed (.copy true)
    | "&>" => return directed (.both false)
    | "&>>" => return directed (.both true)
    | "<<<" => return directed .text
    | "<<" => document descriptor false w
    | "<<-" => document descriptor true w
    | _ => return directed (.output false)
where
  /-- The word behind the operator. In the large shell one that names a descriptor ends where a dash or a
  number does. -/
  target : Reader (Option Word) := do
    let ofText (text : String) : Word := { pieces := [.text false text], source := text }
    if g.dialect = .plain ∨ !(op == "<&" || op == ">&") then takeWord? g
    else
      blanks (← get).left
      match (← get).rest with
      | '-' :: _ =>
        skip 1
        return some (ofText "-")
      | _ =>
        match ← ahead g with
        | ⟨.redirect (.number n) next, line, start⟩ =>
          modify fun c => { c with ahead := some ⟨.redirect .standard next, line, start⟩ }
          return some (ofText (toString n))
        | _ => takeWord? g

/-- Reads redirections as long as there are any. -/
def redirectionList (g : Ground) : Nat → Reader (List Redirection)
  | 0 => return []
  | steps + 1 => do
    match ← peek g with
    | .redirect n op =>
      discard (take g)
      let r ← redirection g n op
      return r :: (← redirectionList g steps)
    | _ => return []

/-! ### Simple commands -/

/-- Whether a token can stand where a pipeline has no stages. -/
def endsPipeline : Token → Bool
  | .newline | .finish | .operator ";" => true
  | _ => false

/-- Takes the first token of a command, and gives the line that the command counts as standing
on: where that token ends. In the large shell the token after a first word counts too, with
the texts that are read at a line's end. -/
def beginCommand (g : Ground) : Reader Nat := do
  let first ← ahead g
  discard (take g)
  match g.dialect, first.token with
  | .bash, .word w =>
    if (Assignment.ofWord? .bash w).isSome then return first.line
    let second ← ahead g
    match second.token with
    | .finish => return first.line
    | _ => return second.line
  | _, _ => return first.line

/-- A simple command as it is gathered. -/
structure Gathering where
  line : Nat
  assignments : List Assignment := []
  words : List Word := []
  redirections : List Redirection := []

/-- Takes the name that comes next for the text that it stands for. A name does not stand for
itself within its text. -/
def unaliasOnce (g : Ground) : Reader Bool := do
  let a ← ahead g
  let c ← get
  match a.token with
  | .word w =>
    let blocked := c.inside.any fun (name, left) => name == w.source && left < a.start
    match if w.bare? = some w.source ∧ !blocked then c.aliases.lookup w.source else none with
    | some text =>
      let text := text.toList
      set { c with
        ahead := none, rest := text ++ c.rest, left := c.left + text.length
        inside := (w.source, c.left) :: c.inside.filter (·.2 < c.left) }
      return true
    | none => return false
  | _ => return false

/-- Puts texts in place of names that stand for them, at the start of a command. -/
def unalias (g : Ground) : Nat → Reader Unit
  | 0 => pure ()
  | steps + 1 => do
    if ← unaliasOnce g then unalias g steps

/-- How often names within the texts of names are looked up at most. -/
def aliasDepth : Nat := 1000

/-- Puts a text in place of a name that stands behind another one's text, which ends with a
blank. -/
def unaliasNext (g : Ground) : Reader Unit := do
  let c ← get
  if !c.inside.isEmpty then
    let a ← ahead g
    let c ← get
    let follows := c.inside.any fun (name, left) =>
      a.start ≤ left && ((c.aliases.lookup name).bind (·.toList.getLast?)).any isBlank
    if follows then
      modify fun c => { c with inside := c.inside.filter fun (_, left) => left < a.start }
      unalias g aliasDepth

/-- Reads assignments, words and redirections as long as there are any. -/
def gather (g : Ground) : Nat → Gathering → Reader Gathering
  | 0, found => return found
  | steps + 1, found => do
    unaliasNext g
    match ← peek g with
    | .word w =>
      discard (take g)
      gather g steps (add found w)
    | .redirect n op =>
      discard (take g)
      let r ← redirection g n op
      gather g steps { found with redirections := found.redirections ++ [r] }
    | _ => return found
where
  add (found : Gathering) (w : Word) : Gathering :=
    match if found.words.isEmpty then (Assignment.ofWord? g.dialect w).map (·.ownText w) else none with
    | some a => { found with assignments := found.assignments ++ [a] }
    | none => { found with words := found.words ++ [w] }

/-- Commands whose names no function can take in the plain shell. -/
def special : List String :=
  [".", ":", "break", "continue", "eval", "exec", "exit", "export", "readonly", "return", "set",
    "shift", "times", "trap", "unset"]

/-! ### Tests between double brackets -/

/-- Operators that take one operand. -/
def unaryOperators : List Char := "abcdefghknoprstuvwxzGLNORS".toList

def isUnaryOperator (w : Word) : Bool :=
  match w.bare?.map String.toList with
  | some ['-', c] => unaryOperators.contains c && w.bare? == some w.source
  | _ => false

/-- An operator between two operands. -/
def binaryOperator? : Token → Option String
  | .word w =>
    if ["=", "==", "!=", "=~", "-eq", "-ne", "-lt", "-le", "-gt", "-ge", "-nt", "-ot",
        "-ef"].contains w.source then some w.source else none
  | .redirect .standard "<" => some "<"
  | .redirect .standard ">" => some ">"
  | _ => none

/-- Whether a token closes a test. -/
def closesTest : Token → Bool
  | .word w => w.source == "]]"
  | _ => false

/-- A token as messages about tests show it. -/
def shownInTest : Token → Option String
  | .word w => if w.source = "]]" then some "]]" else none
  | .redirect _ op => some op
  | .operator op => some op
  | .newline => some "newline"
  | .finish => some "EOF"

/-- Ends reading with a message about a test. It has one form for a token that is shown and one
for any other. -/
def refuseTest {α : Type} (g : Ground) (form : Option String → String) : Reader α := do
  fail (.test (some (form (shownInTest (← peek g)))))

def marked (text : String) : String := "\x60" ++ text ++ "'"

/-- Reads the operand behind an operator. -/
def operand (g : Ground) (kind : String) : Reader Word := do
  let t ← peek g
  match t with
  | .word w =>
    if !closesTest t then
      discard (take g)
      return w
  | _ => pure ()
  refuseTest g fun
    | some shown => "unexpected argument " ++ marked shown ++ " to conditional " ++ kind ++ " operator"
    | none => "unexpected argument to conditional " ++ kind ++ " operator"

/-- Reads the operand behind an operator that takes a pattern or a regular expression. -/
def patternOperand (g : Ground) (op : String) : Reader Word := do
  let extended := (← get).extended
  if op = "=~" then
    blanks (← get).left
    match (← get).rest with
    | '\n' :: _ | [] => operand g "binary"
    | _ =>
      let w ← word g .regular
      if w.source = "" ∨ w.source = "]]" then fail (.test (some
        ("unexpected argument " ++ marked (if w.source = "" then ";" else "]]") ++
          " to conditional binary operator")))
      return w
  else
    modify fun c => { c with extended := extended || ["=", "==", "!="].contains op }
    let w ← operand g "binary"
    modify fun c => { c with extended }
    return w

/-- Reads a test of the given level: 0 for alternatives, 1 for parts that all hold, 2 for
one test. -/
def condition (g : Ground) : Nat → (level : Nat) → Reader Condition
  | 0, _ => fail (.test none)
  | steps + 1, 0 => do
    let first ← condition g steps 1
    if ← accept g "||" then return .either first (← condition g steps 0)
    return first
  | steps + 1, 1 => do
    let first ← condition g steps 2
    if ← accept g "&&" then return .both first (← condition g steps 1)
    return first
  | steps + 1, _ => do
    allNewlines g
    let t ← peek g
    match t with
    | .operator "(" =>
      discard (take g)
      let c ← condition g steps 0
      if !(← accept g ")") then
        refuseTest g fun
          | some shown => "unexpected token " ++ marked shown ++ ", expected \x60)'"
          | none => "expected \x60)'"
      allNewlines g
      return .enclosed c
    | .word w =>
      if w.source = "]]" then fail (.test none)
      discard (take g)
      if w.source = "!" then return .negation (← condition g steps 2)
      else if isUnaryOperator w then
        let c ← operand g "unary"
        allNewlines g
        return .unary w.source c
      else
        let next ← peek g
        match binaryOperator? next with
        | some op =>
          discard (take g)
          let right ← patternOperand g op
          allNewlines g
          return .binary op w right
        | none =>
          let ends := closesTest next || match next with
            | .operator op => ["&&", "||", ")"].contains op
            | _ => false
          if ends then return .single w
          else refuseTest g fun
            | some shown =>
              "unexpected token " ++ marked shown ++ ", conditional binary operator expected"
            | none => "conditional binary operator expected"
    | _ =>
      refuseTest g fun shown =>
        "unexpected token " ++ marked (shown.getD "") ++ " in conditional command"

/-- Reads a test up to the brackets that close it. -/
def wholeCondition (g : Ground) : Reader Condition := do
  let c ← condition g ((← get).left + 8) 0
  if closesTest (← peek g) then
    discard (take g)
    return c
  else refuseTest g fun
    | some "EOF" => "unexpected EOF while looking for \x60]]'"
    | some shown => "syntax error in conditional expression: unexpected token " ++ marked shown
    | none => "syntax error in conditional expression"

/-! ### Calculations -/

/-- Reads a calculation between double parentheses, if there is one here. -/
def calculation? (g : Ground) : Reader (Option (List Char)) := do
  if g.dialect = .plain ∨ !(← isNext g "(") then return none
  let c ← get
  match c.rest with
  | '(' :: cs =>
    skip 1
    match ← calculationText? (pieces g c.left) with
    | some text =>
      discard (take g)
      return some text
    | none =>
      set c
      if (balanced '(' ')' false 0 cs).isNone then
        throw ⟨.unclosed "((" c.line, c.line⟩
      return none
  | _ => return none

/-- The word of a calculation. -/
def calculationWord (g : Ground) (line : Nat) (text : List Char) : Reader Word := do
  let w ← apart text line (word g .calculation)
  return { w with source := String.ofList text }

/-- A text cut at semicolons that stand outside quotes, braces and scripts in it. `closers` are the marks
that close what is open. -/
def cutSemicolons : (closers : List Char) → List Char → List (List Char)
  | _, [] => [[]]
  | closers, '\\' :: c :: cs => add ['\\', c] (cutSemicolons closers cs)
  | closers, '$' :: '(' :: cs => add ['$', '('] (cutSemicolons (')' :: closers) cs)
  | closers, '$' :: '\x7b' :: cs => add ['$', '\x7b'] (cutSemicolons ('\x7d' :: closers) cs)
  | closers, c :: cs =>
    if c = ';' ∧ closers.isEmpty then [] :: cutSemicolons closers cs
    else if closers.head? = some c then add [c] (cutSemicolons closers.tail cs)
    else if closers.head? = some '\'' then add [c] (cutSemicolons closers cs)
    else if c = '"' ∨ c = '\x60' ∨ (c = '\'' ∧ closers.head? ≠ some '"') then
      add [c] (cutSemicolons (c :: closers) cs)
    else if c = '(' ∧ closers.head? = some ')' then add [c] (cutSemicolons (')' :: closers) cs)
    else add [c] (cutSemicolons closers cs)
where
  add (front : List Char) : List (List Char) → List (List Char)
    | part :: parts => (front ++ part) :: parts
    | [] => [front]

/-- The three calculations of a loop. -/
def loopCalculations (g : Ground) (line : Nat) (text : List Char) : Reader (Word × Word × Word) := do
  let source := "((" ++ String.ofList text ++ "))"
  let part (cs : List Char) : Reader Word := calculationWord g line (cs.dropWhile isBlank)
  match cutSemicolons [] text with
  | [a, b, c] => return (← part a, ← part b, ← part c)
  | _ :: _ :: _ :: _ => fail (.loopHead "syntax error: \x60;' unexpected" source)
  | _ => fail (.loopHead "syntax error: arithmetic expression required" source)

/-! ### Statements -/

/-- Both outputs of a stage go to the next one. -/
def bothOutputs : Redirection :=
  ⟨.number 2, .copy true, { pieces := [.text false "1"], source := "1" }⟩

/-- A stage with a redirection more. -/
def Stage.redirect (line : Nat) (r : Redirection) : Statement → Statement
  | .simple line assignments words rs => .simple line assignments words (rs ++ [r])
  | .redirected line s rs => .redirected line s (rs ++ [r])
  | s => .redirected line s [r]

/-- Says where patterns of a choice are read. -/
def setPatterns (on : Bool) : Reader Unit := modify fun c => { c with patterns := on }

mutual

/-- Statements up to a token that cannot be part of them. Without `empty` there has to be
one at least. -/
def body (g : Ground) : Nat → (empty : Bool) → Reader Statement
  | 0, _ => return .nothing
  | steps + 1, empty => do
    allNewlines g
    let t ← peek g
    match t with
    | .finish => return .nothing
    | _ =>
      if empty && endsList g.dialect t then return .nothing
      let first ← chain g steps
      match ← peek g with
      | .operator ";" =>
        discard (take g)
        return .sequence false first (← body g steps true)
      | .newline =>
        discard (take g)
        return .sequence true first (← body g steps true)
      | .operator "&" =>
        discard (take g)
        return .sequence false (.background first) (← body g steps true)
      | _ => return first

/-- Pipelines that depend on the success of those before. -/
def chain (g : Ground) : Nat → Reader Statement
  | 0 => return .nothing
  | steps + 1 => do links g steps (← pipeline g steps)

def links (g : Ground) : Nat → Statement → Reader Statement
  | 0, first => return first
  | steps + 1, first => do
    match ← peek g with
    | .operator "&&" =>
      discard (take g)
      allNewlines g
      links g steps (.chain true first (← pipeline g steps))
    | .operator "||" =>
      discard (take g)
      allNewlines g
      links g steps (.chain false first (← pipeline g steps))
    | _ => return first

def pipeline (g : Ground) : Nat → Reader Statement
  | 0 => return .nothing
  | steps + 1 => do
    unalias g aliasDepth
    let large := g.dialect = .bash
    match ← nextKeyword g with
    | some "!" =>
      discard (take g)
      let next ← nextKeyword g
      if large ∧ (next = some "!" ∨ next = some "time") then
        return .pipeline true [← pipeline g steps]
      if large && endsPipeline (← peek g) then return .pipeline true [.nothing]
      return .pipeline true (← stages g steps)
    | some "time" =>
      discard (take g)
      let standard ← option "-p"
      discard (option "--")
      if endsPipeline (← peek g) then return .timed standard .nothing
      return .timed standard (← pipeline g steps)
    | _ =>
      match ← stages g steps with
      | [stage] => return stage
      | stages => return .pipeline false stages
where
  /-- Takes an option behind a keyword. -/
  option (text : String) : Reader Bool := do
    match ← peek g with
    | .word w =>
      if w.source = text then
        modify fun c => { c with ahead := none, fresh := true }
        return true
      else return false
    | _ => return false

def stages (g : Ground) : Nat → Reader (List Statement)
  | 0 => return []
  | steps + 1 => do
    let first ← command g steps
    match ← peek g with
    | .operator "|" =>
      discard (take g)
      allNewlines g
      return first :: (← stages g steps)
    | .operator "|&" =>
      discard (take g)
      allNewlines g
      return Stage.redirect (← get).line bothOutputs first :: (← stages g steps)
    | _ => return [first]

def command (g : Ground) : Nat → Reader Statement
  | 0 => return .nothing
  | steps + 1 => do
    unalias g aliasDepth
    let t ← peek g
    let large := g.dialect = .bash
    match t, keyword? g.dialect t with
    | _, some "if" =>
      let line ← beginCommand g
      closing g line "fi" (← branch g steps)
    | _, some "while" | _, some "until" =>
      let line ← beginCommand g
      let condition ← body g steps false
      expect g true "do"
      let inner ← body g steps false
      closing g line "done" (.repetition (keyword? g.dialect t == some "until") condition inner)
    | _, some "for" => loop g steps
    | _, some "select" => selection g steps
    | _, some "case" =>
      let line ← beginCommand g
      match ← takeWord? g with
      | none => unexpected g true (some "word")
      | some w =>
        allNewlines g
        expect g true "in"
        setPatterns true
        let arms ← arms g steps
        setPatterns false
        redirected g line (.choice line w arms)
    | _, some "\x7b" =>
      let line ← beginCommand g
      closing g line "\x7d" (.group (← body g steps false))
    | _, some "function" =>
      discard (take g)
      match ← takeWord? g with
      | none => unexpected g true none
      | some w =>
        if ← accept g "(" then expect g false ")"
        modify fun c => { c with fresh := true }
        allNewlines g
        expectBody g
        return .definition (← get).line w.source (← command g steps)
    | _, some "[[" =>
      let line ← beginCommand g
      let c ← wholeCondition g
      redirected g line (.condition (← get).line c)
    | _, some "coproc" => companion g steps
    | .operator "(", _ =>
      let line := (← ahead g).line
      match ← calculation? g with
      | some text =>
        let expression ← calculationWord g line text
        let line := (← get).line
        redirected g line (.calculation line expression)
      | none =>
        discard (take g)
        let inner ← body g steps false
        let closed ← ahead g
        let line := if large then closed.line else line
        closing g line ")" (.subshell line inner)
    | .word _, name? =>
      if name?.isNone ∨ (name? = some "time" ∧ large) then simple g steps []
      else unexpected g true none
    | .redirect _ _, _ => simple g steps []
    | _, _ => unexpected g true none

/-- A simple command, or the definition of a function. -/
def simple (g : Ground) : Nat → List Word → Reader Statement
  | 0, _ => return .nothing
  | steps + 1, taken => do
    let start ← ahead g
    let (line, found) : Nat × Gathering ← do
      match taken, start.token with
      | [], .word w =>
        let line ← beginCommand g
        pure (line, gather.add g { line } w)
      | words, _ => pure (start.line, { line := start.line, words })
    let found ← gather g (← get).left found
    let found ← gather g ((← get).left + 2) found
    match ← isNext g "(", found.words, found.assignments, found.redirections with
    | true, [w], [], [] =>
      discard (take g)
      expect g false ")"
      let name := w.source
      if g.dialect = .plain ∧ (!isName name ∨ special.contains name) then fail (.functionName name)
      let line := (← get).line
      allNewlines g
      expectBody g
      return .definition line name (← command g steps)
    | _, words, assignments, redirections => return .simple line assignments words redirections

/-- A statement up to the keyword or operator that closes it, with its redirections. -/
def closing (g : Ground) (line : Nat) (mark : String) (s : Statement) : Reader Statement := do
  expect g true mark
  redirected g line s

def redirected (g : Ground) (line : Nat) (s : Statement) : Reader Statement := do
  let rs ← redirectionList g ((← get).left + 2)
  return if rs.isEmpty then s else .redirected line s rs

/-- A loop behind `for`, which comes next. -/
def loop (g : Ground) : Nat → Reader Statement
  | 0 => return .nothing
  | steps + 1 => do
    let line ← beginCommand g
    match ← calculation? g with
    | some text =>
      let (first, condition, after) ← loopCalculations g line text
      discard (accept g ";")
      allNewlines g
      closing' line (.counted line first condition after (← bracketedBody g steps))
    | none =>
      let t ← peek g
      match ← takeWord? g with
      | some w =>
        if g.dialect = .plain ∧ !(w.bare? = some w.source ∧ isName w.source) then
          fail (.loopVariable t w.source)
        let words ← loopWords g steps
        allNewlines g
        closing' line (.each line w.source words (← bracketedBody g steps))
      | none =>
        if g.dialect = .plain then
          discard (take g)
          fail (.loopVariable t "")
        else unexpected g true none
where
  closing' (line : Nat) (s : Statement) : Reader Statement := redirected g line s

/-- A loop in which words are offered. -/
def selection (g : Ground) : Nat → Reader Statement
  | 0 => return .nothing
  | steps + 1 => do
    let line ← beginCommand g
    match ← takeWord? g with
    | some w =>
      let words ← loopWords g steps
      allNewlines g
      redirected g line (.selection line w.source words (← bracketedBody g steps))
    | none => unexpected g true none

/-- The statements of a loop between their keywords, or in braces in the large shell. -/
def bracketedBody (g : Ground) : Nat → Reader Statement
  | 0 => return .nothing
  | steps + 1 => do
    let braces := g.dialect = .bash && (← nextKeyword g) == some "\x7b"
    expect g true (if braces then "\x7b" else "do")
    let inner ← body g steps false
    expect g true (if braces then "\x7d" else "done")
    return inner

/-- A part that runs beside the script. -/
def companion (g : Ground) : Nat → Reader Statement
  | 0 => return .nothing
  | steps + 1 => do
    let line ← beginCommand g
    if beginsCompound (← peek g) then return .companion line "COPROC" (← command g steps)
    match ← takeWord? g with
    | none => unexpected g true none
    | some w =>
      if beginsCompound (← peek g) then
        modify fun c => { c with fresh := true }
        return .companion line w.source (← command g steps)
      else return .companion line "COPROC" (← simple g steps [w])

/-- What follows an `if` or `elif`, up to the end that closes it. -/
def branch (g : Ground) : Nat → Reader Statement
  | 0 => return .nothing
  | steps + 1 => do
    let condition ← body g steps false
    expect g true "then"
    let inner ← body g steps false
    match ← nextKeyword g with
    | some "elif" =>
      discard (take g)
      return .branch condition inner (some (← branch g steps))
    | some "else" =>
      discard (take g)
      return .branch condition inner (some (← body g steps false))
    | _ => return .branch condition inner none

/-- The words of a loop, after its variable. -/
def loopWords (g : Ground) : Nat → Reader (Option (List Word))
  | 0 => return none
  | steps + 1 => do
    let start ← get
    allNewlines g
    if (← nextKeyword g) = some "in" then
      discard (take g)
      return some (← wordList g steps)
    else
      set start
      discard (accept g ";")
      modify fun c => { c with fresh := true }
      return none

/-- Words up to the end of a line or a semicolon. -/
def wordList (g : Ground) : Nat → Reader (List Word)
  | 0 => return []
  | steps + 1 => do
    match ← peek g with
    | .word w =>
      discard (take g)
      return w :: (← wordList g steps)
    | .operator ";" | .newline =>
      discard (take g)
      return []
    | _ => unexpected g false none

/-- The arms of a choice, up to the keyword that closes it. -/
def arms (g : Ground) : Nat → Reader (List (List Word × Statement × After))
  | 0 => return []
  | steps + 1 => do
    allNewlines g
    if (← nextKeyword g) = some "esac" then
      discard (take g)
      return []
    discard (accept g "(")
    let patterns ← patterns g steps
    expect g true ")"
    setPatterns false
    let inner ← body g steps true
    match ← peek g with
    | .operator ";;" => another g steps patterns inner .done
    | .operator ";&" => another g steps patterns inner .next
    | .operator ";;&" => another g steps patterns inner .matching
    | _ =>
      if (← nextKeyword g) = some "esac" then
        discard (take g)
        return [(patterns, inner, .done)]
      else unexpected g true (some "\";;\"")

def another (g : Ground) : Nat → List Word → Statement → After →
    Reader (List (List Word × Statement × After))
  | 0, _, _, _ => return []
  | steps + 1, patterns, inner, after => do
    discard (take g)
    setPatterns true
    return (patterns, inner, after) :: (← arms g steps)

/-- The patterns of an arm. -/
def patterns (g : Ground) : Nat → Reader (List Word)
  | 0 => return []
  | steps + 1 => do
    match ← takeWord? g with
    | some w =>
      if ← accept g "|" then return w :: (← patterns g steps)
      return [w]
    | none => unexpected g false (some "\")\"")

end

/-! ### Scripts -/

/-- A statement with the texts that have been read in their places. -/
def withDocuments (s : Statement) : Reader Statement := do
  let documents := (← get).documents
  if documents.isEmpty then return s
  return s.mapRedirections fun r =>
    match r.action with
    | .document number _ _ _ => { r with target := (documents.lookup number).getD r.target }
    | _ => r

/-- Reads the texts that a script in parentheses has asked for and that do not stand in it: from
behind the current line, or there are none. -/
def readBehind (g : Ground) : Reader Unit := do
  let c ← get
  if !c.pending.isEmpty then
    match g.dialect with
    | .plain =>
      set { c with rest := [], left := 0 }
      readDocuments g
      modify fun now => { now with rest := c.rest, left := c.left, unended := c.unended }
    | .bash =>
      let current := c.rest.takeWhile (· ≠ '\n')
      let behind := c.rest.drop (current.length + 1)
      let count := c.pending.length
      set { c with rest := behind, left := behind.length }
      readDocuments g
      modify fun now => { now with
        rest := current ++ '\n' :: now.rest, left := current.length + 1 + now.left
        borrowed := now.borrowed ++ [(c.line, count)] }

/-- Reads the statements of a script in a word. -/
def script (g : Ground) (closed : Bool) : Reader String := do
  let start ← get
  let size := 8 * start.left + 16
  let s ← body g size true
  if closed then
    if g.dialect = .bash ∧ (← peek g) matches .finish then fail (.unclosed "(" (← get).line)
    expect g true ")"
    readBehind g
    let s ← withDocuments s
    return if g.dialect = .bash then Printed.substitution s else ""
  else
    let next ← ahead g
    let text := String.ofList (start.rest.take (start.left - next.start))
    match next.token with
    | .finish => return text
    | t => if g.dialect = .plain && endsList .plain t then return text else unexpected g true none

/-- How deep scripts stand in words of scripts. -/
def nestingLimit : Nat := 1000

/-- What reading of words rests on, for scripts in words up to a depth. -/
def groundOf (d : Dialect) (wide : Bool) : Nat → Ground
  | 0 => { dialect := d, wide, script := fun _ => fail (.unclosed "(" 0) }
  | depth + 1 =>
    { dialect := d, wide, script := fun closed c => script (groundOf d wide depth) closed c }

def ground (d : Dialect) (wide : Bool) : Ground := groundOf d wide nestingLimit

/-- The statements of a line, up to its end. -/
def lineRest (g : Ground) (size : Nat) : Nat → Reader Statement
  | 0 => return .nothing
  | steps + 1 => do
    match ← peek g with
    | .finish => return .nothing
    | .newline => discard (take g); return .nothing
    | _ =>
      let first ← chain g size
      match ← peek g with
      | .newline => discard (take g); return first
      | .finish => return first
      | .operator ";" =>
        discard (take g)
        return .sequence false first (← lineRest g size steps)
      | .operator "&" =>
        discard (take g)
        return .sequence false (.background first) (← lineRest g size steps)
      | _ => unexpected g true none

/-- The statements of the next line, or nothing at the end of the script. -/
def line (g : Ground) : Reader (Option Statement) := do
  modify fun c => { c with fresh := true, declaring := false, documents := [], borrowed := [] }
  match ← peek g with
  | .finish => return none
  | _ =>
    let size := 8 * (← get).left + 16
    return some (← withDocuments (← lineRest g size size))

end ScriptSearch.Host.Shell.Reader
