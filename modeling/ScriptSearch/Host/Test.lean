import ScriptSearch.Host.FileTree
import ScriptSearch.Host.Numeral
import ScriptSearch.Host.Quoted

/-! Tests of files, texts and numbers that are written as arguments. The number of
arguments says how few of them are read; more of them are read as alternatives of parts
that all hold. The plain shell reads tests by a grammar of its own. -/

namespace ScriptSearch.Host.Test

/-- Why a test has no answer. -/
inductive Fault
  | openBracket
  | noNumber (arg : String)
  | unaryExpected (arg : String)
  | binaryExpected (arg : String)
  | argumentExpected (after : String)
  | parenthesisExpected (found : Option String)
  | spare (arg : String)
  deriving Repr

/-- The words for a fault; `wide` says how the program quotes. -/
def message (wide : Bool) : Provider → Fault → String
  | .bash, .openBracket => "missing \x60]'"
  | .plain, .openBracket => "missing ]"
  | .program, .openBracket => "missing ']'"
  | .bash, .noNumber arg => arg ++ ": integer expression expected"
  | .plain, .noNumber arg => "Illegal number: " ++ arg
  | .program, .noNumber arg => "invalid integer " ++ Quoted.plain wide arg
  | .program, .unaryExpected arg => Quoted.plain wide arg ++ ": unary operator expected"
  | _, .unaryExpected arg => arg ++ ": unary operator expected"
  | .program, .binaryExpected arg => Quoted.plain wide arg ++ ": binary operator expected"
  | _, .binaryExpected arg => arg ++ ": binary operator expected"
  | .program, .argumentExpected after => "missing argument after " ++ Quoted.plain wide after
  | .plain, .argumentExpected after => after ++ ": argument expected"
  | .bash, .argumentExpected _ => "argument expected"
  | .plain, .parenthesisExpected _ => "closing paren expected"
  | .bash, .parenthesisExpected none => "\x60)' expected"
  | .bash, .parenthesisExpected (some found) => "\x60)' expected, found " ++ found
  | .program, .parenthesisExpected none => "')' expected"
  | .program, .parenthesisExpected (some found) => "')' expected, found " ++ found
  | .plain, .spare arg => if arg = "" then "unexpected operator" else arg ++ ": unexpected operator"
  | .bash, .spare arg =>
    if arg.startsWith "-" then "syntax error: \x60" ++ arg ++ "' unexpected" else "too many arguments"
  | .program, .spare arg => "extra argument " ++ Quoted.plain wide arg

/-- What tests look at. -/
structure View where
  tree : FileTree
  here : Directory
  /-- Whether an option of the shell is set. -/
  isOn : String → Bool := fun _ => false
  /-- Whether a variable is set. -/
  isSet : String → Bool := fun _ => false
  /-- Whether a variable stands for another one. -/
  isReference : String → Bool := fun _ => false

/-- A property of what a path leads to. -/
def fileHas (v : View) (letter : Char) (path : String) : Bool :=
  match v.tree.locate v.here path with
  | .error _ => false
  | .ok d =>
    match v.tree.entry d with
    | .error _ => false
    | .ok e =>
      let own := FileTree.isOwn d.location
      let mode := v.tree.modeOf d.location e
      match letter, e with
      | 'a', _ | 'e', _ => true
      | 'f', .file _ | 'f', .tool _ | 'f', .record _ => true
      | 'd', .directory _ | 's', .directory _ | 's', .tool _ => true
      | 's', .file n => (v.tree.node n).text != ""
      | 's', .record text => text != ""
      | 'r', e => v.tree.permits .read d.location e
      | 'w', e => v.tree.permits .write d.location e
      | 'x', e => v.tree.permits .execute d.location e
      | 'O', _ | 'G', _ => own
      | 'u', _ => mode / 0o4000 % 2 = 1
      | 'g', _ => mode / 0o2000 % 2 = 1
      | 'k', _ => mode / 0o1000 % 2 = 1
      | 'c', .null | 'c', .zeros | 'c', .full | 'c', .sealed => true
      | _, _ => false

/-- Operators with one operand. -/
def unaryLetters : Provider → List Char
  | .plain => "bcdefghknprstuwxzLOGS".toList
  | .bash => "abcdefghknoprstuvwxzGLNORS".toList
  | .program => "bcdefghknprstuwxzGLNOS".toList

def isUnary (p : Provider) (arg : String) : Bool :=
  match arg.toList with
  | ['-', c] => (unaryLetters p).contains c
  | _ => false

/-- Comparisons of numbers. -/
def orders : List (String × (Int → Int → Bool)) :=
  [("-eq", fun a b => a == b), ("-ne", fun a b => a != b), ("-lt", fun a b => a < b),
    ("-le", fun a b => a ≤ b), ("-gt", fun a b => a > b), ("-ge", fun a b => a ≥ b)]

def binaries : Provider → List String
  | .bash => ["=", "==", "!=", "<", ">", "-nt", "-ot", "-ef"] ++ orders.map (·.1)
  | .plain => ["=", "!=", "<", ">", "-nt", "-ot", "-ef"] ++ orders.map (·.1)
  | .program => ["=", "==", "!=", "-nt", "-ot", "-ef"] ++ orders.map (·.1)

/-- The number that an operand is. -/
def number (p : Provider) (arg : String) : Except Fault Int :=
  let found := match p with
    | .plain => Numeral.decimal? arg
    | .bash => Numeral.decimalAmong? Numeral.isSpace Numeral.isBlank arg
    | .program => Numeral.decimalAmong? Numeral.isBlank Numeral.isBlank arg
  match found with
  | some n =>
    if p ≠ .program ∧ (n < -Numeral.signedMax - 1 ∨ Numeral.signedMax < n) then .error (.noNumber arg)
    else .ok n
  | none => .error (.noNumber arg)

def unary (p : Provider) (v : View) (letter : Char) (operand : String) : Except Fault Bool :=
  match letter with
  | 'n' => .ok (operand != "")
  | 'z' => .ok (operand == "")
  | 'h' | 'L' => .ok (v.tree.isLink v.here operand)
  | 'o' => .ok (v.isOn operand)
  | 'v' => .ok (v.isSet operand)
  | 'R' => .ok (v.isReference operand)
  | 't' => if p = .bash then .ok false else (number p operand).map fun _ => false
  | c => .ok (fileHas v c operand)

def binary (p : Provider) (v : View) (op a b : String) : Except Fault Bool :=
  match orders.lookup op with
  | some holds => do return holds (← number p a) (← number p b)
  | none =>
    match op with
    | "=" | "==" => .ok (a == b)
    | "!=" => .ok (a != b)
    | "<" => .ok (decide (a < b))
    | ">" => .ok (decide (b < a))
    | "-nt" => .ok (p ≠ .plain && v.tree.present v.here a && !v.tree.present v.here b)
    | "-ot" => .ok (p ≠ .plain && !v.tree.present v.here a && v.tree.present v.here b)
    | _ =>
      match v.tree.locate v.here a, v.tree.locate v.here b with
      | .ok d, .ok e =>
        let same := match v.tree.entry d, v.tree.entry e with
          | .ok (.file n), .ok (.file k) => n = k
          | _, _ => d = e
        .ok (same && v.tree.present v.here a)
      | _, _ => .ok false

/-! ### Tests of programs and of the large shell -/

/-- Arguments that are left. -/
abbrev Reading := StateT (List String) (Except Fault)

/-- What reading a test needs. -/
structure Reader where
  provider : Provider
  view : View
  /-- The last argument, which messages name. -/
  final : String

namespace Reader

def take : Reading String := do
  match ← get with
  | arg :: rest => set rest; return arg
  | [] => return ""

/-- Whether operands have to follow, and do not. -/
def short (r : Reader) (n : Nat) : Reading Unit := do
  if (← get).length < n then throw (.argumentExpected r.final)

def unaryOperator (r : Reader) : Reading Bool := do
  let op ← take
  if !isUnary r.provider op then throw (.unaryExpected op)
  short r 1
  match unary r.provider r.view (op.toList.getLastD ' ') (← take) with
  | .ok holds => return holds
  | .error e => throw e

def binaryOperator (r : Reader) : Reading Bool := do
  let a ← take
  let op ← take
  short r 1
  let b ← take
  match binary r.provider r.view op a b with
  | .ok holds => return holds
  | .error e => throw e

/-- A test of the given level: 0 for alternatives, 1 for parts that all hold, 2 for a part. -/
def term (r : Reader) : Nat → (level : Nat) → Reading Bool
  | 0, _ => return false
  | steps + 1, 0 => do
    let a ← term r steps 1
    match ← get with
    | "-o" :: rest =>
      set rest
      let b ← term r steps 0
      return a || b
    | _ => return a
  | steps + 1, 1 => do
    let a ← term r steps 2
    match ← get with
    | "-a" :: rest =>
      set rest
      let b ← term r steps 1
      return a && b
    | _ => return a
  | steps + 1, _ => do
    short r 1
    match ← get with
    | "!" :: rest =>
      set rest
      short r 1
      return !(← term r steps 2)
    | "(" :: rest =>
      set rest
      short r 1
      let holds ← term r steps 0
      match ← get with
      | [] => throw (.parenthesisExpected none)
      | found :: rest =>
        if found ≠ ")" then throw (.parenthesisExpected (some found))
        set rest
        return holds
    | args =>
      match args with
      | _ :: op :: _ :: _ =>
        if (binaries r.provider).contains op then binaryOperator r else single args
      | args => single args
where
  single (args : List String) : Reading Bool := do
    match args with
    | op :: _ :: _ =>
      if isUnary r.provider op then unaryOperator r
      else return (← take) != ""
    | _ => return (← take) != ""

def two (r : Reader) : Reading Bool := do
  match ← get with
  | "!" :: arg :: rest =>
    set rest
    return arg == ""
  | args =>
    match (args.headD "").toList with
    | ['-', _] => unaryOperator r
    | _ =>
      if r.provider = .program then throw (.argumentExpected r.final)
      else throw (.unaryExpected (args.headD ""))

def three (r : Reader) (steps : Nat) : Reading Bool := do
  match ← get with
  | [a, op, b] =>
    if (binaries r.provider).contains op then binaryOperator r
    else if r.provider = .bash ∧ (op = "-a" ∨ op = "-o") then
      set ([] : List String)
      return if op = "-a" then a != "" && b != "" else a != "" || b != ""
    else if a = "!" then
      set [op, b]
      return !(← two r)
    else if a = "(" ∧ b = ")" then
      set ([] : List String)
      return op != ""
    else if op = "-a" ∨ op = "-o" then term r steps 0
    else throw (.binaryExpected op)
  | _ => return false

/-- Reads a test by the number of its arguments. -/
def whole (r : Reader) : Reading Bool := do
  let args ← get
  let steps := 4 * args.length + 4
  let holds ← match args with
    | [] => return false
    | [_] => return (← take) != ""
    | [_, _] => two r
    | [_, _, _] => three r steps
    | ["!", a, b, c] =>
      set [a, b, c]
      let holds ← three r steps
      pure !holds
    | ["(", a, b, ")"] =>
      set [a, b]
      two r
    | _ => term r steps 0
  match ← get with
  | [] => return holds
  | arg :: _ => throw (.spare arg)

end Reader

/-! ### Tests of the plain shell -/

namespace Plain

/-- An argument as it counts where it stands. -/
inductive Token
  | finish
  | operand
  | op (text : String)
  deriving DecidableEq, Repr

def isBinary (arg : String) : Bool := (binaries .plain).contains arg

/-- How the first of the arguments counts, which depends on those behind it. -/
def token : List String → Token
  | [] => .finish
  | arg :: rest =>
    let alone := match rest with
      | [] => true
      | [_] => false
      | next :: _ => isBinary next
    if (isUnary .plain arg && !alone) || isBinary arg || arg == "-a" || arg == "-o" || arg == "!" ||
        arg == ")" || (arg == "(" && !rest.isEmpty) then .op arg
    else .operand

/-- The arguments from the one that is being looked at. -/
def forward (n : Nat) : Reading Unit := modify (·.drop n)

/-- The token behind the one that is being looked at. -/
def next : Reading Token := return token ((← get).drop 1)

mutual

def alternatives (v : View) : Nat → Token → Reading Bool
  | 0, _ => return false
  | steps + 1, t => do
    let a ← parts v steps t
    if (← next) = .op "-o" then
      forward 2
      let b ← alternatives v steps (token (← get))
      return a || b
    else return a

def parts (v : View) : Nat → Token → Reading Bool
  | 0, _ => return false
  | steps + 1, t => do
    let a ← part v steps t
    if (← next) = .op "-a" then
      forward 2
      let b ← parts v steps (token (← get))
      return a && b
    else return a

def part (v : View) : Nat → Token → Reading Bool
  | 0, _ => return false
  | steps + 1, .op "!" => do
    let t ← next
    if t ≠ .finish then forward 1
    return !(← part v steps t)
  | _, .finish => return false
  | steps + 1, .op "(" => do
    forward 1
    let t := token (← get)
    if t = .op ")" then return false
    let holds ← alternatives v steps t
    forward 1
    if token (← get) ≠ .op ")" then throw (.parenthesisExpected none)
    return holds
  | _, t => do
    match t with
    | .op op =>
      if isUnary .plain op then
        forward 1
        match ← get with
        | [] => throw (.argumentExpected op)
        | operand :: _ =>
          match unary .plain v (op.toList.getLastD ' ') operand with
          | .ok holds => return holds
          | .error e => throw e
      else operand v
    | _ => operand v

/-- A text, or an operator between two operands. -/
def operand (v : View) : Reading Bool := do
  let a := (← get).headD ""
  match ← next with
  | .op op =>
    if isBinary op then
      forward 2
      match ← get with
      | [] => throw (.argumentExpected op)
      | b :: _ =>
        match binary .plain v op a b with
        | .ok holds => return holds
        | .error e => throw e
    else return a != ""
  | _ => return a != ""

end

/-- Reads a test. -/
def whole (v : View) : List String → Except Fault Bool
  | [] => .ok false
  | "!" :: rest =>
    if rest.length = 2 ∨ rest.length = 3 then
      if rest.length = 2 ∧ isBinary (rest.headD "") then evaluate .operand ("!" :: rest)
      else return !(← whole v rest)
    else evaluate (token ("!" :: rest)) ("!" :: rest)
  | args =>
    match args with
    | [_, op, _] =>
      if isBinary op then evaluate .operand args else bracketed args
    | [_, _, _, _] => bracketed args
    | _ => evaluate (token args) args
where
  bracketed (args : List String) : Except Fault Bool :=
    if args.head? = some "(" ∧ args.getLast? = some ")" then
      let inner := (args.drop 1).dropLast
      evaluate (token inner) inner
    else evaluate (token args) args
  evaluate (t : Token) (args : List String) : Except Fault Bool := do
    match (alternatives v (4 * args.length + 4) t).run args with
    | .error e => .error e
    | .ok (holds, rest) =>
      match rest with
      | first :: _ :: _ => .error (.spare first)
      | _ => .ok holds

end Plain

/-- Whether a test holds. The name is that of the command; one that is a bracket has to be
closed by the last argument. -/
def holds (p : Provider) (v : View) (name : String) (args : List String) : Except Fault Bool := do
  let args ←
    if name = "[" then
      if args.getLast? = some "]" then .ok args.dropLast else .error .openBracket
    else .ok args
  if p = .plain then Plain.whole v args
  else
    match (Reader.whole ⟨p, v, args.getLastD ""⟩).run args with
    | .ok (holds, _) => .ok holds
    | .error e => .error e

end ScriptSearch.Host.Test
