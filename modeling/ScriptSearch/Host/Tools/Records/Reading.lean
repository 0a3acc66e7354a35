import ScriptSearch.Host.Real
import ScriptSearch.Host.Tools.Records.Token
import ScriptSearch.Host.Tools.Records.Value

/-! Reading scripts on records from tokens. Operators bind the more strongly the later their reader
comes here; what is printed cannot hold a comparison or a pipe outside brackets, as these say where
it goes. -/

namespace ScriptSearch.Host.Records

/-- Where a statement stands. -/
structure Place where
  inLoop : Bool := false
  inFunction : Bool := false
  /-- Whether it is done for a record. -/
  forRecord : Bool := false

structure Cursor where
  rest : List Lexeme
  /-- Functions that are called: the name, the number of arguments, and the line. -/
  called : List (String × Nat × Nat) := []

abbrev Reader := StateT Cursor (Except Flaw)

/-- The next token. -/
def peek : Reader Token := return ((← get).rest.head?.map (·.token)).getD .finish

/-- The line of the next token; none has the number zero. -/
def line : Reader Nat := return ((← get).rest.head?.map (·.line)).getD 0

/-- The next token but one. -/
def peekSecond : Reader Token := return (((← get).rest.drop 1).head?.map (·.token)).getD .finish

def advance : Reader Unit := modify fun c => { c with rest := c.rest.tail }

def flaw {α : Type} (text : String) : Reader α := do throw ⟨← line, text⟩

/-- What is wrong with a token that cannot stand where it does. -/
def unexpected {α : Type} : Reader α := do
  let l := (← get).rest.head?.getD ⟨.finish, 1, 0, 0⟩
  let ends : Bool := match l.token with
    | .newline | .supplied | .sign ";" | .finish => true
    | _ => false
  if l.brackets ≠ 0 ∧ ends then flaw ("missing ) near " ++ l.token.shown)
  else if l.braces ≠ 0 ∧ l.token = .finish then flaw "missing \x7d near end of file"
  else flaw ("syntax error at or near " ++ l.token.shown)

/-- Finds that an expression for texts cannot be read. -/
def checkRegex (s : String) : Reader Unit := do
  if let .error f := regexOf s then flaw (f.compileMessage s)

/-- Checks a text that is used as an expression for texts. -/
def checkPattern : Expr → Reader Unit
  | .text s => checkRegex s
  | _ => return

/-- Takes a sign, or finds it missing. -/
def expect (sign : String) : Reader Unit := do
  if (← peek) = .sign sign then advance else unexpected

/-- Takes a sign if it comes next. -/
def takes (sign : String) : Reader Bool := do
  if (← peek) = .sign sign then
    advance
    return true
  else return false

/-- Passes over line ends. -/
def skipLines : Reader Unit := do
  if (← peek) = .newline then advance

/-- Takes the end of a statement. -/
def separator : Reader Unit := do
  match ← peek with
  | .newline | .supplied | .sign ";" => advance
  | _ => unexpected

/-- Whether an expression is something that can be given a value. -/
def Expr.isPlace : Expr → Bool
  | .name _ | .element _ _ | .field _ => true
  | _ => false

/-- Operators that give a value to a place. -/
def assignments : List (String × Option Operator) :=
  [("=", none), ("+=", some .plus), ("-=", some .minus), ("*=", some .times), ("/=", some .divided),
    ("%=", some .modulo), ("^=", some .power)]

def comparisons : List (String × Comparison) :=
  [("<", .less), ("<=", .lessEqual), ("==", .equal), ("!=", .unequal), (">", .greater), (">=", .greaterEqual)]

/-- Whether a token can begin an operand that is put behind another. -/
def Token.beginsOperand : Token → Bool
  | .number _ | .text _ | .regex _ | .name _ | .function _ | .builtin _ => true
  | .sign s => ["(", "!", "$", "++", "--"].contains s
  | .keyword s => s = "getline"
  | _ => false

/-- The value of a numeral. -/
def Expr.ofNumeral (s : String) : Expr :=
  match Real.read Real.word s.toList with
  | some { number := ⟨_, .finite num den⟩, .. } =>
    .number ((Float.ofNat num).scaleB (-(Nat.log2 den : Int)))
  | some { number := ⟨_, .infinite⟩, .. } => .number (1.0 / 0.0)
  | _ => .number 0.0

mutual

/-- An expression. In what is printed it is `bare`. The first argument of all readers bounds the
steps. -/
def expression : Nat → (bare : Bool) → Reader Expr
  | 0, _ => unexpected
  | steps + 1, bare => do
    let c ← alternatives steps bare none
    if ← takes "?" then
      let a ← expression steps bare
      skipLines
      expect ":"
      skipLines
      return .choose c a (← expression steps bare)
    else return c

/-- Expressions that one of is enough. -/
def alternatives : Nat → (bare : Bool) → Option Expr → Reader Expr
  | 0, _, _ => unexpected
  | steps + 1, bare, a? => do
    let b ← conjunction steps bare none
    let a := match a? with
      | some a => .or a b
      | none => b
    if ← takes "||" then alternatives steps bare (some a) else return a

/-- Expressions that all count. -/
def conjunction : Nat → (bare : Bool) → Option Expr → Reader Expr
  | 0, _, _ => unexpected
  | steps + 1, bare, a? => do
    let b ← membership steps bare none
    let a := match a? with
      | some a => .and a b
      | none => b
    if ← takes "&&" then conjunction steps bare (some a) else return a

/-- An expression that is looked for in tables. -/
def membership : Nat → (bare : Bool) → Option Expr → Reader Expr
  | 0, _, _ => unexpected
  | steps + 1, bare, a? => do
    let a ← match a? with
      | some a => pure a
      | none => searching steps bare none
    if (← peek) = .keyword "in" then
      advance
      match ← peek with
      | .name table =>
        advance
        membership steps bare (some (.member [a] table))
      | _ => unexpected
    else return a

/-- Expressions of which the second is searched for in the first. -/
def searching : Nat → (bare : Bool) → Option Expr → Reader Expr
  | 0, _, _ => unexpected
  | steps + 1, bare, a? => do
    let a ← match a? with
      | some a => pure a
      | none => comparing steps bare none
    let negated : Bool := (← peek) = .sign "!~"
    if negated ∨ (← peek) = .sign "~" then
      advance
      let b ← comparing steps bare none
      checkPattern b
      searching steps bare (some (.search negated a b))
    else return a

/-- Expressions that are compared. -/
def comparing : Nat → (bare : Bool) → Option Expr → Reader Expr
  | 0, _, _ => unexpected
  | steps + 1, bare, a? => do
    let a ← match a? with
      | some a => pure a
      | none => assigned steps bare
    match ← peek with
    | .sign s =>
      match if bare ∧ s = ">" then none else comparisons.lookup s with
      | some c =>
        advance
        comparing steps bare (some (.compare c a (← assigned steps bare)))
      | none => return a
    | _ => return a

/-- Operands put together, or a place that is given a value. -/
def assigned : Nat → (bare : Bool) → Reader Expr
  | 0, _ => unexpected
  | steps + 1, bare => do
    let a ← together steps bare none
    match ← peek with
    | .sign s =>
      match if a.isPlace then assignments.lookup s else none with
      | some op =>
        advance
        return .assign op a (← expression steps bare)
      | none => return a
    | _ => return a

/-- Operands put together. -/
def together : Nat → (bare : Bool) → Option Expr → Reader Expr
  | 0, _, _ => unexpected
  | steps + 1, bare, a? => do
    let b ← sum steps bare none
    let a := match a? with
      | some a => .concat a b
      | none => b
    if (← peek).beginsOperand then together steps bare (some a) else return a

/-- Sums and differences. -/
def sum : Nat → (bare : Bool) → Option Expr → Reader Expr
  | 0, _, _ => unexpected
  | steps + 1, bare, a? => do
    let a ← match a? with
      | some a => pure a
      | none => product steps bare none
    if ← takes "+" then sum steps bare (some (.binary .plus a (← product steps bare none)))
    else if ← takes "-" then sum steps bare (some (.binary .minus a (← product steps bare none)))
    else return a

/-- Products and quotients. -/
def product : Nat → (bare : Bool) → Option Expr → Reader Expr
  | 0, _, _ => unexpected
  | steps + 1, bare, a? => do
    let a ← match a? with
      | some a => pure a
      | none => signed steps bare
    if ← takes "*" then product steps bare (some (.binary .times a (← signed steps bare)))
    else if ← takes "/" then product steps bare (some (.binary .divided a (← signed steps bare)))
    else if ← takes "%" then product steps bare (some (.binary .modulo a (← signed steps bare)))
    else return a

/-- An operand with signs in front. -/
def signed : Nat → (bare : Bool) → Reader Expr
  | 0, _ => unexpected
  | steps + 1, bare => do
    if ← takes "!" then return .not (← signed steps bare)
    else if ← takes "-" then return .minus (← signed steps bare)
    else if ← takes "+" then return .plus (← signed steps bare)
    else piped steps bare none

/-- An operand, which may be a command to read from. -/
def piped : Nat → (bare : Bool) → Option Expr → Reader Expr
  | 0, _, _ => unexpected
  | steps + 1, bare, a? => do
    let a ← match a? with
      | some a => pure a
      | none => power steps
    if !bare ∧ (← peek) = .sign "|" ∧ (← peekSecond) = .keyword "getline" then
      advance
      advance
      let target ← place? steps
      piped steps bare (some (.getline (.command a) target))
    else return a

/-- Powers. -/
def power : Nat → Reader Expr
  | 0 => unexpected
  | steps + 1 => do
    let a ← stepped steps
    if ← takes "^" then return .binary .power a (← exponent steps) else return a

/-- What stands behind the sign for a power. -/
def exponent : Nat → Reader Expr
  | 0 => unexpected
  | steps + 1 => do
    if ← takes "!" then return .not (← exponent steps)
    else if ← takes "-" then return .minus (← exponent steps)
    else if ← takes "+" then return .plus (← exponent steps)
    else power steps

/-- An operand that may be counted up or down behind. -/
def stepped : Nat → Reader Expr
  | 0 => unexpected
  | steps + 1 => do
    let a ← operand steps
    if !a.isPlace then return a
    if ← takes "++" then return .step a true false
    else if ← takes "--" then return .step a false false
    else return a

/-- The number of a field. -/
def fieldNumber : Nat → Reader Expr
  | 0 => unexpected
  | steps + 1 => do
    if ← takes "-" then return .minus (← fieldNumber steps)
    else if ← takes "+" then return .plus (← fieldNumber steps)
    else if ← takes "!" then return .not (← fieldNumber steps)
    else operand steps

/-- A place that a record is read into, if one comes next. -/
def place? : Nat → Reader (Option Expr)
  | 0 => return none
  | steps + 1 => do
    match ← peek with
    | .name _ | .sign "$" => return some (← operand steps)
    | _ => return none

/-- Expressions with commas between them. -/
def list : Nat → (bare : Bool) → Reader (List Expr)
  | 0, _ => unexpected
  | steps + 1, bare => do
    let e ← expression steps bare
    if ← takes "," then
      skipLines
      return e :: (← list steps bare)
    else return [e]

/-- The arguments of a function, between brackets. -/
def arguments : Nat → Reader (List Expr)
  | 0 => unexpected
  | steps + 1 => do
    expect "("
    if ← takes ")" then return []
    let es ← list steps false
    expect ")"
    return es

/-- An operand. -/
def operand : Nat → Reader Expr
  | 0 => unexpected
  | steps + 1 => do
    match ← peek with
    | .number s =>
      advance
      return .ofNumeral s
    | .text s =>
      advance
      return .text s
    | .regex s =>
      checkRegex s
      advance
      return .regex s
    | .sign "(" =>
      advance
      match ← list steps false with
      | [e] =>
        expect ")"
        return .group e
      | es =>
        expect ")"
        if (← peek) ≠ .keyword "in" then unexpected
        advance
        match ← peek with
        | .name table =>
          advance
          return .member es table
        | _ => unexpected
    | .sign "$" =>
      advance
      return .field (← fieldNumber steps)
    | .sign "++" =>
      advance
      let e ← operand steps
      if e.isPlace then return .step e true true else unexpected
    | .sign "--" =>
      advance
      let e ← operand steps
      if e.isPlace then return .step e false true else unexpected
    | .name s =>
      advance
      if ← takes "[" then
        let keys ← list steps false
        expect "]"
        return .element s keys
      else return .name s
    | .function s =>
      let here ← line
      advance
      let args ← arguments steps
      modify fun c => { c with called := (s, args.length, here) :: c.called }
      return .call s args
    | .builtin s =>
      advance
      match builtins.lookup s with
      | none => unexpected
      | some (b, least, most) =>
        if b = .length ∧ (← peek) ≠ .sign "(" then return .builtin b []
        if b = .split ∧ (← peekSecond) = .sign ")" then
          advance
          unexpected
        let args ← arguments steps
        if args.length < least ∨ most < args.length then
          flaw ("wrong number of arguments in call to " ++ s)
        match b, args with
        | .sub, e :: _ | .gsub, e :: _ | .matchAt, [_, e] => checkPattern e
        | .split, [_, _, .text t] => if t.length ≠ 1 then checkRegex t
        | _, _ => pure ()
        return .builtin b args
    | .keyword "getline" =>
      advance
      let target ← place? steps
      if ← takes "<" then return .getline (.file (← stepped steps)) target
      else return .getline .input target
    | _ => unexpected

end

/-! ### Statements -/

/-- Whether what is printed stands between brackets: whether the bracket that closes is followed by
the end of the statement, with a comma inside. -/
def isBracketed (ls : List Lexeme) : Bool :=
  let rec go : Nat → (comma : Bool) → List Lexeme → Bool
    | _, _, [] => false
    | depth, comma, l :: ls =>
      match l.token with
      | .sign "(" => go (depth + 1) comma ls
      | .sign ")" =>
        if depth = 1 then
          match (ls.head?.map (·.token)).getD .finish with
          | .newline | .supplied | .finish => true
          | .sign s => [";", ">", ">>", "|"].contains s
          | _ => false
        else go (depth - 1) comma ls
      | .sign "," => go depth true ls
      | .newline | .finish => false
      | _ => go depth comma ls
  match ls with
  | l :: _ => l.token = .sign "(" && go 0 false ls
  | [] => false

/-- Where what is printed goes. -/
def outlet? (steps : Nat) : Reader (Option (Outlet × Expr)) := do
  if ← takes ">" then return some (.replacing, ← expression steps false)
  else if ← takes ">>" then return some (.appending, ← expression steps false)
  else if ← takes "|" then return some (.command, ← expression steps false)
  else return none

def printing (steps : Nat) (formatted : Bool) : Reader Statement := do
  advance
  let here := (← get).rest
  let args ← match ← peek with
    | .newline | .supplied | .finish => pure []
    | .sign s =>
      if [";", ">", ">>", "|"].contains s then pure []
      else if isBracketed here then arguments steps
      else list steps true
    | _ => list steps true
  if formatted ∧ args.isEmpty then flaw "no arguments in call to printf"
  let outlet ← outlet? steps
  separator
  return .print formatted args outlet

/-- An expression, unless something else comes next. -/
def expressionUnless (steps : Nat) (stops : Token → Bool) : Reader (Option Expr) := do
  if stops (← peek) then return none else return some (← expression steps false)

/-- Whether a token ends a statement. -/
def Token.isEnd : Token → Bool
  | .newline | .supplied | .sign ";" => true
  | _ => false

mutual

/-- A statement. -/
def statement : Nat → Place → Reader Statement
  | 0, _ => unexpected
  | steps + 1, p => do
    match ← peek with
    | .sign "\x7b" =>
      advance
      return .block (← body steps p)
    | .newline | .supplied | .sign ";" =>
      advance
      return .block []
    | .keyword "print" => printing steps false
    | .keyword "printf" => printing steps true
    | .keyword "if" =>
      advance
      expect "("
      let c ← expression steps false
      expect ")"
      skipLines
      let a ← statement steps p
      if (← peek) = .keyword "else" then
        advance
        skipLines
        return .choose c a (some (← statement steps p))
      else return .choose c a none
    | .keyword "while" =>
      advance
      expect "("
      let c ← expression steps false
      expect ")"
      if ← takes ";" then return .while c (.block [])
      skipLines
      return .while c (← statement steps { p with inLoop := true })
    | .keyword "do" =>
      advance
      skipLines
      let b ← statement steps { p with inLoop := true }
      if (← peek) ≠ .keyword "while" then unexpected
      advance
      expect "("
      let c ← expression steps false
      expect ")"
      separator
      return .doWhile b c
    | .keyword "for" =>
      advance
      expect "("
      loop steps p
    | .keyword "next" =>
      if !p.forRecord then flaw "improper use of next"
      advance
      separator
      return .next
    | .keyword "nextfile" =>
      if !p.forRecord then flaw "improper use of nextfile"
      advance
      separator
      return .nextFile
    | .keyword "exit" =>
      advance
      let e ← expressionUnless steps Token.isEnd
      separator
      return .exit e
    | .keyword "return" =>
      if !p.inFunction then flaw "return outside function body"
      advance
      let e ← expressionUnless steps Token.isEnd
      separator
      return .giveBack e
    | .keyword "break" =>
      if !p.inLoop then flaw "break statement outside of loop"
      advance
      separator
      return .leaveLoop
    | .keyword "continue" =>
      if !p.inLoop then flaw "continue statement outside of loop"
      advance
      separator
      return .nextRound
    | .keyword "delete" =>
      advance
      match ← peek with
      | .name table =>
        advance
        let keys ← if ← takes "[" then do
            let keys ← list steps false
            expect "]"
            pure (some keys)
          else pure none
        separator
        return .delete table keys
      | _ => unexpected
    | _ =>
      let e ← expression steps false
      separator
      return .simple e

/-- A loop, behind the bracket that opens. -/
def loop : Nat → Place → Reader Statement
  | 0, _ => unexpected
  | steps + 1, p => do
    let inside := { p with inLoop := true }
    match (← get).rest with
    | ⟨.name n, _, _, _⟩ :: ⟨.keyword "in", _, _, _⟩ :: ⟨.name table, _, _, _⟩ :: ⟨.sign ")", _, _, _⟩ :: _ =>
      advance
      advance
      advance
      advance
      skipLines
      return .each n table (← statement steps inside)
    | _ =>
      let start ← expressionUnless steps (· == .sign ";")
      expect ";"
      let c ← expressionUnless steps (· == .sign ";")
      expect ";"
      let next ← expressionUnless steps (· == .sign ")")
      expect ")"
      if ← takes ";" then return .count start c next (.block [])
      skipLines
      return .count start c next (← statement steps inside)

/-- Statements up to a brace. -/
def body : Nat → Place → Reader (List Statement)
  | 0, _ => unexpected
  | steps + 1, p => do
    match ← peek with
    | .sign "\x7d" =>
      advance
      return []
    | .finish => unexpected
    | _ =>
      let s ← statement steps p
      return s :: (← body steps p)

end

/-! ### Scripts -/

/-- The names of parameters, behind the bracket that opens. -/
def parameters : Nat → (before : List String) → Reader (List String)
  | 0, _ => unexpected
  | steps + 1, before => do
    match ← peek with
    | .sign ")" =>
      advance
      return before
    | .name s =>
      if before.contains s then flaw (s ++ " is duplicated in argument list")
      advance
      if ← takes "," then
        skipLines
        if (← peek) = .sign ")" then unexpected
      else if (← peek) ≠ .sign ")" then unexpected
      parameters steps (before ++ [s])
    | _ => unexpected

def function (steps : Nat) (s : Script) : Reader Script := do
  advance
  match ← peek with
  | .function name | .name name =>
    if (← peekSecond) ≠ .sign "(" then
      advance
      unexpected
    if s.functions.any (·.name = name) then flaw ("redefinition of " ++ name)
    advance
    advance
    let parameters ← parameters steps []
    skipLines
    expect "\x7b"
    let body ← body steps { inFunction := true }
    return { s with functions := s.functions ++ [{ name, parameters, body }] }
  | _ => unexpected

/-- What is done for a pattern, or nothing if records are printed. -/
def ruleBody (steps : Nat) : Reader (Option (List Statement)) := do
  match ← peek with
  | .sign "\x7b" =>
    advance
    return some (← body steps { forRecord := true })
  | .newline | .sign ";" =>
    advance
    return none
  | _ => unexpected

/-- What is done before or behind all records. -/
def outerBody (steps : Nat) : Reader (List Statement) := do
  advance
  if (← peek) ≠ .sign "\x7b" then unexpected
  advance
  body steps {}

/-- Reads rules and functions up to the end. The first argument bounds the steps. -/
def script : Nat → Script → Reader Script
  | 0, s => return s
  | steps + 1, s => do
    let add (r : Rule) : Reader Script := script steps { s with rules := s.rules ++ [r] }
    match ← peek with
    | .finish => return s
    | .newline =>
      advance
      script steps s
    | .keyword "BEGIN" => add { pattern := .first, body := some (← outerBody steps) }
    | .keyword "END" => add { pattern := .last, body := some (← outerBody steps) }
    | .keyword "function" => script steps (← function steps s)
    | .sign "\x7b" => add { pattern := .always, body := ← ruleBody steps }
    | _ =>
      let e ← expression steps false
      if ← takes "," then
        skipLines
        let finish ← expression steps false
        add { pattern := .range e finish, body := ← ruleBody steps }
      else add { pattern := .whenever e, body := ← ruleBody steps }

/-- What is wrong with calls of functions. -/
def callFlaw? (s : Script) (called : List (String × Nat × Nat)) (lastLine : Nat) : Option Flaw :=
  called.reverse.findSome? fun (name, count, line) =>
    match s.functions.find? (·.name = name) with
    | none => some ⟨lastLine, "function " ++ name ++ " never defined"⟩
    | some f =>
      if f.parameters.length < count then some ⟨line, "too many arguments in call to " ++ name⟩ else none

/-- Reads a script. -/
def Script.ofString (text : String) : Except Lexing Script :=
  let (ls, end?) := tokens text
  let steps := 40 * ls.length + 100
  match (script steps {}).run { rest := ls } with
  | .ok (s, c) =>
    match end?, callFlaw? s c.called ((ls.getLast?.map (·.line)).getD 1) with
    | some e, _ => .error e
    | none, some f => .error (.flaw f)
    | none, none => .ok s
  | .error f =>
    match end? with
    | some e => .error (if f.line = 0 then e else .flaw f)
    | none => .error (.flaw f)

end ScriptSearch.Host.Records
