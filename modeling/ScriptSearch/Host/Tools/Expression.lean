import ScriptSearch.Host.Regex
import ScriptSearch.Host.Tools.Work

/-! Expressions given as arguments: whole numbers of any size, texts, and how they are compared,
reckoned with and searched. Arguments are first read as an expression. Where they stop making
sense the expression holds a flaw, which shows when the evaluation comes to it. -/

namespace ScriptSearch.Host.Expression

/-- What joins two expressions. -/
inductive Joint
  | either | both
  | less | lessEqual | equal | unequal | greaterEqual | greater
  | plus | minus | times | divided | modulo
  | matched
  deriving DecidableEq, Repr

/-- What is wrong with an expression. -/
inductive Flaw
  | missing (after : String)
  | unexpected (text : String)
  | unexpectedClosing
  | unclosed (after : String)
  | closingExpected (text : String)
  | notWhole
  | zeroDivisor
  | regex (f : Regex.Fault)

def Flaw.message (quoted : String → String) : Flaw → String
  | missing after => "syntax error: missing argument after " ++ quoted after
  | unexpected text => "syntax error: unexpected argument " ++ quoted text
  | unexpectedClosing => "syntax error: unexpected ')'"
  | unclosed after => "syntax error: expecting ')' after " ++ quoted after
  | closingExpected text => "syntax error: expecting ')' instead of " ++ quoted text
  | notWhole => "non-integer argument"
  | zeroDivisor => "division by zero"
  | regex f => f.message

inductive Expr
  | text (s : String)
  | join (j : Joint) (a b : Expr)
  | length (a : Expr)
  | index (a b : Expr)
  | substring (a start count : Expr)
  | flawed (f : Flaw)
  /-- An expression with a flaw behind it. -/
  | before (a : Expr) (f : Flaw)

/-! ### Reading -/

/-- The joints by their strength, the weakest first. -/
def joints : List (List (String × Joint)) :=
  [[("|", .either)], [("&", .both)],
    [("<", .less), ("<=", .lessEqual), ("=", .equal), ("==", .equal), ("!=", .unequal),
      (">=", .greaterEqual), (">", .greater)],
    [("+", .plus), ("-", .minus)], [("*", .times), ("/", .divided), ("%", .modulo)], [(":", .matched)]]

/-- The argument that was taken last, and those that are left. -/
structure Cursor where
  last : String := ""
  rest : List String

abbrev Reader := StateM Cursor

def take? : Reader (Option String) := do
  match (← get).rest with
  | [] => return none
  | s :: rest =>
    set ({ last := s, rest } : Cursor)
    return some s

/-- A flaw, behind which nothing is read. -/
def stop (f : Flaw) : Reader Expr := do
  modify fun c => { c with rest := [] }
  return .flawed f

def missing : Reader Expr := do stop (.missing (← get).last)

mutual

/-- Reads an expression whose joints have at least a strength. The first argument bounds the
steps. -/
def level : Nat → (strength : Nat) → Reader Expr
  | 0, _ => missing
  | steps + 1, strength => do
    match joints[strength]? with
    | none => prefixed steps
    | some js => chain steps strength js (← level steps (strength + 1))

/-- Goes on behind an expression, as long as joints of a strength follow. -/
def chain : Nat → (strength : Nat) → List (String × Joint) → Expr → Reader Expr
  | 0, _, _, a => return a
  | steps + 1, strength, js, a => do
    match (← get).rest.head?.bind (js.lookup ·) with
    | none => return a
    | some j =>
      discard take?
      chain steps strength js (.join j a (← level steps (strength + 1)))

/-- Reads an expression that a word begins, or a plain one. -/
def prefixed : Nat → Reader Expr
  | 0 => missing
  | steps + 1 => do
    match (← get).rest with
    | "+" :: _ =>
      discard take?
      match ← take? with
      | some s => return .text s
      | none => missing
    | "length" :: _ =>
      discard take?
      return .length (← prefixed steps)
    | "match" :: _ =>
      discard take?
      let a ← prefixed steps
      return .join .matched a (← prefixed steps)
    | "index" :: _ =>
      discard take?
      let a ← prefixed steps
      return .index a (← prefixed steps)
    | "substr" :: _ =>
      discard take?
      let a ← prefixed steps
      let start ← prefixed steps
      return .substring a start (← prefixed steps)
    | "(" :: _ =>
      discard take?
      let a ← level steps 0
      match (← get).rest with
      | [] => return .before a (.unclosed (← get).last)
      | ")" :: _ =>
        discard take?
        return a
      | s :: _ =>
        modify fun c => { c with rest := [] }
        return .before a (.closingExpected s)
    | ")" :: _ => stop .unexpectedClosing
    | _ =>
      match ← take? with
      | some s => return .text s
      | none => missing

end

/-- Reads all arguments as one expression. -/
def ofArguments (args : List String) : Expr :=
  let (e, c) := (level (10 * args.length + 20) 0).run { rest := args }
  match c.rest with
  | [] => e
  | s :: _ => .before e (.unexpected s)

/-! ### Values -/

inductive Value
  | number (n : Int)
  | text (s : String)

/-- The number that a text is, if it is one. -/
def whole? (s : String) : Option Int :=
  let natural (cs : List Char) : Option Int :=
    if !cs.isEmpty ∧ cs.all Char.isDigit then some (cs.foldl (fun n c => 10 * n + (c.toNat - 48)) 0 : Nat) else none
  match s.toList with
  | '-' :: cs => (natural cs).map (- ·)
  | cs => natural cs

namespace Value

def toString : Value → String
  | number n => ToString.toString n
  | text s => s

def whole? : Value → Option Int
  | number n => some n
  | text s => Expression.whole? s

/-- Whether a value counts as false: no text, or zeros only. -/
def isNull : Value → Bool
  | number n => n = 0
  | text s =>
    match s.toList with
    | [] => true
    | ['-'] => false
    | '-' :: cs => cs.all (· = '0')
    | cs => cs.all (· = '0')

end Value

/-- The value of a match at the start of a text: the text of the first group, or how many characters
have matched. -/
def matching (wide : Bool) (s pattern : String) : Except Flaw Value := do
  let rule : RegexRule := { wide }
  match Regex.read rule pattern with
  | .error f => throw (.regex f)
  | .ok (r, groups) =>
    let text := (Octet.units wide s).toArray
    match (Regex.matchAt? rule text r 0).map (Regex.withGroups rule text r) with
    | none => return if groups = 0 then .number 0 else .text ""
    | some m =>
      if groups = 0 then return .number m.finish
      else return .text (Octet.join ((m.group text 1).getD []))

/-- Whether two values stand to each other as a comparison says. -/
def compares (j : Joint) (o : Ordering) : Bool :=
  match j with
  | .less => o = .lt
  | .lessEqual => o ≠ .gt
  | .equal => o = .eq
  | .unequal => o ≠ .eq
  | .greaterEqual => o ≠ .lt
  | _ => o = .gt

/-- Joins two values that have both been evaluated. -/
def joined (wide : Bool) (j : Joint) (a b : Value) : Except Flaw Value :=
  let reckon (f : Int → Int → Except Flaw Int) : Except Flaw Value :=
    match a.whole?, b.whole? with
    | some m, some n => .number <$> f m n
    | _, _ => .error .notWhole
  match j with
  | .plus => reckon fun m n => .ok (m + n)
  | .minus => reckon fun m n => .ok (m - n)
  | .times => reckon fun m n => .ok (m * n)
  | .divided => reckon fun m n => if n = 0 then .error .zeroDivisor else .ok (m.tdiv n)
  | .modulo => reckon fun m n => if n = 0 then .error .zeroDivisor else .ok (m.tmod n)
  | .matched => matching wide a.toString b.toString
  | j =>
    let o := match a.whole?, b.whole? with
      | some m, some n => compare m n
      | _, _ => compare (Octet.bytes a.toString) (Octet.bytes b.toString)
    .ok (.number (if compares j o then 1 else 0))

/-- Evaluates an expression. Without need only its flaws show. -/
def Expr.eval (wide : Bool) : (needed : Bool) → Expr → Except Flaw Value
  | _, .text s => .ok (.text s)
  | needed, .join .either a b => do
    let x ← a.eval wide needed
    let y ← b.eval wide (needed && x.isNull)
    return if !x.isNull then x else if y.isNull then .number 0 else y
  | needed, .join .both a b => do
    let x ← a.eval wide needed
    let y ← b.eval wide (needed && !x.isNull)
    return if x.isNull || y.isNull then .number 0 else x
  | needed, .join j a b => do
    let x ← a.eval wide needed
    let y ← b.eval wide needed
    if needed then joined wide j x y else return x
  | needed, .length a => do
    let x ← a.eval wide needed
    return .number (Octet.units wide x.toString).length
  | needed, .index a b => do
    let x ← a.eval wide needed
    let y ← b.eval wide needed
    let among := Octet.units wide y.toString
    match (Octet.units wide x.toString).findIdx? among.contains with
    | some i => return .number (i + 1)
    | none => return .number 0
  | needed, .substring a start count => do
    let x ← a.eval wide needed
    let i ← start.eval wide needed
    let n ← count.eval wide needed
    match i.whole?, n.whole? with
    | some i, some n =>
      if i ≤ 0 ∨ n ≤ 0 then return .text ""
      return .text (Octet.join (((Octet.units wide x.toString).drop (i.toNat - 1)).take n.toNat))
    | _, _ => return .text ""
  | _, .flawed f => .error f
  | needed, .before a f => do
    discard (a.eval wide needed)
    .error f

end ScriptSearch.Host.Expression

namespace ScriptSearch.Host.Tools

open Work

/-- Evaluates the arguments as an expression and prints its value. -/
def expression : Work Unit := do
  modify fun g => { g with lostStatus := 3 }
  let p ← process
  let args := match p.args with
    | ["--help"] => ["--help"]
    | "--" :: args => args
    | args => args
  if p.args = ["--help"] ∨ p.args = ["--version"] then leave 0
  if args.isEmpty then refuse "missing operand" 2
  let wide ← isWide
  match (Expression.ofArguments args).eval wide true with
  | .ok v =>
    say (v.toString ++ "\n")
    setStatus (if v.isNull then 1 else 0)
  | .error f => fail (f.message (Quoted.plain wide)) 2

end ScriptSearch.Host.Tools
