import ScriptSearch.Host.Shell.Arithmetic.Basic

/-! Calculations of the plain shell. What has been read is worked out at once, so that variables have
been set when something turns out to be wrong further on. -/

namespace ScriptSearch.Host.Shell.Arithmetic.Plain

inductive Token
  | finish
  | number (n : Int)
  | name (s : String)
  | sign (s : String)
  | bad
  deriving DecidableEq, Repr

structure Situation where
  text : String
  rest : List Char
  /-- The token that has been read, but belongs to nothing yet. -/
  last : Token := .finish
  values : Values

abbrev Calculation := EStateM Fault Situation

/-- Signs, the longer ones first. -/
def signs : List String :=
  ["<<=", ">>=", "==", "!=", "<=", ">=", "<<", ">>", "&&", "||", "+=", "-=", "*=", "/=", "%=", "&=", "^=", "|=",
    "=", "<", ">", "&", "|", "!", "(", ")", "*", "/", "%", "+", "-", "~", "^", "?", ":"]

/-- Operators between two operands, the tighter ones first. -/
def ranks : List (List String) :=
  [["*", "/", "%"], ["+", "-"], ["<<", ">>"], ["<", "<=", ">", ">="], ["==", "!="], ["&"], ["^"], ["|"]]

/-- How loosely an operator binds, if it stands between two operands. -/
def rank? : Token → Option Nat
  | .sign s => ranks.findIdx? (·.contains s)
  | _ => none

/-- Reads a token. What is none stays. -/
def next : Calculation Token := do
  let s ← get
  let cs := s.rest.dropWhile fun c => c = ' ' || c = '\t' || c = '\n'
  let took (t : Token) (rest : List Char) : Calculation Token := do
    set { s with rest }
    return t
  match cs with
  | [] => took .finish []
  | c :: _ =>
    if c.isDigit then
      match Numeral.read cs with
      | some ⟨n, rest⟩ => took (.number (min n Numeral.signedMax)) rest
      | none => took .bad cs
    else if isNameStart c then
      let name := cs.takeWhile isNameChar
      took (.name (String.ofList name)) (cs.drop name.length)
    else
      match signs.find? fun sign => sign.toList.isPrefixOf cs with
      | some sign => took (.sign sign) (cs.drop sign.length)
      | none => took .bad cs

def fail {α : Type} (what : String) : Calculation α := do throw (.flawed what (← get).text "")

def setLast (t : Token) : Calculation Unit := modify fun s => { s with last := t }

/-- The number that a variable holds. -/
def numberOf (name : String) : Calculation Int := do
  let v := (← get).values
  match v.set.lookup ⟨name, "0"⟩ with
  | some n => return n
  | none =>
    let text := (v.lookup ⟨name, "0"⟩).getD ""
    let cs := text.toList
    match Numeral.read cs with
    | some ⟨n, rest⟩ =>
      if rest.all Numeral.isSpace ∧ -Numeral.signedMax - 1 ≤ n ∧ n ≤ Numeral.signedMax then return n
      else throw (.noNumber text)
    | none => if cs.all Numeral.isSpace then return 0 else throw (.noNumber text)

/-- The result of an operator. -/
def applied (op : String) (a b : Int) : Calculation Int := do
  if (op = "/" ∨ op = "%") ∧ a = -Numeral.signedMax - 1 ∧ b = -1 then throw .overflow
  match result? op a b with
  | some n => return n
  | none => fail "division by zero"

mutual

/-- An operand that begins with a token; the one behind it has been read too. -/
def operand : Nat → Token → (behind : Token) → (silent : Bool) → Calculation Int
  | 0, _, _, _ => fail "expecting primary"
  | steps + 1, t, behind, silent => do
    match t with
    | .sign "(" =>
      let n ← assignment steps behind silent
      if (← get).last ≠ .sign ")" then fail "expecting ')'"
      setLast (← next)
      return n
    | .number n =>
      setLast behind
      return n
    | .name s =>
      setLast behind
      if silent then return 0 else numberOf s
    | .sign "+" => do operand steps behind (← next) silent
    | .sign "-" => return signed '-' (← operand steps behind (← next) silent)
    | .sign "!" => return signed '!' (← operand steps behind (← next) silent)
    | .sign "~" => return signed '~' (← operand steps behind (← next) silent)
    | _ => fail "expecting primary"

/-- Goes on behind an operand with an operator, up to one that binds no tighter than a rank. -/
def binary : Nat → Int → (op : String) → (rank : Nat) → (silent : Bool) → Calculation Int
  | 0, _, _, _, _ => fail "expecting primary"
  | steps + 1, a, op, rank, silent => do
    let t ← next
    let b ← operand steps t (← next) silent
    let own := (rank? (.sign op)).getD 0
    let b ← match (← get).last with
      | .sign tighter =>
        match rank? (.sign tighter) with
        | some r => if r < own then binary steps b tighter own silent else pure b
        | none => pure b
      | _ => pure b
    let a ← if silent then pure b else applied op a b
    match (← get).last with
    | .sign op =>
      match rank? (.sign op) with
      | some r => if rank ≤ r then return a else binary steps a op rank silent
      | none => return a
    | _ => return a

def operation : Nat → Token → (behind : Token) → (silent : Bool) → Calculation Int
  | 0, _, _, _ => fail "expecting primary"
  | steps + 1, t, behind, silent => do
    let a ← operand steps t behind silent
    match (← get).last with
    | .sign op => if (rank? (.sign op)).isSome then binary steps a op ranks.length silent else return a
    | _ => return a

def conjunction : Nat → Token → (behind : Token) → (silent : Bool) → Calculation Int
  | 0, _, _, _ => fail "expecting primary"
  | steps + 1, t, behind, silent => do
    let a ← operation steps t behind silent
    if (← get).last ≠ .sign "&&" then return a
    let t ← next
    let b ← conjunction steps t (← next) (silent || a = 0)
    return truth (a ≠ 0 && b ≠ 0)

def disjunction : Nat → Token → (behind : Token) → (silent : Bool) → Calculation Int
  | 0, _, _, _ => fail "expecting primary"
  | steps + 1, t, behind, silent => do
    let a ← conjunction steps t behind silent
    if (← get).last ≠ .sign "||" then return a
    let t ← next
    let b ← disjunction steps t (← next) (silent || a ≠ 0)
    return truth (a ≠ 0 || b ≠ 0)

def choice : Nat → Token → (behind : Token) → (silent : Bool) → Calculation Int
  | 0, _, _, _ => fail "expecting primary"
  | steps + 1, t, behind, silent => do
    let a ← disjunction steps t behind silent
    if (← get).last ≠ .sign "?" then return a
    let b ← assignment steps (← next) (silent || a = 0)
    if (← get).last ≠ .sign ":" then fail "expecting ':'"
    let t ← next
    let c ← choice steps t (← next) (silent || a ≠ 0)
    return if a ≠ 0 then b else c

def assignment : Nat → Token → (silent : Bool) → Calculation Int
  | 0, _, _ => fail "expecting primary"
  | steps + 1, t, silent => do
    let behind ← next
    let op? : Option String := match behind with
      | .sign "=" => some ""
      | .sign s => if s.endsWith "=" ∧ (rank? behind).isNone then some (s.dropEnd 1).toString else none
      | _ => none
    match t, op? with
    | .name name, some op =>
      let n ← assignment steps (← next) silent
      if silent then return n
      let n ← if op = "" then pure n else applied op (← numberOf name) n
      modify fun s => { s with values := s.values.assign ⟨name, "0"⟩ n }
      return n
    | t, _ => choice steps t behind silent

end

/-- The result of a text, and what has become of the variables. -/
def evaluate (values : Values) (text : String) : Except Fault Int × Values :=
  let whole : Calculation Int := do
    let n ← assignment (16 * text.length + 64) (← next) false
    if (← get).last ≠ .finish then fail "expecting EOF"
    return n
  match EStateM.run whole { text, rest := text.toList, values } with
  | .ok n s => (.ok n, s.values)
  | .error f s => (.error f, s.values)

end ScriptSearch.Host.Shell.Arithmetic.Plain
