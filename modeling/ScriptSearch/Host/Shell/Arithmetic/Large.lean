import ScriptSearch.Host.Shell.Arithmetic.Basic

/-! Calculations of the large shell. What has been read is worked out at once, so that variables have
been set when something turns out to be wrong further on. The value of a variable is a calculation
again, and so is a subscript. -/

namespace ScriptSearch.Host.Shell.Arithmetic.Large

inductive Token
  | finish
  | number
  | name
  | sign (s : String)
  /-- A sign that sets a variable to its own value combined with another one. -/
  | change (op : String)
  /-- A sign in front of a variable that is changed by one, or behind it. -/
  | stepBefore (up : Bool)
  | stepBehind (up : Bool)
  deriving DecidableEq, Repr

/-- Where reading stands. -/
structure Scan where
  text : List Char
  rest : List Char
  /-- What was left from the last token on. -/
  mark : List Char := []
  token : Token := .finish
  before : Token := .finish
  /-- The value of a number or of a variable. -/
  value : Int := 0
  reference : Option Reference := none
  /-- The element that a variable stands for. -/
  slot : Option Slot := none
  /-- How many parts that are not to be worked out this is in. -/
  silent : Nat := 0

structure Situation where
  scan : Scan
  values : Values
  /-- How deep values of variables are being worked out. -/
  depth : Nat := 0

abbrev Calculation := EStateM Fault Situation

def scan : Calculation Scan := return (← get).scan

def setScan (s : Scan) : Calculation Unit := modify fun c => { c with scan := s }

def token : Calculation Token := return (← scan).token

def setBefore (t : Token) : Calculation Unit := do setScan { (← scan) with before := t }

def fail {α : Type} (what : String) : Calculation α := do
  let s ← scan
  throw (.flawed what (String.ofList (s.text.dropWhile Numeral.isBlank)) (String.ofList s.mark))

def isSpace (c : Char) : Bool := c == ' ' || c == '\t' || c == '\n'

/-- How deep values of variables are worked out at most. -/
def depthLimit : Nat := 1024

/-- What is wrong with a numeral. -/
inductive NumeralFault
  | digit
  | base
  | noDigits
  | twoBases
  deriving Repr

def NumeralFault.words : NumeralFault → String
  | digit => "value too great for base"
  | base => "invalid arithmetic base"
  | noDigits => "invalid integer constant"
  | twoBases => "invalid number"

/-- A digit in a base up to 64. -/
def digitOf (base : Nat) (c : Char) : Nat :=
  if c.isDigit then c.toNat - 48
  else if c.isLower then c.toNat - 87
  else if c.isUpper then (if base ≤ 36 then c.toNat - 55 else c.toNat - 29)
  else if c = '@' then 62
  else if c = '_' then 63
  else 64

/-- The number of digits in a base, which may be given in front of a mark. -/
def digitsIn (marked : Bool) (base : Nat) : (n : Int) → List Char → Except NumeralFault Int
  | n, [] => .ok n
  | n, '#' :: cs =>
    if marked then .error .twoBases
    else if n < 2 ∨ 64 < n then .error .base
    else if cs.isEmpty ∨ cs.head? = some '#' then .error .noDigits
    else digitsIn true n.toNat 0 cs
  | n, c :: cs =>
    if base ≤ digitOf base c then .error .digit
    else digitsIn marked base (wrap (n * base + digitOf base c)) cs

/-- The number that a numeral stands for. -/
def numeral : List Char → Except NumeralFault Int
  | '0' :: x :: cs => if x = 'x' ∨ x = 'X' then digitsIn true 16 0 cs else digitsIn true 8 0 (x :: cs)
  | cs => digitsIn false 10 0 cs

/-- Signs of two characters that are tokens. -/
def pairs : List String := ["==", "!=", ">=", "<=", "<<", ">>", "&&", "||", "**"]

/-- Characters that are signs. -/
def isSign (c : Char) : Bool := "=><+-*/%!()&|^~?:,".toList.contains c

/-- Reads a sign. -/
def readSign (c : Char) (cs : List Char) : Calculation Unit := do
  let s ← scan
  let put (t : Token) (rest : List Char) : Calculation Unit :=
    setScan { s with rest, before := s.token, token := t }
  let second := cs.head?
  let pair := String.ofList (c :: second.toList)
  let doubled : Bool := (c = '+' || c = '-') && second = some c
  if pairs.contains pair then
    let rest := cs.drop 1
    if (pair = "<<" ∨ pair = ">>") ∧ rest.head? = some '=' then put (.change pair) (rest.drop 1)
    else put (.sign pair) rest
  else if doubled ∧ s.token = .name then put (.stepBehind (c = '+')) (cs.drop 1)
  else if doubled ∧ s.token = .number ∧ (s.before = .stepBefore true ∨ s.before = .stepBefore false) then
    fail (pair ++ ": assignment requires lvalue")
  else if doubled then
    if ((cs.drop 1).dropWhile isSpace).head?.any isNameStart then put (.stepBefore (c = '+')) (cs.drop 1)
    else put (.sign (String.singleton c)) cs
  else if second = some '=' ∧ "*/%+-&^|".toList.contains c then
    put (.change (String.singleton c)) (cs.drop 1)
  else if isSign c then put (.sign (String.singleton c)) cs
  else
    match s.token with
    | .name | .number => fail "syntax error: invalid arithmetic operator"
    | _ => fail "syntax error: operand expected"

/-- An element as notes name it. -/
def Slot.shown (slot : Slot) : String := slot.name ++ "[" ++ slot.key ++ "]"

/-- Whether a key leads to all elements. -/
def isWhole (key : String) : Bool := key == "@" || key == "*"

/-- Sets an element to a number. -/
def bind (slot : Slot) (n : Int) : Calculation Unit :=
  modify fun c => { c with
    values := if c.values.hasRoom slot then c.values.assign slot n
      else c.values.refuse (Slot.shown slot) }

/-- The result of an operator; the place is told where a division by zero has its divisor. -/
def applied (op : String) (a b : Int) (mark? : Option (List Char)) : Calculation Int := do
  match result? op a b with
  | some n => return n
  | none =>
    if (← scan).silent ≠ 0 then return a
    if let some mark := mark? then setScan { (← scan) with mark := mark.dropWhile Numeral.isBlank }
    fail "division by 0"

/-- Operators between two operands that are always both worked out, the looser ones first. -/
def levels : List (List String) :=
  [["|"], ["^"], ["&"], ["==", "!="], ["<=", ">=", "<", ">"], ["<<", ">>"], ["+", "-"], ["*", "/", "%"]]

/-- The operator of a token, if it is among some. -/
def operatorAmong (ops : List String) : Token → Option String
  | .sign s => if ops.contains s then some s else none
  | _ => none

mutual

/-- Reads the next token. What stands for a variable is worked out, unless it is only to be set. -/
def next : Nat → Calculation Unit
  | 0 => fail "expression recursion level exceeded"
  | steps + 1 => do
    let s ← scan
    let cs := s.rest.dropWhile isSpace
    match cs with
    | [] => setScan { s with rest := [], before := s.token, token := .finish }
    | c :: rest =>
      setScan { s with rest := cs, mark := cs }
      if isNameStart c then nextName steps
      else if c.isDigit then
        let token := cs.takeWhile fun c => c.isAlphanum || c == '_' || c == '#' || c == '@'
        let rest := cs.drop token.length
        match numeral token with
        | .ok n => setScan { s with rest, mark := cs, value := n, before := s.token, token := .number }
        | .error f =>
          setScan { s with mark := token, text := s.text.take (s.text.length - rest.length) }
          fail f.words
      else readSign c rest

/-- Reads a variable, which comes next. -/
def nextName : Nat → Calculation Unit
  | 0 => fail "expression recursion level exceeded"
  | steps + 1 => do
    let s ← scan
    let name := s.rest.takeWhile isNameChar
    let behind := s.rest.drop name.length
    let (subscript, rest) ← match behind with
      | '[' :: _ =>
        match bracketed behind with
        | some text => pure (some (String.ofList text), behind.drop (text.length + 2))
        | none => fail "bad array subscript"
      | _ => pure (none, behind)
    let reference : Reference := { name := String.ofList name, subscript }
    setScan { s with rest, silent := 1, token := .name, reference := none }
    next steps
    let following ← token
    let found := { s with rest, before := s.token, token := .name, reference := some reference }
    setScan { s with reference := some reference, slot := none }
    let stepping : Bool := s.before = .stepBefore true || s.before = .stepBefore false
    if (stepping ∨ following ≠ .sign "=") ∧ s.silent = 0 then
      let slot ← slotOf steps reference
      let n ← numberAt steps slot
      setScan { found with value := n, slot := some slot }
    else setScan { found with value := 0, slot := none }

/-- The element that a reference leads to. -/
def slotOf : Nat → Reference → Calculation Slot
  | 0, _ => fail "expression recursion level exceeded"
  | steps + 1, r => do
    let v := (← get).values
    if v.strict ∧ !v.isThere r.name ∧ !v.set.any (·.1.name = r.name) then throw (.missing r.name)
    match r.subscript with
    | none => return ⟨r.name, "0"⟩
    | some text =>
      if v.isTable r.name ∨ isWhole text then return ⟨r.name, text⟩
      else
        let n ← try worth steps text
          catch f => throw (if f.isSubscript then f else .subscript f)
        return ⟨r.name, toString n⟩

/-- The number in a slot. -/
def numberAt : Nat → Slot → Calculation Int
  | 0, _ => fail "expression recursion level exceeded"
  | steps + 1, slot => do
    let v := (← get).values
    match v.random with
    | some r =>
      if slot = ⟨"RANDOM", "0"⟩ then
        let (n, r) := r.next
        modify fun c => { c with values := { v with random := some r } }
        return n
    | none => pure ()
    match v.set.lookup slot with
    | some n => return n
    | none =>
      match v.lookup slot with
      | none =>
        if !v.hasRoom slot then
          let element := if isWhole slot.key then Slot.shown slot else slot.name
          modify fun c => { c with values := c.values.refuse element }
        return 0
      | some "" => return 0
      | some text => worth steps text

/-- What a text is worth as a calculation. -/
def worth : Nat → String → Calculation Int
  | 0, _ => fail "expression recursion level exceeded"
  | steps + 1, text => do
    let cs := text.toList
    if cs.all isSpace then return 0
    let c ← get
    if depthLimit ≤ c.depth then fail "expression recursion level exceeded"
    set { c with scan := { text := cs, rest := cs }, depth := c.depth + 1 }
    next steps
    let n ← sequence steps
    if (← token) ≠ .finish then fail "syntax error in expression"
    modify fun now => { now with scan := c.scan, depth := c.depth }
    return n

/-- Calculations with commas between them; the last one gives the value. -/
def sequence : Nat → Calculation Int
  | 0 => fail "expression recursion level exceeded"
  | steps + 1 => do
    let n ← assignment steps
    if (← token) = .sign "," then
      next steps
      sequence steps
    else return n

def assignment : Nat → Calculation Int
  | 0 => fail "expression recursion level exceeded"
  | steps + 1 => do
    let left ← choice steps
    let s ← scan
    let op? : Option String := match s.token with
      | .sign "=" => some ""
      | .change op => some op
      | _ => none
    match op? with
    | none => return left
    | some op =>
      if s.before ≠ .name then fail "attempted assignment to non-variable"
      match s.reference with
      | none => fail "syntax error in variable assignment"
      | some reference =>
        next steps
        let right ← assignment steps
        let n ← if op = "" then pure right else applied op left right none
        if (← scan).silent = 0 then
          let slot ← match op, s.slot with
            | "", _ | _, none => slotOf steps reference
            | _, some slot => pure slot
          bind slot n
        setScan { (← scan) with reference := none }
        return n

def choice : Nat → Calculation Int
  | 0 => fail "expression recursion level exceeded"
  | steps + 1 => do
    let condition ← disjunction steps
    if (← token) ≠ .sign "?" then return condition
    let silent := (← scan).silent
    let hushed (hush : Bool) : Calculation Unit := do
      setScan { (← scan) with silent := silent + if hush then 1 else 0 }
    hushed (condition = 0)
    next steps
    if (← token) = .finish ∨ (← token) = .sign ":" then fail "expression expected"
    let first ← sequence steps
    hushed false
    if (← token) ≠ .sign ":" then fail "\x60:' expected for conditional expression"
    hushed (condition ≠ 0)
    next steps
    if (← token) = .finish then fail "expression expected"
    let second ← choice steps
    hushed false
    setBefore (.sign "?:")
    return if condition ≠ 0 then first else second

def disjunction : Nat → Calculation Int
  | 0 => fail "expression recursion level exceeded"
  | steps + 1 => do disjunctionRest steps (← conjunction steps)

/-- Goes on behind an operand of `||`. -/
def disjunctionRest : Nat → Int → Calculation Int
  | 0, _ => fail "expression recursion level exceeded"
  | steps + 1, a => do
    if (← token) ≠ .sign "||" then return a
    let silent := (← scan).silent
    if a ≠ 0 then setScan { (← scan) with silent := silent + 1 }
    next steps
    let b ← conjunction steps
    setScan { (← scan) with silent, before := .sign "||" }
    disjunctionRest steps (truth (a ≠ 0 || b ≠ 0))

def conjunction : Nat → Calculation Int
  | 0 => fail "expression recursion level exceeded"
  | steps + 1 => do conjunctionRest steps (← level steps levels)

/-- Goes on behind an operand of `&&`. -/
def conjunctionRest : Nat → Int → Calculation Int
  | 0, _ => fail "expression recursion level exceeded"
  | steps + 1, a => do
    if (← token) ≠ .sign "&&" then return a
    let silent := (← scan).silent
    if a = 0 then setScan { (← scan) with silent := silent + 1 }
    next steps
    let b ← level steps levels
    setScan { (← scan) with silent, before := .sign "&&" }
    conjunctionRest steps (truth (a ≠ 0 && b ≠ 0))

/-- Operators of one level between operands of the next. -/
def level : Nat → List (List String) → Calculation Int
  | 0, _ => fail "expression recursion level exceeded"
  | steps + 1, [] => power steps
  | steps + 1, ops :: tighter => do levelRest steps ops tighter (← level steps tighter)

def levelRest : Nat → List String → List (List String) → Int → Calculation Int
  | 0, _, _, _ => fail "expression recursion level exceeded"
  | steps + 1, ops, tighter, a => do
    match operatorAmong ops (← token) with
    | none => return a
    | some op =>
      let mark := (← scan).rest
      next steps
      let b ← level steps tighter
      let n ← applied op a b (some mark)
      setBefore .number
      levelRest steps ops tighter n

def power : Nat → Calculation Int
  | 0 => fail "expression recursion level exceeded"
  | steps + 1 => do
    let base ← signedOperand steps
    if (← token) ≠ .sign "**" then return base
    next steps
    let n ← power steps
    setBefore .number
    if n = 0 then return 1
    if n < 0 then fail "exponent less than 0"
    return power64 64 base n.toNat

/-- An operand with signs in front. -/
def signedOperand : Nat → Calculation Int
  | 0 => fail "expression recursion level exceeded"
  | steps + 1 => do
    match operatorAmong ["!", "~", "-", "+"] (← token) with
    | none => operand steps
    | some op =>
      next steps
      let n ← signedOperand steps
      setBefore .number
      return signed (op.toList.headD '+') n

def operand : Nat → Calculation Int
  | 0 => fail "expression recursion level exceeded"
  | steps + 1 => do
    let s ← scan
    match s.token with
    | .stepBefore up =>
      setScan { s with before := s.token }
      next steps
      let now ← scan
      if now.token ≠ .name then fail "identifier expected after pre-increment or pre-decrement"
      let n := wrap (now.value + if up then 1 else -1)
      if now.silent = 0 then
        if let some slot := now.slot then bind slot n
      setScan { (← scan) with token := .number }
      next steps
      return n
    | .sign "(" =>
      next steps
      let n ← sequence steps
      if (← token) ≠ .sign ")" then fail "missing \x60)'"
      next steps
      return n
    | .number =>
      next steps
      return s.value
    | .name =>
      setScan { s with reference := none, silent := 1 }
      next steps
      match ← token with
      | .stepBehind up =>
        setScan { (← scan) with
          reference := s.reference, silent := s.silent, slot := s.slot, before := .name, token := .number }
        if s.silent = 0 then
          if let some slot := s.slot then bind slot (wrap (s.value + if up then 1 else -1))
      | _ => setScan s
      next steps
      return s.value
    | _ => fail "syntax error: operand expected"

end

/-- How many steps a calculation takes at most. -/
def stepLimit : Nat := 1000000

/-- The result of a text, and what has become of the variables. -/
def evaluate (values : Values) (text : String) : Except Fault Int × Values :=
  match EStateM.run (worth stepLimit text) { scan := { text := [], rest := [] }, values } with
  | .ok n c => (.ok n, c.values)
  | .error f c => (.error f, c.values)

end ScriptSearch.Host.Shell.Arithmetic.Large
