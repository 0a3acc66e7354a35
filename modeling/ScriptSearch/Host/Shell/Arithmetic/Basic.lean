import ScriptSearch.Host.Numeral
import ScriptSearch.Host.Shell.Random
import ScriptSearch.Host.Shell.Word

/-! What calculations in a script rest on: whole numbers of 64 bits, variables and what they hold, and
what can be wrong with a calculation. -/

namespace ScriptSearch.Host.Shell.Arithmetic

/-! ### Numbers -/

/-- Keeps the low 64 bits, as a number with a sign. -/
def wrap (n : Int) : Int := n.bmod 18446744073709551616

def truth (b : Bool) : Int := if b then 1 else 0

/-- Operations on 64 bits, by way of machine words. -/
def bitwise (f : Int64 → Int64 → Int64) (a b : Int) : Int := (f (Int64.ofInt a) (Int64.ofInt b)).toInt

/-- A power, by squares; an exponent of at most 64 binary digits counts. -/
def power64 : Nat → Int → Nat → Int
  | 0, _, _ => 1
  | digits + 1, base, n =>
    let rest := power64 digits (wrap (base * base)) (n / 2)
    if n % 2 = 1 then wrap (base * rest) else rest

/-- The result of an operator; a division by zero has none. -/
def result? (op : String) (a b : Int) : Option Int :=
  match op with
  | "+" => some (wrap (a + b))
  | "-" => some (wrap (a - b))
  | "*" => some (wrap (a * b))
  | "/" => if b = 0 then none else some (wrap (a.tdiv b))
  | "%" => if b = 0 then none else some (a.tmod b)
  | "<<" => some (bitwise (· <<< ·) a b)
  | ">>" => some (bitwise (· >>> ·) a b)
  | "&" => some (bitwise (· &&& ·) a b)
  | "|" => some (bitwise (· ||| ·) a b)
  | "^" => some (bitwise (· ^^^ ·) a b)
  | "==" => some (truth (a = b))
  | "!=" => some (truth (a ≠ b))
  | "<" => some (truth (a < b))
  | "<=" => some (truth (a ≤ b))
  | ">" => some (truth (a > b))
  | ">=" => some (truth (a ≥ b))
  | _ => none

/-- What a sign in front of a number makes of it. -/
def signed (sign : Char) (n : Int) : Int :=
  if sign = '-' then wrap (-n) else if sign = '!' then truth (n = 0) else if sign = '~' then -n - 1 else n

/-! ### Variables -/

/-- A variable, or one of its elements by a text that an element is found by. -/
structure Reference where
  name : String
  subscript : Option String := none
  deriving DecidableEq, Repr

/-- An element of a variable by the text it is found by; a variable that has only one value
has it under zero. -/
structure Slot where
  name : String
  key : String
  deriving DecidableEq, Repr

/-- Variables with the values that a calculation sees or has set, which of them are there, and have
elements that are found by any text, and whether all that it asks for must be there. -/
structure Values where
  lookup : Slot → Option String
  isThere : String → Bool := fun _ => true
  isTable : String → Bool := fun _ => false
  /-- Whether a variable can have an element. -/
  hasRoom : Slot → Bool := fun _ => true
  strict : Bool := false
  /-- Where numbers by chance come from, if a variable stands for them. -/
  random : Option Random := none
  set : List (Slot × Int) := []
  /-- What is wrong with elements that have been asked for, the last first. -/
  notes : List String := []

/-- Values with a number in a slot. -/
def Values.assign (v : Values) (slot : Slot) (n : Int) : Values :=
  { v with
    set := (slot, n) :: v.set
    random := v.random.map fun r =>
      if slot.name = "RANDOM" then .ofSeed (n % 4294967296).toNat else r }

/-- Values with the note that there is no such element. -/
def Values.refuse (v : Values) (element : String) : Values :=
  { v with notes := (element ++ ": bad array subscript") :: v.notes }

/-- The text between brackets that come next, with inner brackets in it. -/
def bracketed : List Char → Option (List Char)
  | '[' :: cs => go 0 cs
  | _ => none
where
  go : Nat → List Char → Option (List Char)
    | _, [] => none
    | 0, ']' :: _ => some []
    | depth + 1, ']' :: cs => (go depth cs).map (']' :: ·)
    | depth, '[' :: cs => (go (depth + 1) cs).map ('[' :: ·)
    | depth, c :: cs => (go depth cs).map (c :: ·)

/-! ### Faults -/

/-- Why there is no result. -/
inductive Fault
  /-- Something is wrong with a text; the large shell also tells from where on. -/
  | flawed (what text rest : String)
  /-- A value is no number. -/
  | noNumber (text : String)
  /-- A variable is not there, and must be. -/
  | missing (name : String)
  /-- A subscript has no value. -/
  | subscript (f : Fault)
  /-- A division has a result that is too large, which ends the plain shell. -/
  | overflow
  deriving Repr

/-- The variable that is not there, if that is the fault. -/
def Fault.missing? : Fault → Option String
  | .missing name => some name
  | .subscript f => f.missing?
  | _ => none

/-- Whether the fault is that of a subscript. -/
def Fault.isSubscript : Fault → Bool
  | .subscript _ => true
  | _ => false

def Fault.message (d : Dialect) : Fault → String
  | flawed what text rest =>
    match d with
    | .plain => "arithmetic expression: " ++ what ++ ": \"" ++ text ++ "\""
    | .bash => text ++ ": " ++ what ++ " (error token is \"" ++ rest ++ "\")"
  | noNumber text => "Illegal number: " ++ text
  | missing name => name ++ ": unbound variable"
  | subscript f => f.message d
  | overflow => ""

end ScriptSearch.Host.Shell.Arithmetic
