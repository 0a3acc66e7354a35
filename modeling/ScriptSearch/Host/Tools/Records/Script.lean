/-! Scripts that work on the records of files: patterns, and what is done with a record that one of
them holds for. A script is also a small language of numbers, texts and tables. -/

namespace ScriptSearch.Host.Records

/-- Operators on two numbers. -/
inductive Operator
  | plus | minus | times | divided | modulo | power
  deriving DecidableEq, Repr

inductive Comparison
  | less | lessEqual | equal | unequal | greater | greaterEqual
  deriving DecidableEq, Repr

inductive Builtin
  | length | substr | index | split | sub | gsub | matchAt | sprintf
  | sin | cos | atan2 | exp | log | sqrt | int | rand | srand
  | toLower | toUpper | close | system | flush
  deriving DecidableEq, Repr

mutual

inductive Expr
  | number (x : Float)
  | text (s : String)
  /-- An expression for texts, which the record is searched for unless it is asked otherwise. -/
  | regex (s : String)
  | name (s : String)
  | element (table : String) (keys : List Expr)
  | field (e : Expr)
  | group (e : Expr)
  | assign (op : Option Operator) (target value : Expr)
  /-- Adds or takes one, and is the value from before or after. -/
  | step (target : Expr) (up before : Bool)
  | binary (op : Operator) (a b : Expr)
  | minus (a : Expr)
  | plus (a : Expr)
  | not (a : Expr)
  | and (a b : Expr)
  | or (a b : Expr)
  | choose (c a b : Expr)
  | concat (a b : Expr)
  | compare (c : Comparison) (a b : Expr)
  | search (negated : Bool) (a b : Expr)
  | member (keys : List Expr) (table : String)
  | call (name : String) (args : List Expr)
  | builtin (b : Builtin) (args : List Expr)
  | getline (source : Source) (target : Option Expr)

/-- Where a record is read from. -/
inductive Source
  | input
  | file (e : Expr)
  | command (e : Expr)

end

/-- Where text goes. -/
inductive Outlet
  | replacing | appending | command
  deriving DecidableEq, Repr

inductive Statement
  | simple (e : Expr)
  | print (formatted : Bool) (args : List Expr) (outlet : Option (Outlet × Expr))
  | choose (c : Expr) (a : Statement) (b : Option Statement)
  | while (c : Expr) (body : Statement)
  | doWhile (body : Statement) (c : Expr)
  | count (start condition next : Option Expr) (body : Statement)
  | each (name table : String) (body : Statement)
  | block (body : List Statement)
  | next
  | nextFile
  | exit (e : Option Expr)
  | giveBack (e : Option Expr)
  | leaveLoop
  | nextRound
  | delete (table : String) (keys : Option (List Expr))

/-- When a rule applies. -/
inductive Pattern
  | first
  | last
  | always
  | whenever (e : Expr)
  | range (start finish : Expr)

structure Rule where
  pattern : Pattern
  /-- What is done; records are printed if nothing is said. -/
  body : Option (List Statement)

structure Function where
  name : String
  parameters : List String
  body : List Statement

structure Script where
  rules : List Rule := []
  functions : List Function := []

/-- What is wrong with a script, and where. -/
structure Flaw where
  line : Nat
  text : String
  deriving DecidableEq, Repr

end ScriptSearch.Host.Records
