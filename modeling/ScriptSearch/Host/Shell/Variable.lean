import ScriptSearch.Host.Letters
import ScriptSearch.Host.Octet
import ScriptSearch.Host.Shell.Word

/-! Variables of a shell: what they hold and how they are marked. A variable holds one text, a
list of texts by number, or a table of texts by text. As one text, a list counts by its element
under zero, and so does a table. -/

namespace ScriptSearch.Host.Shell

/-- What a variable holds, if it has been set. -/
inductive Content
  | text (s : Option String)
  /-- Elements by number, in order. -/
  | list (elements : Option (List (Nat × String)))
  /-- Elements by text, in the order in which they came. -/
  | table (elements : Option (List (String × String)))
  deriving DecidableEq, Repr

/-- How letters of a value are changed when it is set. -/
inductive Casing
  | upper | lower | capital
  deriving DecidableEq, Repr

structure Variable where
  content : Content := .text none
  exported : Bool := false
  fixed : Bool := false
  /-- Whether values are calculated. -/
  integer : Bool := false
  casing : Option Casing := none
  /-- Whether the value is the name of the variable that is meant. -/
  reference : Bool := false
  traced : Bool := false
  deriving DecidableEq, Repr

/-- The place of a variable among others when the large shell hands them on: they stand in
so many rows, by a number that is made from the bytes of the name. -/
def rowOf (rows : Nat) (name : String) : Nat :=
  let number := (Octet.bytes name).foldl
    (fun n b => Nat.xor (n * 16777619 % 4294967296) b.toNat) 2166136261
  number % rows

/-- Things by name in so many rows; in a row the latest comes first. -/
def inRows {α : Type} (rows : Nat) (named : List (String × α)) : List (String × α) :=
  named.reverse.mergeSort fun a b => rowOf rows a.1 ≤ rowOf rows b.1

namespace Content

/-- Something under a key in place of what is there, or behind all else. -/
def put {α : Type} (key : String) (value : α) (elements : List (String × α)) : List (String × α) :=
  if (elements.lookup key).isSome then
    elements.map fun e => if e.1 = key then (key, value) else e
  else elements ++ [(key, value)]

/-- A text under a number among others in order. -/
def insert (n : Nat) (s : String) : List (Nat × String) → List (Nat × String)
  | [] => [(n, s)]
  | e :: rest =>
    if n < e.1 then (n, s) :: e :: rest
    else if n = e.1 then (n, s) :: rest
    else e :: insert n s rest

/-- The number behind the last of a list. -/
def next (elements : List (Nat × String)) : Nat := ((elements.getLast?).map (·.1 + 1)).getD 0

def isSet : Content → Bool
  | text s => s.isSome
  | list e => e.isSome
  | table e => e.isSome

/-- The content as one text. -/
def text? : Content → Option String
  | text s => s
  | list e => (e.getD []).lookup 0
  | table e => (e.getD []).lookup "0"

/-- The elements by what they are found by, in the order in which they are shown. -/
def elements : Content → List (String × String)
  | text s => (s.map ("0", ·)).toList
  | list e => (e.getD []).map fun e => (toString e.1, e.2)
  | table e => inRows 1024 (e.getD [])

/-- The number of an element; one that is negative counts from the end. -/
def number? (elements : List (Nat × String)) (key : String) : Option Nat :=
  match key.toInt? with
  | some (.ofNat n) => some n
  | some n => let n := n + next elements; if n < 0 then none else some n.toNat
  | none => none

/-- The element under a key. -/
def element? (c : Content) (key : String) : Option String :=
  match c with
  | text s => if key = "0" ∨ key = "-1" then s else none
  | list e =>
    let es := e.getD []
    (number? es key).bind fun n => es.lookup n
  | table e => (e.getD []).lookup key

/-- Whether an element can stand under a key. -/
def hasRoom (c : Content) (key : String) : Bool :=
  match c with
  | text s => (number? ((s.map (0, ·)).toList) key).isSome
  | list e => (number? (e.getD []) key).isSome
  | table _ => true

/-- The content with a text as its value. -/
def withText (c : Content) (s : String) : Content :=
  match c with
  | text _ => text (some s)
  | list e => list (some (insert 0 s (e.getD [])))
  | table e => table (some (put "0" s (e.getD [])))

/-- The content as a list. -/
def listed : Content → List (Nat × String)
  | text s => (s.map (0, ·)).toList
  | list e => e.getD []
  | table _ => []

/-- The content with a text under a key. -/
def withElement (c : Content) (key s : String) : Content :=
  match c with
  | table e => table (some (put key s (e.getD [])))
  | c =>
    let es := c.listed
    match number? es key with
    | some n => list (some (insert n s es))
    | none => c

/-- The content without what stands under a key. -/
def without (c : Content) (key : String) : Content :=
  match c with
  | text s => text s
  | list e =>
    let es := e.getD []
    match number? es key with
    | some n => list (some (es.filter (·.1 ≠ n)))
    | none => c
  | table e => table (some ((e.getD []).filter (·.1 ≠ key)))

def isTable : Content → Bool
  | table _ => true
  | _ => false

def isText : Content → Bool
  | text _ => true
  | _ => false

end Content

/-- A text with the case of its letters changed. -/
def Casing.apply (c : Casing) (wide : Bool) (s : String) : String :=
  match c with
  | upper => String.ofList (s.toList.map (Letters.upper wide))
  | lower => String.ofList (s.toList.map (Letters.lower wide))
  | capital =>
    match s.toList with
    | [] => ""
    | first :: rest => String.ofList (Letters.upper wide first :: rest.map (Letters.lower wide))

namespace Variable

def text? (v : Variable) : Option String := v.content.text?

/-- A variable that holds a text. -/
def ofText (s : String) : Variable := { content := .text (some s) }

/-- The letters that say how a variable is marked. -/
def letters (v : Variable) : String :=
  (match v.content with
    | .text _ => ""
    | .list _ => "a"
    | .table _ => "A") ++
  (if v.integer then "i" else "") ++ (if v.reference then "n" else "") ++
  (if v.fixed then "r" else "") ++ (if v.traced then "t" else "") ++
  (if v.exported then "x" else "") ++
  match v.casing with
  | some .upper => "u"
  | some .lower => "l"
  | some .capital => "c"
  | none => ""

end Variable

end ScriptSearch.Host.Shell
