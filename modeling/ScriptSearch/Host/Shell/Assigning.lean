import ScriptSearch.Host.Shell.Braces
import ScriptSearch.Host.Shell.Tracing
import ScriptSearch.Host.Shell.Expansion

/-! Assignments: a value for a variable or for one of its elements, or values between parentheses
for a variable as a whole. -/

namespace ScriptSearch.Host.Shell.Act

/-- What stands in front of a line of the trace, or asks for a line. -/
def expandPrompt (x : Scripts) (text : String) : Act String :=
  (expander x false wordDepth).prompt text

/-- The value of an assignment as one text. -/
def textOfValue (x : Scripts) (ps : List Piece) : Act String := do
  (expander x true wordDepth).text (← withHomes ps)

/-- One of the values for a variable as a whole: its key, if there is one, and whether it is
appended to what is there. -/
structure Filling where
  key : Option String := none
  append : Bool := false
  value : String

/-- The fields of words with the braces of the large shell written out. -/
def bracedFields (x : Scripts) (w : Word) : Act (List String) := do
  let words := if ← isOn .braces then Braces.expand w else [w]
  return (← words.mapM fun w => fieldsOfWord x w.pieces).flatten

/-- The values that elements expand to. Where they are found by any text, none is cut into
fields. -/
def fillings (x : Scripts) (table : Bool) : List (Element Piece) → Act (List Filling)
  | [] => return []
  | e :: rest => do
    let here ← match e.subscript with
      | some ps => do
        let key ← (expander x false wordDepth).text ps
        pure [({ key := some key, append := e.append, value := ← textOfValue x e.value } : Filling)]
      | none =>
        if table then pure [{ value := ← textOfValue x e.value }]
        else do pure ((← bracedFields x { pieces := e.value }).map fun value => { value })
    return here ++ (← fillings x table rest)

/-- Gives values to the elements of a list, from a number on. -/
def fillList (name : String) : Nat → List Filling → Act Unit
  | _, [] => return
  | n, f :: rest => do
    match f.key with
    | none =>
      assignTo name (some (toString n)) false f.value
      fillList name (n + 1) rest
    | some key =>
      let index ← calculate "" key .abandonAll
      let content := ((← binding? name).map (·.content)).getD (.list none)
      let index := if index < 0 then index + Content.next content.listed else index
      if index < 0 then
        protest ("[" ++ key ++ "]=" ++ f.value ++ ": bad array subscript")
        fillList name n rest
      else
        assignTo name (some (toString index)) f.append f.value
        fillList name (index.toNat + 1) rest

/-- Gives values to the elements of a table: keys and values in turn if the first has no key. -/
def fillTable (name : String) (pairs : Bool) : List Filling → Act Unit
  | [] => return
  | f :: rest => do
    if pairs then
      match rest with
      | next :: rest =>
        assignTo name (some f.value) false next.value
        fillTable name true rest
      | [] => assignTo name (some f.value) false ""
    else
      match f.key with
      | some key =>
        if key = "" then protest ("[" ++ key ++ "]=" ++ f.value ++ ": bad array subscript")
        else assignTo name (some key) f.append f.value
      | none =>
        protest (name ++ ": " ++ f.value ++ ": must use subscript when assigning associative array")
      fillTable name false rest

/-- Gives a variable as a whole values, or adds them. -/
def assignFillings (name : String) (append : Bool) (values : List Filling) : Act Unit := do
  let (name, _) ← settable name
  let content := (((← get).bound? name).map (·.content)).getD (.text none)
  match content with
  | .table old =>
    assignContent name (.table (some (if append then old.getD [] else [])))
    fillTable name ((values.head?.map (·.key.isNone)).getD false) values
  | content =>
    let old := if append then content.listed else []
    assignContent name (.list (some old))
    fillList name (Content.next old) values

/-- Whether the elements of a variable are found by any text. -/
def isTable (name : String) : Act Bool := return ((← bound? name).map (·.content.isTable)).getD false

/-- The key for an assignment to an element. -/
def keyOfAssignment (x : Scripts) (name source : String) (ps : List Piece) : Act String := do
  let text ← (expander x false wordDepth).text ps
  if source = "" ∨ ((source = "@" ∨ source = "*") ∧ !(← isTable name)) then
    fault (name ++ "[" ++ source ++ "]: bad array subscript")
  keyOf name text

/-- What an assignment sets, as it is written. -/
def targetText (a : Assignment) : String :=
  a.name ++ ((a.subscript.map fun s => "[" ++ s.1 ++ "]").getD "") ++ if a.append then "+=" else "="

/-- Performs an assignment. -/
def assignWord (x : Scripts) (a : Assignment) : Act Unit := do
  modify fun s => { s with setter := none }
  let expand := expandPrompt x
  match a.value with
  | .list source elements :: _ =>
    traceLine expand (targetText a ++ source)
    if let some (source, _) := a.subscript then
      fault (a.name ++ "[" ++ source ++ "]: cannot assign list to array member")
    assignFillings a.name a.append (← fillings x (← isTable a.name) elements)
  | ps =>
    let text ← textOfValue x ps
    if !(← isPlain) then traceSetting expand (targetText a) text
    match a.subscript with
    | none => assignTo a.name none a.append text
    | some (source, ps) => assignTo a.name (some (← keyOfAssignment x a.name source ps)) a.append text

end ScriptSearch.Host.Shell.Act
