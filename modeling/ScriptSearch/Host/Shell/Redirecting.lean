import ScriptSearch.Host.Shell.Braces
import ScriptSearch.Host.Shell.Expansion

/-! Directing the descriptors of a command elsewhere. -/

namespace ScriptSearch.Host.Shell.Act

/-- Why a descriptor cannot be directed as asked. -/
inductive RedirectFault
  | opening (path : String) (e : OsError)
  | creating (path : String) (e : OsError)
  | present (path : String)
  | closed (name : String)
  | ambiguous (source : String)
  /-- No number can be put into the variable. -/
  | unnumbered (name : String)
  /-- A message has been given already. -/
  | told

def RedirectFault.message : Dialect → RedirectFault → String
  | .plain, opening path e =>
    "cannot open " ++ path ++ ": " ++
      (if e = .noEntry ∨ e = .notDirectory then "No such file" else e.message)
  | .plain, creating path e =>
    "cannot create " ++ path ++ ": " ++
      (if e = .noEntry ∨ e = .notDirectory then "Directory nonexistent" else e.message)
  | .plain, present path => "cannot create " ++ path ++ ": File exists"
  | .bash, opening path e | .bash, creating path e => path ++ ": " ++ e.message
  | .bash, present path => path ++ ": cannot overwrite existing file"
  | _, closed name => name ++ ": Bad file descriptor"
  | _, ambiguous source => source ++ ": ambiguous redirect"
  | _, unnumbered name => name ++ ": cannot assign fd to variable"
  | _, told => ""

def setDescriptor (n : Nat) (c : Option Channel) : Act Unit :=
  modify fun s => { s with
    descriptors := (c.map fun c => (n, c)).toList ++ s.descriptors.filter (·.1 ≠ n) }

/-- The number of the first new descriptor whose number a variable gets. -/
def firstNamed : Nat := 10

/-- The number that a variable or an element holds. -/
def heldNumber (name : String) : Act (Option Nat) := do
  let text ← match State.splitKey name with
    | (_, none) => value? name
    | (base, some key) => do
      let key ← keyOf base key
      pure ((← binding? base).bind (·.content.element? key))
  return (text.getD "").toNat?

/-- The number that a redirection directs. A variable gets the first free number. -/
def numberOf (standard : Nat) : Descriptor → Act (Except RedirectFault Nat)
  | .standard => return .ok standard
  | .number n => return .ok n
  | .variable name => do
    let held := (← get).descriptors.map (·.1)
    let free := (List.range (held.length + 1)).map (· + firstNamed)
    let n := (free.find? (!held.contains ·)).getD firstNamed
    try
      match State.splitKey name with
      | (_, none) => assign name (toString n)
      | (base, some key) => assignTo base (some (← keyOf base key)) false (toString n)
      return .ok n
    catch
      | .abandon => return .error (.unnumbered name)
      | j => throw j

/-- The number of a descriptor that is there already. -/
def givenNumber (standard : Nat) (d : Descriptor) : Act (Except RedirectFault Nat) := do
  match d with
  | .variable name =>
    match ← heldNumber name with
    | some n => return .ok n
    | none => return .error (.ambiguous name)
  | d => numberOf standard d

/-- Opens a file and puts it under a descriptor. -/
def openInto (d : Descriptor) (standard : Nat) (path : String) (opening : Opening) :
    Act (Option RedirectFault) := do
  let s ← get
  let fault (e : OsError) : RedirectFault :=
    if opening = .reading then .opening path e else .creating path e
  match (process s).openFile path opening s.machine with
  | .error e => return some (fault e)
  | .ok (c, machine) =>
    set { s with machine }
    match ← numberOf standard d with
    | .error f => return some f
    | .ok n =>
      setDescriptor n (some c)
      return none

/-- Whether a regular file is at a path. -/
def holdsFile (path : String) : Act Bool := do
  let s ← get
  return match s.machine.tree.find s.here path with
    | .ok (.file _) | .ok (.tool _) | .ok (.record _) => true
    | _ => false

/-- Makes a file empty, unless it is to be kept. The plain shell only opens what is there and is no
file then. -/
def createInto (d : Descriptor) (standard : Nat) (path : String) (overwrite : Bool) :
    Act (Option RedirectFault) := do
  let keeps := !overwrite && (← isOn .keepFiles)
  if keeps ∧ (← holdsFile path) then return some (.present path)
  let s ← get
  let isThere : Bool := match s.machine.tree.find s.here path with
    | .ok _ => true
    | .error _ => false
  match ← openInto d standard path .replacing with
  | some (.creating path e) =>
    return some (if keeps && isThere && (← isPlain) then .opening path e else .creating path e)
  | result => return result

/-- Puts what is under a descriptor under another one too. -/
def copyInto (d : Descriptor) (standard source : Nat) (name : String) : Act (Option RedirectFault) := do
  match (← get).descriptors.lookup source with
  | none => return some (.closed name)
  | some c =>
    match ← numberOf standard d with
    | .error f => return some f
    | .ok n =>
      setDescriptor n (some c)
      return none

/-- The only field that the target of a redirection expands to. -/
def targetOf (x : Scripts) (w : Word) : Act (Except RedirectFault String) := do
  match ← dialect with
  | .plain => return .ok (← textOfWord x w.pieces)
  | .bash =>
    let words := if ← isOn .braces then Braces.expand w else [w]
    match (← words.mapM fun w => fieldsOfWord x w.pieces).flatten with
    | [path] => return .ok path
    | _ => return .error (.ambiguous w.source)

/-- Puts a text to read under a descriptor. -/
def supplyInto (d : Descriptor) (text : String) : Act (Option RedirectFault) := do
  let s ← get
  let (c, machine) := s.machine.supply text
  set { s with machine }
  match ← numberOf 0 d with
  | .error f => return some f
  | .ok n =>
    setDescriptor n (some c)
    return none

/-- What the large shell calls a descriptor that is to be copied and is not there: a number that is
written as such, or else what it guesses to be wrong. -/
def closedName (r : Redirection) (standard : Nat) (digits : String) : String :=
  match r.descriptor with
  | .variable name => name
  | .standard => if r.target.source = digits ++ "-" then digits else r.target.source
  | .number n =>
    if r.target.source = digits ∨ r.target.source = digits ++ "-" then digits
    else if n = standard then r.target.source
    else toString n

/-- Copies a descriptor, closes one, or lets one take the place of another. -/
def copy (x : Scripts) (r : Redirection) (toOutput : Bool) : Act (Option RedirectFault) := do
  let d ← dialect
  let standard := if toOutput then 1 else 0
  let isNumber (cs : List Char) : Bool := !cs.isEmpty && cs.all Char.isDigit
  match ← targetOf x r.target with
  | .error f => return some f
  | .ok "-" =>
    match ← givenNumber standard r.descriptor with
    | .error f => return some f
    | .ok n =>
      setDescriptor n none
      return none
  | .ok target =>
    let cs := target.toList
    let moves := d = .bash && cs.getLast? == some '-'
    let digits := if moves then cs.dropLast else cs
    if isNumber digits ∧ (d = .bash ∨ cs.length = 1) then
      let source := (String.ofList digits).toNat?.getD 0
      let result ← copyInto r.descriptor standard source (if d = .plain then String.ofList digits
        else closedName r standard (String.ofList digits))
      if moves ∧ result.isNone ∧ r.descriptor ≠ .number source then setDescriptor source none
      return result
    else if d = .plain then
      modify fun s => { s with line := s.reached }
      complain "Syntax error: Bad fd number"
      setStatus 2
      throw .abandon
    else if toOutput ∧ (r.descriptor = .standard ∨ r.descriptor = .number 1) then
      match ← createInto .standard 1 target false with
      | some f => return some f
      | none => copyInto (.number 2) 2 1 "1"
    else return some (.ambiguous r.target.source)

/-- Performs a redirection. -/
def redirect (x : Scripts) (r : Redirection) : Act (Option RedirectFault) := do
  match r.action with
  | .document _ _ _ _ =>
    try supplyInto r.descriptor (← textOfWord x r.target.pieces)
    catch
      | .abandon => if ← isPlain then return some .told else throw .abandon
      | j => throw j
  | .text => supplyInto r.descriptor ((← textOfWord x r.target.pieces) ++ "\n")
  | .copy toOutput => copy x r toOutput
  | action =>
    match ← targetOf x r.target with
    | .error f => return some f
    | .ok path =>
      match action with
      | .append => openInto r.descriptor 1 path .appending
      | .inputOutput => openInto r.descriptor 0 path .changing
      | .output overwrite => createInto r.descriptor 1 path overwrite
      | .both append =>
        match ← if append then openInto .standard 1 path .appending
            else createInto .standard 1 path false with
        | some f => return some f
        | none => copyInto (.number 2) 2 1 "1"
      | _ => openInto r.descriptor 0 path .reading

/-- Performs redirections up to the first that fails, for which a message is given. -/
def redirectAll (x : Scripts) : List Redirection → Act Bool
  | [] => return true
  | r :: rs => do
    match ← redirect x r with
    | none => redirectAll x rs
    | some f =>
      let d ← dialect
      if !(f matches .told) then complain (f.message d)
      setStatus (if d = .plain then 2 else 1)
      return false

/-- Performs redirections in a copy of the large shell: what that does to variables is lost, and what
ends it is only a failure. -/
def redirectApart (x : Scripts) (rs : List Redirection) : Act Bool := do
  let before := (← get).bindings
  let directed ←
    try redirectAll x rs
    catch
      | .abandon | .abandonAll | .exit => pure false
      | j => throw j
  modify fun s => { s with bindings := before }
  return directed

/-- The descriptors that a redirection directs, but for one whose number a variable gets. One that is
moved to a descriptor counts if that one was in use. -/
def directs (old : List (Nat × Channel)) (r : Redirection) : List Nat :=
  let target := r.target.source.toList
  let digits := target.dropLast
  let withMoved (n : Nat) : List Nat :=
    if target.getLast? = some '-' ∧ !digits.isEmpty ∧ digits.all Char.isDigit ∧ (old.lookup n).isSome then
      n :: (String.ofList digits).toNat?.toList
    else [n]
  match r.descriptor, r.action with
  | .variable _, _ => []
  | .number n, .copy _ => withMoved n
  | .number n, _ => [n]
  | .standard, .both _ => [1, 2]
  | .standard, .copy true => if target.all fun c => c.isDigit || c = '-' then withMoved 1 else [1, 2]
  | .standard, .copy false => withMoved 0
  | .standard, .output _ | .standard, .append => [1]
  | .standard, _ => [0]

/-- Puts descriptors back to how they were before redirections. What else has been done to descriptors
stays. -/
def putBackDescriptors (rs : List Redirection) (old : List (Nat × Channel)) : Act Unit := do
  let named ← if ← isFurtherOn "varredir_close" then
      (rs.filterMap fun r => match r.descriptor with
        | .variable name => some name
        | _ => none).filterMapM heldNumber
    else pure []
  let directed := rs.flatMap (directs old) ++ named
  if !directed.isEmpty then
    modify fun s => { s with
      descriptors := s.descriptors.filter (fun d => !directed.contains d.1) ++
        old.filter fun d => directed.contains d.1 }

/-- Does something with its descriptors directed elsewhere, and puts them back. -/
def redirected (x : Scripts) (rs : List Redirection) (a : Act Unit) : Act Unit := do
  if rs.isEmpty then a
  else
    let old := (← get).descriptors
    always (putBackDescriptors rs old) do
      if ← redirectAll x rs then a

end ScriptSearch.Host.Shell.Act
