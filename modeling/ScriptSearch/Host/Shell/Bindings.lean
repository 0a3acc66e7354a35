import ScriptSearch.Host.Locale
import ScriptSearch.Host.Shell.Arithmetic
import ScriptSearch.Host.Shell.Derived

/-! The variables of a shell: how they are looked up and set. A variable can stand for another one.
What a variable is given can be calculated first, and calculations set variables themselves. -/

namespace ScriptSearch.Host.Shell

namespace State

/-- A name and the key in brackets behind it. -/
def splitKey (text : String) : String × Option String :=
  let name := text.toList.takeWhile isNameChar
  match Arithmetic.bracketed (text.toList.drop name.length) with
  | some key =>
    if name.length + key.length + 2 = text.length then (String.ofList name, some (String.ofList key))
    else (text, none)
  | none => (text, none)

/-- The name of the variable outside all functions that a name stands for which leads back to itself. It
is among the variables only while a function runs that has hidden it in that way. -/
def outermost (name : String) : String := "\x00" ++ name

def isOutermost (name : String) : Bool := name.startsWith "\x00"

/-- The variable that a name leads to through variables that stand for others, and a key of one
of its elements. The first argument bounds the steps. -/
def referent (s : State) : Nat → String → String × Option String
  | 0, name => (outermost name, none)
  | steps + 1, name =>
    match s.bindings.lookup name with
    | some v =>
      match if v.reference then v.text? else none with
      | some target =>
        match splitKey target with
        | (name, some key) => (name, some key)
        | (name, none) => referent s steps name
      | none => (name, none)
    | none => (name, none)

/-- How often a variable that stands for another one is followed. -/
def referenceLimit : Nat := 8

def target (s : State) (name : String) : String × Option String :=
  match s.referent referenceLimit name with
  | (found, key) => if isOutermost found then (outermost name, none) else (found, key)

end State

namespace Act

/-- Whether the shell takes text for characters; the plain one takes it for bytes. -/
def isWide : Act Bool := do
  let s ← get
  return s.setting.dialect = .bash && Locale.isWide fun name => (s.bindings.lookup name).bind (·.text?)

def binding? (name : String) : Act (Option Variable) := return (← get).bindings.lookup name

/-- A variable that a name leads to. -/
def bound? (name : String) : Act (Option Variable) := do
  let s ← get
  return s.bound? (s.target name).1

/-- Warns as often as is said that a name leads back to itself. -/
def warnCircle (times : Nat) (name : String) : Act Unit := do
  let s ← get
  if State.isOutermost (s.target name).1 then
    for _ in List.range times do err ((← heading) ++ "warning: " ++ name ++ ": circular name reference\n")

/-- Draws the next number if a name leads to the variable that holds one. -/
def refresh (name : String) : Act Unit :=
  modify fun s =>
    if (s.target name).1 = "RANDOM" ∧ s.isDerived "RANDOM" then { s with random := s.random.next.2 } else s

/-- The value of a variable as one text, if it is set. -/
def value? (name : String) : Act (Option String) := do
  let s ← get
  match s.target name with
  | (name, some key) => return (s.bound? name).bind fun v => v.content.element? key
  | (name, none) => return (s.bound? name).bind (·.text?)

def putBinding (name : String) (v : Variable) : Act Unit :=
  modify fun s => { s with
    optionOffset := if name = "OPTIND" then 0 else s.optionOffset
    optionIndex := if name = "OPTIND" then max 1 ((v.text?.bind (·.toNat?)).getD 1) else s.optionIndex
    hashed := if name = "PATH" then [] else s.hashed
    bindings := Content.put name v s.bindings }

/-- A variable that is set only while the current command runs stays as it is now; gives how it was
before. -/
def keepLent? (name : String) : Act (Option (Option Variable)) := do
  let s ← get
  let old := s.lent.lookup name
  if old.isSome then set { s with lent := s.lent.filter (·.1 ≠ name) }
  return old

def removeBinding (name : String) : Act Unit :=
  modify fun s => { s with bindings := s.bindings.filter (·.1 ≠ name) }

/-- Whether a number can be where the reading of options has come to. -/
def isPosition (text : String) : Bool :=
  match Numeral.decimal? text with
  | some n => 0 ≤ n && n < 2147483648
  | none => false

/-- The plain shell refuses a value that cannot be where the reading of options has come to. -/
def checkPosition (name value : String) : Act Unit := do
  if name = "OPTIND" ∧ (← dialect) = .plain ∧ !isPosition value then
    fault ("Illegal number: " ++ value)

/-- The words for a variable that cannot be set. -/
def fixedMessage (d : Dialect) (name : String) : String :=
  match d with
  | .plain => name ++ ": is read only"
  | .bash => name ++ ": readonly variable"

/-- Gives up because a parameter has no value; the large shell ends. -/
def missing {α : Type} (text : String) : Act α := do
  let s ← get
  match s.setting.dialect with
  | .plain => fault text
  | .bash =>
    complain text
    exitWith (if s.setting.inline then 127 else 1)

/-- Directs the trace to a descriptor that a text names, or where it goes otherwise if there is none. -/
def directTrace (text : String) : Act Unit := do
  let s ← get
  let back : Act Unit := do
    if s.tracedTo ≠ 2 then
      set { s with tracedTo := 2, descriptors := s.descriptors.filter (·.1 ≠ s.tracedTo) }
  if text = "" then back
  else match text.toNat? with
    | some n =>
      if (s.descriptors.lookup n).isSome then modify fun s => { s with tracedTo := n }
      else complain ("BASH_XTRACEFD: " ++ text ++ ": invalid value for trace file descriptor")
    | none => complain ("BASH_XTRACEFD: " ++ text ++ ": invalid value for trace file descriptor")

/-- Puts a text into a variable, or into the element under a key. -/
def putText (name : String) (key : Option String) (text : String) : Act Unit := do
  let old := ((← binding? name).getD {})
  let wide ← isWide
  let text := match old.casing with
    | some c => c.apply wide text
    | none => text
  let exported := old.exported || (← isOn .exportAll)
  let content ← match key with
    | none => pure (old.content.withText text)
    | some key =>
      if !old.content.hasRoom key then fault (name ++ "[" ++ key ++ "]: bad array subscript")
      pure (old.content.withElement key text)
  putBinding name { old with content, exported }
  if name = "POSIXLY_CORRECT" ∧ !(← isPlain) then turn .posix true
  if name = "BASH_XTRACEFD" ∧ !(← isPlain) then directTrace text

/-- The variable that is set by a name, which must not be fixed. Outside functions, a name that leads
back to itself sets nothing. -/
def settable (name : String) : Act (String × Option String) := do
  let s ← get
  let (name, key) := s.target name
  if State.isOutermost name ∧ s.saved.isEmpty then
    setStatus 1
    throw .abandon
  if ((s.bindings.lookup name).map (·.fixed)).getD false then
    fault (fixedMessage s.setting.dialect name)
  return (name, key)

/-- Puts a text into a variable that is worked out, or into an element. One that would get elements is
worked out no more. -/
def putDerived (name : String) (key : Option String) (text : String) : Act Unit := do
  let s ← get
  if key.isSome ∧ (s.derived name).isText then
    set (s.withOrdinary name)
    putBinding name { content := s.derived name }
    putText name key text
  else set (s.withDerived name key text)

/-- Sets the element under a slot to a number that has been calculated. -/
def assignNumber (slot : Arithmetic.Slot) (n : Int) : Act Unit := do
  let (name, key) ← settable slot.name
  let content := (((← get).bound? name).map (·.content)).getD (.text none)
  let key := key <|> if content.isText ∧ slot.key = "0" then none else some slot.key
  checkPosition name (toString n)
  if (← get).isDerived name then putDerived name key (toString n) else putText name key (toString n)

/-- What a calculation sees of the variables. -/
def arithmeticValues (s : State) : Arithmetic.Values :=
  { lookup := fun slot =>
      match s.target slot.name with
      | (name, some key) => (s.bound? name).bind fun v => v.content.element? key
      | (name, none) => (s.bound? name).bind fun v => v.content.element? slot.key
    isThere := fun name => (s.bound? (s.target name).1).any (·.content.isSet)
    isTable := fun name => ((s.bound? (s.target name).1).map (·.content.isTable)).getD false
    hasRoom := fun slot =>
      match s.target slot.name with
      | (_, some _) => true
      | (name, none) =>
        match (s.bound? name).map (·.content) with
        | some content => content.hasRoom slot.key
        | none => (Content.list none).hasRoom slot.key
    random := if s.isDerived "RANDOM" then some s.random else none
    strict := s.setting.dialect = .bash && s.switches.contains .demandSet }

/-- Does a calculation, and sets the variables that it sets. The large shell leaves what it is doing
by a jump if there is no result. -/
def calculate (heading text : String) (jump : Jump := .abandon) : Act Int := do
  let s ← get
  let d := s.setting.dialect
  let (result, values) := Arithmetic.evaluate d (arithmeticValues s) text
  for note in values.notes.reverse do complain note
  for (slot, value) in values.set.reverse do assignNumber slot value
  if let some random := values.random then modify fun s => { s with random }
  match result with
  | .ok n => return n
  | .error .overflow => throw (.killed Signal.unheld)
  | .error f =>
    if let some name := f.missing? then missing (name ++ ": unbound variable")
    complain ((if f.isSubscript then "" else heading) ++ f.message d)
    setStatus (if d = .plain then 2 else 1)
    throw (if d = .plain then .abandon else if f.isSubscript then .abandonAll else jump)

/-- The text that a variable gets for a value: calculated if it is to be, and behind what it
holds already if that is to stay. -/
def valueFor (v : Variable) (key : Option String) (append : Bool) (text : String) : Act String := do
  let held := if append then v.content.element? (key.getD "0") else none
  if v.integer then
    let heading := match (← get).setter with
      | some name => name ++ ": "
      | none => ""
    let n ← calculate heading text .abandonAll
    match held with
    | some old => return toString (Arithmetic.wrap ((← calculate heading old .abandonAll) + n))
    | none => return toString n
  else return held.getD "" ++ text

/-- Characters in the name of an alias of the large shell. -/
def isAliasChar (c : Char) : Bool :=
  !("/ \t$\x60=\n;&|<>()\\\"'".toList.contains c)

/-- Sets a variable, or the element under a key; it is a fault if its value is fixed. A variable that
is worked out keeps its number if the new one cannot be calculated. -/
def assignTo (name : String) (key : Option String) (append : Bool) (text : String) : Act Unit := do
  warnCircle (if key.isSome then 2 else 1) name
  let (name, inner) ← settable name
  checkPosition name text
  let key := inner <|> key
  let s ← get
  let v := (s.bound? name).getD {}
  if v.reference ∧ v.text?.isNone then
    putBinding name { v with content := .text (some text) }
  else
    if !s.isDerived name then putText name key (← valueFor v key append text)
    else if name = "BASH_ALIASES" ∧ !(key.getD "").toList.all isAliasChar then
      complain ("\x60" ++ key.getD "" ++ "': invalid alias name")
    else
      try putDerived name key (← valueFor v key append text)
      catch
        | .abandonAll => if name = "SECONDS" then putDerived name key "0"
        | j => throw j

def assign (name value : String) : Act Unit := assignTo name none false value

/-- Sets variables, and says whether that was possible. The plain shell gives up what it is doing if it
is not. -/
def managed (a : Act Unit) : Act Bool := do
  if ← isPlain then
    a
    return true
  try
    a
    return true
  catch
    | .abandon => return false
    | j => throw j

/-- Sets a variable to an empty value, or to no value of a kind that has elements. -/
def assignContent (name : String) (content : Content) : Act Unit := do
  warnCircle 1 name
  let (name, _) ← settable name
  if (← get).isDerived name ∧ !((← get).derived name).isText then return
  modify fun s => s.withOrdinary name
  let v := (← binding? name).getD {}
  let exported := v.exported || (← isOn .exportAll)
  putBinding name { v with content, exported }

/-- The key that the text of a subscript stands for: a number, unless the elements are found by
any text. -/
def keyOf (name text : String) : Act String := do
  let s ← get
  let content := ((s.bound? (s.target name).1).map (·.content)).getD (.text none)
  if content.isTable then return text else return toString (← calculate "" text .abandonAll)

/-- Puts variables that a function has had for itself back to how they were. What the function has done
to a variable outside all functions by a name that led back to itself stays. -/
def restoreSaved (saved : List (String × Option Variable)) : Act Unit := do
  for (name, old) in saved do
    match old with
    | some v => putBinding name v
    | none => removeBinding name
    if let some v ← binding? (State.outermost name) then
      removeBinding (State.outermost name)
      let s ← get
      let outer := s.saved.drop 1
      match (List.range outer.length).reverse.find? fun n => ((outer.getD n []).lookup name).isSome with
      | some n =>
        let replaced := outer.modify n fun frame =>
          frame.map fun entry => if entry.1 = name then (name, some v) else entry
        set { s with saved := s.saved.take 1 ++ replaced }
      | none => putBinding name v

/-- Takes a variable away. One of the innermost function stays, without a value; one of another
function gives the place back to the one that it has hidden. -/
def removeVariable (name : String) : Act Unit := do
  if name = "BASH_XTRACEFD" ∧ !(← isPlain) then directTrace ""
  modify fun s => s.withOrdinary name
  let s ← get
  let inOuter := (s.saved.drop 1).any fun frame => (frame.lookup name).isSome
  let inInner := ((s.saved.head?).getD []).any (·.1 = name)
  if s.setting.dialect = .plain ∨ (!inInner ∧ !inOuter) then removeBinding name
  else if inInner then putBinding name {}
  else
    let frames := s.saved.drop 1
    let index := frames.findIdx fun frame => (frame.lookup name).isSome
    let old := ((frames.getD index []).lookup name).getD none
    set { s with
      saved := s.saved.take 1 ++ frames.modify index fun frame => frame.filter (·.1 ≠ name) }
    match old with
    | some v => putBinding name v
    | none => removeBinding name

end Act

end ScriptSearch.Host.Shell
