import ScriptSearch.Host.Letters
import ScriptSearch.Host.Tools.Records.Reading
import ScriptSearch.Host.Tools.Records.Value
import ScriptSearch.Host.Tools.Work

/-! Running scripts on the records of files. Text is worked on as bytes, each a character of its own,
and is put together again where it is written. -/

namespace ScriptSearch.Host.Records

open Tools Work

/-- What a name stands for: a value, or a table, by its number among all tables. -/
inductive Slot
  | value (v : Value)
  | table (n : Nat)

/-- A row of names with what they stand for. -/
abbrev Frame := List (String × Slot)

/-- A table; the key that was used last stands first. -/
abbrev Table := List (String × Value)

structure Situation where
  script : Script
  globals : Frame := []
  /-- The names of the function that runs. -/
  locals : Frame := []
  tables : Array Table := #[]
  record : String := ""
  fields : Array String := #[]
  /-- What is left of the file that is read, and the number of the argument that comes next. -/
  input : Option String := none
  argument : Nat := 1
  readsAny : Bool := false
  /-- Files and commands that are read, with what is left of them. -/
  sources : List (String × String) := []
  /-- Files that are open for writing. -/
  opened : List String := []
  /-- Commands that are written to, with what they have been given. -/
  commands : List (String × String) := []
  /-- Text for the standard output that has not been written. -/
  out : String := ""
  /-- The ranges that a record is in. -/
  active : Array Bool := #[]
  seed : Float := 0.0

/-- What ends what is being done. -/
inductive Jump
  | next
  | nextFile
  | exit (status : Option UInt8)
  | giveBack (v : Value)
  | leaveLoop
  | nextRound

abbrev Act := ExceptT Jump (StateT Situation Work)

/-! ### Text -/

/-- A text as bytes. -/
def apart (s : String) : String := String.ofList (Octet.units false s)

/-- A text put together from bytes. -/
def whole (s : String) : String := Octet.join s.toList

/-! ### Variables -/

def global (name : String) : Act Value := do
  match (← getThe Situation).globals.lookup name with
  | some (.value v) => return v
  | _ => return .unset

def putSlot (f : Frame) (name : String) (s : Slot) : Frame := (name, s) :: f.filter (·.1 ≠ name)

def setGlobal (name : String) (v : Value) : Act Unit :=
  modifyThe Situation fun s => { s with globals := putSlot s.globals name (.value v) }

def globalText (name : String) : Act String := return (← global name).toText "%.6g"

def convertFormat : Act String := globalText "CONVFMT"

def textOf (v : Value) : Act String := do
  match v with
  | .number x => return textOfNumber (← convertFormat) x
  | v => return v.toText ""

/-- Ends with a message about where the records are. -/
def broken {α : Type} (text : String) : Act α := do
  let shown (v : Value) : String := v.toText "%.6g"
  let name ← globalText "FILENAME"
  let fnr := shown (.number (← global "FNR").toNumber)
  let nr := shown (.number (← global "NR").toNumber)
  warn ("run time error: " ++ text ++ "\n\tFILENAME=\"" ++ name ++ "\" FNR=" ++ fnr ++ " NR=" ++ nr)
  say (whole (← getThe Situation).out)
  leave 2

/-- Ends with a message. -/
def stopped {α : Type} (text : String) : Act α := do
  warn text
  say (whole (← getThe Situation).out)
  leave 2

/-- The table that a name stands for; one that stands for nothing yet becomes a table. -/
def tableOf (name : String) : Act Nat := do
  let s ← getThe Situation
  let fresh : Act Nat := do
    modifyThe Situation fun s => { s with tables := s.tables.push [] }
    return s.tables.size
  match s.locals.lookup name with
  | some (.table n) => return n
  | some (.value _) =>
    let n ← fresh
    modifyThe Situation fun s => { s with locals := putSlot s.locals name (.table n) }
    return n
  | none =>
    match s.globals.lookup name with
    | some (.table n) => return n
    | _ =>
      let n ← fresh
      modifyThe Situation fun s => { s with globals := putSlot s.globals name (.table n) }
      return n

def table (n : Nat) : Act Table := return ((← getThe Situation).tables[n]?).getD []

def setTable (n : Nat) (t : Table) : Act Unit :=
  modifyThe Situation fun s => { s with tables := s.tables.setIfInBounds n t }

/-- The value under a key, which is there from then on. -/
def element (n : Nat) (key : String) : Act Value := do
  let t ← table n
  match t.lookup key with
  | some v =>
    setTable n ((key, v) :: t.filter (·.1 ≠ key))
    return v
  | none =>
    setTable n ((key, .unset) :: t)
    return .unset

def setElement (n : Nat) (key : String) (v : Value) : Act Unit := do
  setTable n ((key, v) :: (← table n).filter (·.1 ≠ key))

/-- In which of so many rows a key is kept. -/
def rowOf (rows : Nat) (key : String) : Nat :=
  let hash := (Octet.bytes key).foldl
    (fun (h : UInt32) b => (h ^^^ b.toUInt32) * 16777619) 2166136261
  hash.toNat % rows

/-- How many rows a table has that holds so many keys. The first argument bounds the steps. -/
def rowCount : Nat → (size rows : Nat) → Nat
  | 0, _, rows => rows
  | steps + 1, size, rows => if size ≤ 12 * rows then rows else rowCount steps size (2 * rows)

/-- The keys of a table, row by row. -/
def keysOf (t : Table) : List String :=
  let rows := rowCount 40 t.length 64
  let placed := t.map fun (key, _) => (rowOf rows key, key)
  (placed.mergeSort fun a b => decide (a.1 ≤ b.1)).map (·.2)

/-! ### Expressions for texts -/

def regexFrom (s : String) : Act Regex := do
  match regexOf s with
  | .ok r => return r
  | .error f => broken (f.compileMessage s)

def findIn (r : Regex) (s : String) : Option Regex.Match := Regex.find? regexRule s.toList.toArray r 0

/-- A text cut wherever an expression is found. An empty match cuts nothing. The first argument bounds
the steps. -/
def cutBy (r : Regex) (text : Array Char) : Nat → (start begin : Nat) → List String
  | 0, start, _ => [String.ofList (text.extract start text.size).toList]
  | steps + 1, start, begin =>
    match Regex.find? regexRule text r begin with
    | none => [String.ofList (text.extract start text.size).toList]
    | some m =>
      if m.start = m.finish then
        if text.size ≤ m.start then [String.ofList (text.extract start text.size).toList]
        else cutBy r text steps start (m.start + 1)
      else
        String.ofList (text.extract start m.start).toList :: cutBy r text steps m.finish m.finish

/-- The fields of a text, as a separator cuts it. -/
def cut (separator : String) (s : String) : Act (List String) := do
  if s = "" then return []
  let isBlank (c : Char) : Bool := c == ' ' || c == '\t' || c == '\n'
  match separator.toList with
  | [' '] => return (s.split isBlank).toList.map (·.toString) |>.filter (· ≠ "")
  | [] => return s.toList.map String.singleton
  | [c] => return (s.split (· == c)).toList.map (·.toString)
  | _ =>
    let r ← regexFrom separator
    let cs := s.toList.toArray
    return cutBy r cs (cs.size + 1) 0 0

/-! ### Records and fields -/

/-- Makes a text the record, and cuts it. -/
def setRecord (text : String) : Act Unit := do
  let fields ← cut (← globalText "FS") text
  modifyThe Situation fun s => { s with record := text, fields := fields.toArray }
  setGlobal "NF" (.number (Float.ofNat fields.length))

/-- Puts the record together from its fields. -/
def rebuild : Act Unit := do
  let separator ← globalText "OFS"
  modifyThe Situation fun s => { s with record := String.intercalate separator s.fields.toList }

/-- Gives the record so many fields. -/
def setFieldCount (n : Nat) : Act Unit := do
  modifyThe Situation fun s =>
    let kept := s.fields.toList.take n
    { s with fields := (kept ++ List.replicate (n - kept.length) "").toArray }
  setGlobal "NF" (.number (Float.ofNat n))
  rebuild

/-- The number of a field. -/
def fieldIndex (v : Value) : Act Nat := do
  let n := wholePart v.toNumber
  if n < 0 then broken ("negative field index $" ++ toString n)
  if 1048576 < n then broken "field index too large"
  return n.toNat

def fieldValue (n : Nat) : Act Value := do
  let s ← getThe Situation
  if n = 0 then return .given s.record
  else
    match s.fields[n - 1]? with
    | some text => return .given text
    | none => return .unset

def setField (n : Nat) (text : String) : Act Unit := do
  if n = 0 then setRecord text
  else
    let s ← getThe Situation
    let count := max n s.fields.size
    let fields := s.fields.toList ++ List.replicate (count - s.fields.size) ""
    modifyThe Situation fun s => { s with fields := (fields.set (n - 1) text).toArray }
    setGlobal "NF" (.number (Float.ofNat count))
    rebuild

/-- Gives a variable a value. -/
def setVariable (name : String) (v : Value) : Act Unit := do
  let s ← getThe Situation
  match s.locals.lookup name with
  | some _ => modifyThe Situation fun s => { s with locals := putSlot s.locals name (.value v) }
  | none =>
    if name = "NF" then setFieldCount (wholePart v.toNumber).toNat
    else setGlobal name v

def valueOf (name : String) : Act Value := do
  let s ← getThe Situation
  match s.locals.lookup name with
  | some (.value v) => return v
  | some (.table _) => return .unset
  | none => global name

/-! ### Output -/

/-- Writes what has been put out. -/
def flushOut : Act Unit := do
  let s ← getThe Situation
  modifyThe Situation fun s => { s with out := "" }
  say (whole s.out)
  flush

/-- Runs a command line with the shell; the text is its standard input, or it has that of the tool.
What it writes is kept or not. -/
def runCommand (command : String) (input : Option String) (keeps : Bool) : Act (String × Nat) := do
  flushOut
  let p ← process
  let mut descriptors := p.descriptors
  if let some text := input then
    let (c, m) := (← machine).supply (whole text)
    set m
    descriptors := (0, c) :: descriptors.filter (·.1 ≠ 0)
  let (kept, m) := (← machine).supply ""
  set m
  if keeps then descriptors := (1, kept) :: descriptors.filter (·.1 ≠ 1)
  let name := "/bin/sh"
  let ending ← runProgram { p with name, args := ["-c", whole command], descriptors }
  let status := match ending with
    | .ok (.exited n) => n.toNat
    | .ok (.killed n) => 256 + n.val
    | .error _ => 127
  let (out, m) := (← machine).read kept
  set m
  return (apart out, status)

/-- Runs a command with what it has been given. -/
def closeCommand (command text : String) : Act Nat := do
  modifyThe Situation fun s => { s with commands := s.commands.filter (·.1 ≠ command) }
  let s ← getThe Situation
  -- what is still to be written comes behind what the command writes
  modifyThe Situation fun s => { s with out := "" }
  let (_, status) ← runCommand command (some text) false
  modifyThe Situation fun t => { t with out := s.out ++ t.out }
  return status

/-- Writes text to where it goes. -/
def write (text : String) (outlet : Option (Outlet × String)) : Act Unit := do
  match outlet with
  | none => modifyThe Situation fun s => { s with out := s.out ++ text }
  | some (.command, command) =>
    let s ← getThe Situation
    if !s.commands.any (·.1 = command) then
      flushOut
      modifyThe Situation fun s => { s with commands := s.commands ++ [(command, "")] }
    modifyThe Situation fun s =>
      { s with commands := s.commands.map fun (c, t) => (c, if c = command then t ++ text else t) }
  | some (how, file) =>
    if file = "/dev/stdout" ∨ file = "-" then modifyThe Situation fun s => { s with out := s.out ++ text }
    else if file = "/dev/stderr" then (← process).err (whole text)
    else
      let name := whole file
      if !(← getThe Situation).opened.contains file then
        let e? ← if how = .replacing then store name "" else store name "" .appending
        if let some e := e? then
          stopped ("cannot open \"" ++ name ++ "\" for output (" ++ e.message ++ ")")
        modifyThe Situation fun s => { s with opened := file :: s.opened }
      discard (store name (whole text) .appending)

/-! ### Reading records -/

/-- The first record of a text, and what is left, if there is any. -/
def takeRecord (separator text : String) : Act (Option (String × String)) := do
  if text = "" then return none
  let back (cs : List Char) : String := String.ofList cs
  match separator.toList with
  | [] =>
    let cs := text.toList.dropWhile (· = '\n')
    if cs.isEmpty then return none
    let rec go : List Char → List Char × List Char
      | '\n' :: '\n' :: rest => ([], rest.dropWhile (· = '\n'))
      | ['\n'] => ([], [])
      | c :: rest => let (r, rest) := go rest; (c :: r, rest)
      | [] => ([], [])
    let (r, rest) := go cs
    return some (back r, back rest)
  | [c] =>
    let cs := text.toList
    let r := cs.takeWhile (· ≠ c)
    return some (back r, back (cs.drop (r.length + 1)))
  | _ =>
    let r ← regexFrom separator
    let cs := text.toList.toArray
    match Regex.find? regexRule cs r 0 with
    | some m =>
      if m.start < m.finish then
        return some (back (cs.extract 0 m.start).toList, back (cs.extract m.finish cs.size).toList)
      else return some (text, "")
    | none => return some (text, "")

/-- Whether a text gives a variable a value. -/
def assignment? (s : String) : Option (String × String) :=
  let cs := s.toList
  let isFirst (c : Char) : Bool := c.isAlpha || c = '_'
  let name := cs.takeWhile fun c => c.isAlphanum || c = '_'
  match cs.drop name.length with
  | '=' :: value => if name.head?.any isFirst then some (String.ofList name, String.ofList value) else none
  | _ => none

/-- Gives a variable the value that an argument says. -/
def assign (name value : String) : Act Unit := do
  let v : Value := .given (unescape (apart value))
  if name = "NF" then setFieldCount (wholePart v.toNumber).toNat else setGlobal name v

/-- Goes on to the next file with records. The first argument bounds the steps. -/
def openNext : Nat → Act Bool
  | 0 => return false
  | steps + 1 => do
    let s ← getThe Situation
    let count := wholePart (← global "ARGC").toNumber
    if count ≤ s.argument then
      if s.readsAny then return false
      modifyThe Situation fun s => { s with readsAny := true }
      match ← contents "-" with
      | .ok text =>
        modifyThe Situation fun s => { s with input := some (apart text) }
        return true
      | .error _ => return false
    else
      modifyThe Situation fun s => { s with argument := s.argument + 1 }
      let t ← table (← tableOf "ARGV")
      let name := whole (((t.lookup (toString s.argument)).getD .unset).toText "%.6g")
      if name = "" then openNext steps
      else
        match assignment? name with
        | some (name, value) =>
          assign name value
          openNext steps
        | none =>
          match ← contents name with
          | .ok text =>
            modifyThe Situation fun s => { s with input := some (apart text), readsAny := true }
            setGlobal "FILENAME" (.text (apart name))
            setGlobal "FNR" (.number 0.0)
            return true
          | .error .isDirectory => stopped "read error (Is a directory)"
          | .error e => stopped ("cannot open " ++ name ++ " (" ++ e.message ++ ")")

/-- The next record of the files. The first argument bounds the steps. -/
def nextRecord : Nat → Act (Option String)
  | 0 => return none
  | steps + 1 => do
    match (← getThe Situation).input with
    | none => if ← openNext 1000000 then nextRecord steps else return none
    | some text =>
      match ← takeRecord (← globalText "RS") text with
      | none =>
        modifyThe Situation fun s => { s with input := none }
        nextRecord steps
      | some (r, rest) =>
        modifyThe Situation fun s => { s with input := some rest }
        for name in ["NR", "FNR"] do
          setGlobal name (.number ((← global name).toNumber + 1.0))
        return some r

/-! ### Substitution -/

/-- The text that takes the place of a match. -/
def replacement (found : List Char) : List Char → List Char
  | '\\' :: '\\' :: '&' :: rest => '\\' :: found ++ replacement found rest
  | '\\' :: '&' :: rest => '&' :: replacement found rest
  | '&' :: rest => found ++ replacement found rest
  | c :: rest => c :: replacement found rest
  | [] => []

/-- A text with the first match replaced, or all of them, and their number. The first argument bounds
the steps; `before` is where the last match has ended. -/
def substituted (r : Regex) (new : List Char) (every : Bool) (text : Array Char) :
    Nat → (start : Nat) → (before : Option Nat) → List Char × Nat
  | 0, start, _ => ((text.extract start text.size).toList, 0)
  | steps + 1, start, before =>
    let rest := (text.extract start text.size).toList
    if text.size < start then (rest, 0)
    else
      match Regex.find? regexRule text r start with
      | none => (rest, 0)
      | some m =>
        let front := (text.extract start m.start).toList
        if m.start = m.finish ∧ before = some m.start then
          match text[m.start]? with
          | some c =>
            let (t, n) := substituted r new every text steps (m.start + 1) none
            (front ++ c :: t, n)
          | none => (rest, 0)
        else
          let found := (text.extract m.start m.finish).toList
          let put := front ++ replacement found new
          if !every then (put ++ (text.extract m.finish text.size).toList, 1)
          else if m.start = m.finish then
            match text[m.finish]? with
            | some c =>
              let (t, n) := substituted r new every text steps (m.finish + 1) none
              (put ++ c :: t, n + 1)
            | none => (put, 1)
          else
            let (t, n) := substituted r new every text steps m.finish (some m.finish)
            (put ++ t, n + 1)

/-- A part of a text: so many characters from a place on, which is counted from one. -/
def part (s : String) (start length : Float) : String :=
  let first := wholePart start
  let size := wholePart length
  let stop := first + size
  let first := max first 1
  if stop ≤ first then ""
  else String.ofList ((s.toList.drop (first - 1).toNat).take (stop - first).toNat)

/-! ### Evaluation -/

/-- The value of two numbers under an operator. -/
def operate (op : Operator) (a b : Value) : Value :=
  let x := a.toNumber
  let y := b.toNumber
  .number (match op with
    | .plus => x + y
    | .minus => x - y
    | .times => x * y
    | .divided => x / y
    | .modulo => remainder x y
    | .power => x.pow y)

/-- Whether two values stand to each other as a comparison says. -/
def compares (c : Comparison) (o : Option Ordering) : Bool :=
  match c, o with
  | .unequal, none => true
  | _, none => false
  | .less, some o => o = .lt
  | .lessEqual, some o => o ≠ .gt
  | .equal, some o => o = .eq
  | .unequal, some o => o ≠ .eq
  | .greater, some o => o = .gt
  | .greaterEqual, some o => o ≠ .lt

/-- How deep evaluation goes, and how often a loop goes round. -/
def stepLimit : Nat := 10000000

mutual

/-- The value of an expression. The first argument of all these bounds the steps. -/
def eval : Nat → Expr → Act Value
  | 0, _ => return .unset
  | steps + 1, e => do
    match e with
    | .number x => return .number x
    | .text s => return .text s
    | .regex s => return ofBool (findIn (← regexFrom s) (← getThe Situation).record).isSome
    | .name s => valueOf s
    | .element t keys => element (← tableOf t) (← keyText steps keys)
    | .field e => fieldValue (← fieldIndex (← eval steps e))
    | .group e => eval steps e
    | .assign none target value =>
      let v ← eval steps value
      putInto steps target v
      return v
    | .assign (some op) target value =>
      let b ← eval steps value
      let a ← eval steps target
      let v := operate op a b
      putInto steps target v
      return v
    | .step target up before =>
      let a := (← eval steps target).toNumber
      let b := if up then a + 1.0 else a - 1.0
      putInto steps target (.number b)
      return .number (if before then b else a)
    | .binary op a b =>
      let x ← eval steps a
      return operate op x (← eval steps b)
    | .minus a => return .number (-(← eval steps a).toNumber)
    | .plus a => return .number (← eval steps a).toNumber
    | .not a => return ofBool !(← eval steps a).isTrue
    | .and a b =>
      if (← eval steps a).isTrue then return ofBool (← eval steps b).isTrue else return ofBool false
    | .or a b =>
      if (← eval steps a).isTrue then return ofBool true else return ofBool (← eval steps b).isTrue
    | .choose c a b => if (← eval steps c).isTrue then eval steps a else eval steps b
    | .concat a b =>
      let x ← textOf (← eval steps a)
      return .text (x ++ (← textOf (← eval steps b)))
    | .compare c a b =>
      let x ← eval steps a
      let y ← eval steps b
      return ofBool (compares c (x.order (← convertFormat) y))
    | .search negated a b =>
      let s ← textOf (← eval steps a)
      let r ← regexArgument steps b
      return ofBool ((findIn r s).isSome != negated)
    | .member keys t =>
      let key ← keyText steps keys
      return ofBool (((← table (← tableOf t)).lookup key).isSome)
    | .call name args => callFunction steps name args
    | .builtin b args => callBuiltin steps b args
    | .getline source target => readLine steps source target

/-- An operand as an expression for texts. -/
def regexArgument : Nat → Expr → Act Regex
  | 0, _ => regexFrom ""
  | steps + 1, e => do
    match e with
    | .regex s => regexFrom s
    | .group (.regex s) => regexFrom s
    | e => regexFrom (← textOf (← eval steps e))

/-- A key of a table. -/
def keyText : Nat → List Expr → Act String
  | 0, _ | _, [] => return ""
  | steps + 1, [e] => do textOf (← eval steps e)
  | steps + 1, e :: es => do
    let first ← textOf (← eval steps e)
    return first ++ (← globalText "SUBSEP") ++ (← keyText steps es)

def putInto : Nat → Expr → Value → Act Unit
  | 0, _, _ => return
  | steps + 1, e, v => do
    match e with
    | .name s => setVariable s v
    | .element t keys => setElement (← tableOf t) (← keyText steps keys) v
    | .field e =>
      let n ← fieldIndex (← eval steps e)
      setField n (← textOf v)
    | .group e => putInto steps e v
    | _ => return

/-- Calls a function. A name that nothing has been put into yet can become a table in it. -/
def callFunction : Nat → String → List Expr → Act Value
  | 0, _, _ => return .unset
  | steps + 1, name, args => do
    match (← getThe Situation).script.functions.find? (·.name = name) with
    | none => return .unset
    | some f =>
      let mut frame : Frame := []
      let mut lent : List (String × String) := []
      for (parameter, arg) in f.parameters.zip (args.map some ++ List.replicate f.parameters.length none) do
        match arg with
        | none => frame := (parameter, .value .unset) :: frame
        | some (.name s) =>
          let state ← getThe Situation
          match (state.locals.lookup s).orElse fun _ => state.globals.lookup s with
          | some (.table n) => frame := (parameter, .table n) :: frame
          | some (.value .unset) | none =>
            frame := (parameter, .value .unset) :: frame
            lent := (parameter, s) :: lent
          | some slot => frame := (parameter, slot) :: frame
        | some e => frame := (parameter, .value (← eval steps e)) :: frame
      let outer := (← getThe Situation).locals
      modifyThe Situation fun s => { s with locals := frame }
      let result : Except Jump Unit ← tryCatch (Except.ok <$> runAll steps f.body) fun j => pure (.error j)
      let inner := (← getThe Situation).locals
      modifyThe Situation fun s => { s with locals := outer }
      for (parameter, s) in lent do
        if let some (.table n) := inner.lookup parameter then
          modifyThe Situation fun t =>
            if (t.locals.lookup s).isSome then { t with locals := putSlot t.locals s (.table n) }
            else { t with globals := putSlot t.globals s (.table n) }
      match result with
      | .ok _ => return .unset
      | .error (.giveBack v) => return v
      | .error j => throw j

/-- Calls a function that is there. -/
def callBuiltin : Nat → Builtin → List Expr → Act Value
  | 0, _, _ => return .unset
  | steps + 1, b, args => do
    let number (i : Nat) : Act Float := do
      match args[i]? with
      | some e => return (← eval steps e).toNumber
      | none => return 0.0
    let text (i : Nat) : Act String := do
      match args[i]? with
      | some e => textOf (← eval steps e)
      | none => return ""
    let give (x : Float) : Act Value := return .number x
    match b with
    | .length =>
      match args with
      | [] => give (Float.ofNat (← getThe Situation).record.length)
      | .name s :: _ =>
        let state ← getThe Situation
        match (state.locals.lookup s).orElse fun _ => state.globals.lookup s with
        | some (.table n) => give (Float.ofNat (← table n).length)
        | _ => give (Float.ofNat (← text 0).length)
      | _ => give (Float.ofNat (← text 0).length)
    | .substr =>
      let s ← text 0
      let start ← number 1
      let length ← if args.length = 3 then number 2 else pure 1e18
      return .text (part s start length)
    | .index =>
      let s ← text 0
      let t ← text 1
      let cs := s.toList
      match (List.range (cs.length + 1)).find? fun i => t.toList.isPrefixOf (cs.drop i) with
      | some i => give (if s = "" then 0.0 else Float.ofNat (i + 1))
      | none => give 0.0
    | .split =>
      let s ← text 0
      let separator : Option Expr := args[2]?
      let parts ← match separator with
        | none => cut (← globalText "FS") s
        | some (.regex r) =>
          if s = "" then pure []
          else
            let cs := s.toList.toArray
            pure (cutBy (← regexFrom r) cs (cs.size + 1) 0 0)
        | some e => cut (← textOf (← eval steps e)) s
      let target : Option Expr := args[1]?
      match target with
      | some (.name t) =>
        let entries := parts.zipIdx.map fun (s, i) => (toString (i + 1), Value.given s)
        setTable (← tableOf t) entries.reverse
        give (Float.ofNat parts.length)
      | _ => give 0.0
    | .sub | .gsub =>
      let r ← match args[0]? with
        | some e => regexArgument steps e
        | none => regexFrom ""
      let new ← text 1
      let target := (args[2]?).getD (.field (.number 0.0))
      let s ← textOf (← eval steps target)
      let cs := s.toList.toArray
      let (t, n) := substituted r new.toList (b = .gsub) cs (2 * cs.size + 2) 0 none
      if n ≠ 0 then putInto steps target (.text (String.ofList t))
      give (Float.ofNat n)
    | .matchAt =>
      let s ← text 0
      let r ← match args[1]? with
        | some e => regexArgument steps e
        | none => regexFrom ""
      let (start, length) := match findIn r s with
        | some m => (Float.ofNat (m.start + 1), Float.ofNat (m.finish - m.start))
        | none => (0.0, -1.0)
      setGlobal "RSTART" (.number start)
      setGlobal "RLENGTH" (.number length)
      give start
    | .sprintf =>
      let format ← text 0
      return .text (← formattedText steps "sprintf" format args.tail)
    | .sin => give (← number 0).sin
    | .cos => give (← number 0).cos
    | .atan2 =>
      let y ← number 0
      give (Float.atan2 y (← number 1))
    | .exp => give (← number 0).exp
    | .log =>
      let x ← number 0
      give (if x < 0.0 then -(0.0 / 0.0) else x.log)
    | .sqrt =>
      let x ← number 0
      give (if x < 0.0 then -(0.0 / 0.0) else x.sqrt)
    | .int =>
      let x ← number 0
      match quotient x with
      | ⟨n, .finite num den⟩ => give (ofQuotient ⟨n && num / den ≠ 0, .finite (num / den) 1⟩)
      | _ => give x
    | .rand =>
      let seed := (← getThe Situation).seed
      let next := remainder (seed * 16807.0 + 1.0) 2147483647.0
      modifyThe Situation fun s => { s with seed := next }
      give (next / 2147483647.0)
    | .srand =>
      let old := (← getThe Situation).seed
      let new ← if args.isEmpty then pure 1.0 else number 0
      modifyThe Situation fun s => { s with seed := new }
      give old
    | .toLower => return .text ((← text 0).map Char.toLower)
    | .toUpper => return .text ((← text 0).map Char.toUpper)
    | .close =>
      let name ← text 0
      let s ← getThe Situation
      match s.commands.lookup name with
      | some input => give (Float.ofNat (← closeCommand name input))
      | none =>
        if s.opened.contains name then
          modifyThe Situation fun s => { s with opened := s.opened.filter (· ≠ name) }
          give 0.0
        else if (s.sources.lookup name).isSome then
          modifyThe Situation fun s => { s with sources := s.sources.filter (·.1 ≠ name) }
          give 0.0
        else give (-1.0)
    | .system =>
      let (_, status) ← runCommand (← text 0) none false
      give (Float.ofNat status)
    | .flush =>
      flushOut
      if args.isEmpty then give 0.0
      else
        let name ← text 0
        let s ← getThe Situation
        give (if s.opened.contains name ∨ (s.commands.lookup name).isSome then 0.0 else -1.0)

/-- Values written as a format says. -/
def formattedText : Nat → (name : String) → (format : String) → List Expr → Act String
  | 0, _, _, _ => return ""
  | steps + 1, name, format, args => do
    let vs ← evalAll steps args
    match formatted (← convertFormat) (format.length + 1) 1 format.toList vs with
    | (text, none) => return text
    | (text, some f) =>
      if name = "printf" then write text none
      match f with
      | .tooFew => broken ("not enough arguments passed to " ++ name ++ "(\"" ++ format ++ "\")")
      | .improper n =>
        broken ("improper conversion(number " ++ toString n ++ ") in " ++ name ++ "(\"" ++ format ++ "\")")

def evalAll : Nat → List Expr → Act (List Value)
  | 0, _ | _, [] => return []
  | steps + 1, e :: es => do
    let v ← eval steps e
    return v :: (← evalAll steps es)

/-- Reads a record from somewhere; the value says whether there was one. -/
def readLine : Nat → Source → Option Expr → Act Value
  | 0, _, _ => return .unset
  | steps + 1, source, target => do
    let give (text : String) : Act Value := do
      match target with
      | none => setRecord text
      | some e => putInto steps e (.given text)
      return .number 1.0
    match source with
    | .input =>
      match ← nextRecord 1000000 with
      | some text => give text
      | none => return .number 0.0
    | .file e =>
      let name ← textOf (← eval steps e)
      match (← getThe Situation).sources.lookup name with
      | some rest => readOn steps name rest target false
      | none =>
        match ← contents (if name = "/dev/stdin" then "-" else whole name) with
        | .error _ => return .number (-1.0)
        | .ok text => readOn steps name (apart text) target false
    | .command e =>
      let name ← textOf (← eval steps e)
      match (← getThe Situation).sources.lookup name with
      | some rest => readOn steps name rest target true
      | none =>
        let (text, _) ← runCommand name none true
        readOn steps name text target true

/-- Reads a record from what is left of a file or a command. -/
def readOn : Nat → (name rest : String) → Option Expr → (counts : Bool) → Act Value
  | 0, _, _, _, _ => return .unset
  | steps + 1, name, rest, target, counts => do
    let keep (rest : String) : Act Unit :=
      modifyThe Situation fun s => { s with sources := (name, rest) :: s.sources.filter (·.1 ≠ name) }
    match ← takeRecord (← globalText "RS") rest with
    | none =>
      keep ""
      return .number 0.0
    | some (text, rest) =>
      keep rest
      if counts then setGlobal "NR" (.number ((← global "NR").toNumber + 1.0))
      match target with
      | none => setRecord text
      | some e => putInto steps e (.given text)
      return .number 1.0

/-- Does a statement. -/
def runOne : Nat → Statement → Act Unit
  | 0, _ => return
  | steps + 1, s => do
    match s with
    | .simple e => discard (eval steps e)
    | .print isFormatted args outlet =>
      let text ←
        if isFormatted then
          match args with
          | e :: rest => formattedText steps "printf" (← textOf (← eval steps e)) rest
          | [] => pure ""
        else do
          let format ← globalText "OFMT"
          let vs ← evalAll steps args
          let record := (← getThe Situation).record
          let texts := if args.isEmpty then [record] else vs.map (·.toText format)
          pure (String.intercalate (← globalText "OFS") texts ++ (← globalText "ORS"))
      match outlet with
      | none => write text none
      | some (how, e) => write text (some (how, ← textOf (← eval steps e)))
    | .choose c a b =>
      if (← eval steps c).isTrue then runOne steps a
      else match b with
        | some b => runOne steps b
        | none => return
    | .while c body => repeating steps (some c) none body
    | .doWhile body c =>
      if ← round steps body then repeating steps (some c) none body
    | .count start c next body =>
      if let some e := start then discard (eval steps e)
      repeating steps c next body
    | .each name t body =>
      roundFor steps name (keysOf (← table (← tableOf t))) body
    | .block ss => runAll steps ss
    | .next => throw .next
    | .nextFile => throw .nextFile
    | .exit e =>
      match e with
      | some e => throw (.exit (some (UInt8.ofNat (wholePart (← eval steps e).toNumber % 256).toNat)))
      | none => throw (.exit none)
    | .giveBack e =>
      match e with
      | some e => throw (.giveBack (← eval steps e))
      | none => throw (.giveBack .unset)
    | .leaveLoop => throw .leaveLoop
    | .nextRound => throw .nextRound
    | .delete t keys =>
      let n ← tableOf t
      match keys with
      | none => setTable n []
      | some keys =>
        let key ← keyText steps keys
        setTable n ((← table n).filter (·.1 ≠ key))

/-- Does what is in a loop once; says whether the loop goes on. -/
def round : Nat → Statement → Act Bool
  | 0, _ => return false
  | steps + 1, body =>
    tryCatch (do
        runOne steps body
        return true)
      fun
        | .leaveLoop => return false
        | .nextRound => return true
        | j => throw j

/-- Goes round as long as a condition holds. -/
def repeating : Nat → (condition next : Option Expr) → Statement → Act Unit
  | 0, _, _, _ => return
  | steps + 1, c, next, body => do
    let goes ← match c with
      | some c => pure (← eval steps c).isTrue
      | none => pure true
    if goes then
      if ← round steps body then
        if let some e := next then discard (eval steps e)
        repeating steps c next body

/-- Goes round for each key. -/
def roundFor : Nat → (name : String) → List String → Statement → Act Unit
  | 0, _, _, _ | _, _, [], _ => return
  | steps + 1, name, key :: keys, body => do
    setVariable name (.given key)
    if ← round steps body then roundFor steps name keys body

def runAll : Nat → List Statement → Act Unit
  | 0, _ | _, [] => return
  | steps + 1, s :: ss => do
    runOne steps s
    runAll steps ss

end

/-! ### Rules -/

/-- Whether a rule applies to the record; `i` is its place among the rules. -/
def Pattern.applies (i : Nat) : Pattern → Act Bool
  | .first | .last => return false
  | .always => return true
  | .whenever e => return (← eval stepLimit e).isTrue
  | .range start finish => do
    let active := ((← getThe Situation).active[i]?).getD false
    if !active then
      if !(← eval stepLimit start).isTrue then return false
    let ended := (← eval stepLimit finish).isTrue
    modifyThe Situation fun s => { s with active := s.active.setIfInBounds i !ended }
    return true

/-- Does what rules say about the record. -/
def applyRules : List (Rule × Nat) → Act Unit
  | [] => return
  | (r, i) :: rest => do
    if ← r.pattern.applies i then
      match r.body with
      | some body => runAll stepLimit body
      | none => write ((← getThe Situation).record ++ (← globalText "ORS")) none
    applyRules rest

/-- Goes through the records. The first argument bounds their number. -/
def records (rules : List (Rule × Nat)) : Nat → Act Unit
  | 0 => return
  | steps + 1 => do
    match ← nextRecord 1000000 with
    | none => return
    | some text =>
      setRecord text
      tryCatch (applyRules rules) fun
        | .next => return
        | .nextFile => modifyThe Situation fun s => { s with input := none }
        | j => throw j
      records rules steps

/-- Does what is done before all records, or behind them. -/
def outer (rules : List (Rule × Nat)) (isFirst : Bool) : Act Unit := do
  for (r, _) in rules do
    let now : Bool := match r.pattern with
      | .first => isFirst
      | .last => !isFirst
      | _ => false
    if now then runAll stepLimit (r.body.getD [])

/-- Does something to its end; says whether the script is to end, and with which status. -/
def toExit (act : Act Unit) : Act (Option (Option UInt8)) :=
  tryCatch (do
      act
      return none)
    fun
      | .exit status => return some status
      | _ => return none

/-- Runs a script. -/
def Script.run (s : Script) (assigned : List (String × String)) (operands : List String) : Act Unit := do
  let p ← process
  let start : List (String × Value) :=
    [("FS", .text " "), ("OFS", .text " "), ("ORS", .text "\n"), ("RS", .text "\n"), ("NF", .number 0.0),
      ("NR", .number 0.0), ("FNR", .number 0.0), ("FILENAME", .text ""), ("SUBSEP", .text "\x1c"),
      ("CONVFMT", .text "%.6g"), ("OFMT", .text "%.6g"),
      ("ARGC", .number (Float.ofNat (operands.length + 1)))]
  for (name, v) in start do setGlobal name v
  for (s, i) in (p.name :: operands).zipIdx do
    setElement (← tableOf "ARGV") (toString i) (.given (apart s))
  let environment ← tableOf "ENVIRON"
  for setting in p.environment do
    let cs := setting.toList
    let name := cs.takeWhile (· ≠ '=')
    setElement environment (apart (String.ofList name)) (.given (apart (String.ofList (cs.drop (name.length + 1)))))
  for (name, value) in assigned do assign name value
  let rules := s.rules.zipIdx
  modifyThe Situation fun t => { t with active := Array.replicate rules.length false }
  let isLast (r : Rule × Nat) : Bool := match r.1.pattern with
    | .last => true
    | _ => false
  let isFirst (r : Rule × Nat) : Bool := match r.1.pattern with
    | .first => true
    | _ => false
  let ended ← toExit (outer rules true)
  let ended ← match ended with
    | some status => pure (some status)
    | none =>
      if rules.all isFirst then pure none
      else toExit (records (rules.filter fun r => !isFirst r && !isLast r) stepLimit)
  if ended.isSome ∧ (← getThe Situation).input.any (!·.isEmpty) then satisfied
  let status := (ended.getD none).getD 0
  let ended ← if rules.any isLast then toExit (outer rules false) else pure none
  let status := (ended.getD none).getD status
  for (command, text) in (← getThe Situation).commands do discard (closeCommand command text)
  say (whole (← getThe Situation).out)
  setStatus status

/-! ### Calls -/

/-- What the arguments ask for. -/
structure Call where
  files : List String := []
  assigned : List (String × String) := []
  separator : Option String := none
  operands : List String := []

/-- Reads the options. -/
def callOf : List String → Work Call
  | [] => return {}
  | arg :: rest => do
    let cs := arg.toList
    let option (c : Char) (value : String) (call : Call) : Work Call := do
      match c with
      | 'f' => return { call with files := value :: call.files }
      | 'F' => return { call with separator := some (call.separator.getD value) }
      | 'v' =>
        match assignment? value with
        | some a => return { call with assigned := a :: call.assigned }
        | none => fail ("improper assignment: -v " ++ value) 2
      | _ => return call
    match cs with
    | ['-', '-'] => return { operands := rest }
    | '-' :: '-' :: _ => leave 0
    | '-' :: c :: value =>
      if c = 'W' then
        if value.isEmpty then
          match rest with
          | _ :: _ => leave 0
          | [] => leave 0
        else leave 0
      else if !(['f', 'F', 'v'] : List Char).contains c then fail ("not an option: " ++ arg) 2
      else if value.isEmpty then
        match rest with
        | value :: rest =>
          if c = 'v' ∧ (assignment? value).isNone then fail ("improper assignment: -v " ++ value) 2
          option c value (← callOf rest)
        | [] => fail ("option requires an argument -- " ++ String.singleton c) 2
      else option c (String.ofList value) (← callOf rest)
    | _ => return { operands := arg :: rest }

def usage : String :=
  "Usage: mawk [Options] [Program] [file ...]\n\nProgram:\n" ++
  "    The -f option value is the name of a file containing program text.\n" ++
  "    If no -f option is given, a \"--\" ends option processing; the following\n" ++
  "    parameters are the program text.\n\nOptions:\n" ++
  "    -f program-file  Program  text is read from file instead of from the\n" ++
  "                     command-line.  Multiple -f options are accepted.\n" ++
  "    -F value         sets the field separator, FS, to value.\n" ++
  "    -v var=value     assigns value to program variable var.\n" ++
  "    --               unambiguous end of options.\n\n" ++
  "    Implementation-specific options are prefixed with \"-W\".  They can be\n    abbreviated:\n\n" ++
  "    -W version       show version information and exit.\n" ++
  "    -W dump          show assembler-like listing of program and exit.\n" ++
  "    -W help          show this message and exit.\n" ++
  "    -W interactive   set unbuffered output, line-buffered input.\n" ++
  "    -W exec file     use file as program as well as last option.\n" ++
  "    -W random=number set initial random seed.\n" ++
  "    -W sprintf=number adjust size of sprintf buffer.\n" ++
  "    -W posix_space   do not consider \"\\n\" a space.\n" ++
  "    -W usage         show this message and exit.\n"

/-- The text that a line of several texts together belongs to, by its name, and its number there. -/
def lineAmong (line : Nat) : List (String × String) → String × Nat
  | [] => ("", line)
  | [(name, _)] => (name, line)
  | (name, text) :: rest =>
    let count := (text.toList.filter (· = '\n')).length
    if line ≤ count then (name, line) else lineAmong (line - count) rest

/-- Works on the records of files as a script says. -/
def work : Work Unit := do
  modify fun g => { g with lostStatus := 2 }
  let p ← process
  if p.args.isEmpty then
    p.err usage
    leave 2
  let call ← callOf p.args
  let (texts, operands) ← match call.files, call.operands with
    | [], text :: operands => pure ([("", text ++ "\n")], operands)
    | [], [] => do
      p.err usage
      leave 2
    | files, operands => do
      let texts ← files.mapM fun file => do
        match ← contents file with
        | .ok t => return (file ++ ": ", t ++ "\n")
        | .error e => fail ("cannot open " ++ file ++ " (" ++ e.message ++ ")") 2
      pure (texts, operands)
  match Script.ofString (apart (String.join (texts.map (·.2)))) with
  | .error (.strange line c) =>
    let (place, line) := lineAmong line texts
    fail (place ++ toString line ++ ": unexpected character '" ++ String.singleton c ++ "'") 2
  | .error (.flaw f) =>
    let (place, line) := lineAmong f.line texts
    fail (place ++ "line " ++ toString line ++ ": " ++ whole f.text) 2
  | .ok s =>
    let separator := match call.separator with
      | some text => [("FS", text)]
      | none => []
    let act := s.run (separator ++ call.assigned) operands
    discard ((ExceptT.run act).run { script := s })

end ScriptSearch.Host.Records
