import ScriptSearch.Host.FileTree.Change

/-! Processes and what they share. A machine has the files, the texts that are on their way from a
writer to a reader, and a clock. A process reaches files and texts through its descriptors.

What runs at the same time is run one after the other here. So that this can be told from the outside
as little as possible, a process can be halted: at a time up to which others have come, or where it
writes more than a reader has taken so far. What has been halted is run again from its start later on,
when it can go further. -/

namespace ScriptSearch.Host

/-- What a descriptor stands for. -/
inductive Channel
  | null
  /-- Reads as zero bytes; takes what is written without keeping it. -/
  | zeros
  /-- Takes nothing. -/
  | full
  /-- Can neither be read nor written. -/
  | directory
  /-- A text on its way: what is written goes to its end, what is read is taken from its
  beginning. -/
  | stream (n : Nat)
  /-- A file that has been opened, and what can be done with it. -/
  | file (n : Nat) (readable writable : Bool)
  deriving DecidableEq, Repr

/-- A file that has been opened. -/
structure OpenFile where
  node : Nat
  /-- Behind how many bytes reading and writing go on. -/
  place : Nat := 0
  /-- Whether everything is written at the end. -/
  appends : Bool := false
  deriving Repr

/-- A text on its way that has room for only so much. -/
structure Pipe where
  /-- The number of the text. -/
  stream : Nat
  /-- How many bytes can still be written. -/
  room : Nat
  /-- Whether nobody is left who reads it: what there is no room for is refused. -/
  broken : Bool := false
  /-- Whether a reader has asked for more than there was. -/
  starved : Bool := false
  deriving Repr

/-- Why a process has been halted. -/
inductive Halt
  /-- It sleeps beyond the time that the others have come to, up to another time. -/
  | asleep (wake : Nat)
  /-- It writes more than there is room for. -/
  | blocked (stream : Nat)
  /-- It reads what others have still to write. -/
  | hungry
  deriving DecidableEq, Repr

/-- A signal on its way to a process. -/
structure Sent where
  number : Nat
  signal : Fin 128
  time : Nat
  deriving DecidableEq, Repr

structure Machine where
  tree : FileTree
  streams : Array String
  opened : Array OpenFile := #[]
  /-- How many microseconds have passed. -/
  clock : Nat := 0
  /-- The time at which what is run is halted. -/
  deadline : Option Nat := none
  halted : Option Halt := none
  /-- Texts on their way that others still write to. -/
  live : List Nat := []
  /-- Whether all of such a text has been read. -/
  drained : Bool := false
  pipes : List Pipe := []
  /-- Processes beside others that have not come to an end, by number. -/
  running : List Nat := []
  /-- How many processes there have been. -/
  started : Nat := 1
  signals : List Sent := []

/-- A program's view of its own run. -/
structure Process where
  /-- The number of the process. -/
  number : Nat
  /-- The processes that wait for this one, the nearest first. -/
  ancestors : List Nat := []
  /-- Signals that have no effect on it. -/
  ignored : List (Fin 128) := []
  name : String
  args : List String
  /-- The variables, each as its name, `=` and its value. -/
  environment : List String
  here : Directory
  descriptors : List (Nat × Channel)
  /-- The bits that new files do not get. -/
  mask : Nat := 0o022

/-- What is done to a machine. -/
abbrev Activity := StateM Machine

/-- Runs the file at a path as a process, or says why not. -/
abbrev Execution := (path : String) → Process → Machine → Except OsError (Machine × Termination)

/-- How a program leaves what it was doing: it ends, or the file at a path takes its place. -/
inductive Outcome
  | ended (t : Termination)
  | becomes (path : String) (p : Process)

namespace Machine

/-- The number of a new process. -/
def fresh (m : Machine) : Nat × Machine := (m.started + 1, { m with started := m.started + 1 })

/-- A new text on its way. -/
def supply (m : Machine) (text : String) : Channel × Machine :=
  (.stream m.streams.size, { m with streams := m.streams.push text })

/-- Opens a file that is there. -/
def openAt (m : Machine) (f : OpenFile) (readable writable : Bool) : Channel × Machine :=
  (.file m.opened.size readable writable, { m with opened := m.opened.push f })

/-- Bytes with others written over them from a place on. -/
def overwritten (old : List UInt8) (place : Nat) (bytes : List UInt8) : List UInt8 :=
  old.take place ++ List.replicate (place - old.length) 0 ++ bytes ++ old.drop (place + bytes.length)

/-- Writes into an opened file. -/
def writeFile (m : Machine) (text : String) (n : Nat) (f : OpenFile) : Machine :=
  let node := m.tree.node f.node
  let size := Octet.size node.text
  let place := if f.appends then size else f.place
  let new :=
    if place = size then Octet.met (node.text ++ text)
    else Octet.text (overwritten (Octet.bytes node.text) place (Octet.bytes text))
  { m with
    tree := m.tree.setNode f.node { node with text := new }
    opened := m.opened.setIfInBounds n { f with place := place + Octet.size text } }

/-- Lets time pass; what is run is halted when its deadline comes. -/
def pass (m : Machine) (time : Nat) : Machine :=
  let clock := m.clock + time
  match m.deadline with
  | some deadline =>
    if clock ≤ deadline then { m with clock }
    else { m with clock := deadline, halted := m.halted <|> some (.asleep clock) }
  | none => { m with clock }

/-- Writes to a text on its way that has room for only so much. -/
def writePipe (m : Machine) (text : String) (p : Pipe) : Machine × Bool :=
  let size := Octet.size text
  let fits := size ≤ p.room
  let taken := if fits then text else (Octet.splitAt p.room text).1
  let pipes := m.pipes.map fun q =>
    if q.stream = p.stream then { q with room := p.room - size } else q
  let m := { m with streams := m.streams.modify p.stream (· ++ taken), pipes }
  if fits then (m, true)
  else if p.broken then (m, false)
  else ({ m with halted := some (.blocked p.stream) }, true)

/-- Writes a text; the flag says whether there is still somebody who can read it. What is halted
writes nothing. -/
def send (m : Machine) (text : String) (c : Channel) : Machine × Bool :=
  if m.halted.isSome then (m, true)
  else match c with
    | .stream n =>
      match m.pipes.find? (·.stream = n) with
      | some p => m.writePipe text p
      | none => ({ m with streams := m.streams.modify n (· ++ text) }, true)
    | .file n _ true =>
      match m.opened[n]? with
      | some f => (writeFile m text n f, true)
      | none => (m, true)
    | _ => (m, true)

def write (m : Machine) (text : String) (c : Channel) : Machine := (m.send text c).1

/-- Notes whether more is asked of a text on its way than there is. -/
def starve (m : Machine) (starved : Bool) : Channel → Machine
  | .stream n =>
    if m.pipes.isEmpty then m
    else { m with pipes := m.pipes.map fun p => if p.stream = n then { p with starved } else p }
  | _ => m

/-- How many zero bytes there are to read at a time. -/
def zeroCount : Nat := 65536

/-- What there is to read. -/
def unread (m : Machine) : Channel → String
  | .stream n => Octet.met (m.streams.getD n "")
  | .zeros | .full => "".pushn '\x00' zeroCount
  | .file n true _ =>
    match m.opened[n]? with
    | some f =>
      let text := (m.tree.node f.node).text
      if f.place = 0 then text else (Octet.splitAt f.place text).2
    | none => ""
  | _ => ""

/-- Goes on behind so many bytes that have been read. -/
def advance (m : Machine) (size : Nat) : Channel → Machine
  | .stream n =>
    { m with streams := m.streams.modify n fun text => (Octet.splitAt size (Octet.met text)).2 }
  | .file n true _ =>
    { m with opened := m.opened.modify n fun f => { f with place := f.place + size } }
  | _ => m

/-- Whether others still write to what is read. -/
def isLive (m : Machine) : Channel → Bool
  | .stream n => m.live.contains n
  | _ => false

/-- Takes all that there is to read. -/
def read (m : Machine) (c : Channel) : String × Machine :=
  let text := m.unread c
  let m := (m.advance (Octet.size text) c).starve true c
  (text, if m.isLive c then { m with drained := true } else m)

/-- Notes that more is asked for than there is: one who reads what others have still to write waits. -/
def lack (m : Machine) (c : Channel) : Machine :=
  let m := m.starve true c
  if m.isLive c then { m with halted := m.halted <|> some .hungry } else m

/-- Takes as many bytes as there are up to a number of them. -/
def readBytes (m : Machine) (most : Nat) (c : Channel) : String × Machine :=
  let text := (Octet.splitAt most (m.unread c)).1
  let size := Octet.size text
  let m := m.advance size c
  (text, if size < most then m.lack c else m)

/-- Takes what there is up to and with a character, and no more characters than the limit
says; `wide` says whether characters or bytes are counted. -/
def readUpTo (m : Machine) (wide : Bool) (stop : Char) (limit : Option Nat) (c : Channel) :
    String × Machine :=
  let text := Octet.units wide (m.unread c)
  let whole := (text.takeWhile (· ≠ stop)).length + 1
  let size := match limit with
    | some most => min whole most
    | none => whole
  let found := Octet.join (text.take size)
  let m := m.advance (Octet.size found) c
  (found, if text.length < size then m.lack c else m)

end Machine

/-- The value in the first setting that begins with the name and `=`. -/
def settingOf? (environment : List String) (name : String) : Option String :=
  environment.findSome? fun setting =>
    ((name ++ "=").toList.isPrefixOf? setting.toList).map String.ofList

/-- How a file is to be opened. -/
inductive Opening
  | reading
  | replacing
  | appending
  /-- For reading and writing from its beginning. -/
  | changing
  deriving DecidableEq, Repr

namespace Process

def channel? (p : Process) (descriptor : Nat) : Option Channel := p.descriptors.lookup descriptor

/-- What keeps a text from being written. -/
def obstacle? (descriptors : List (Nat × Channel)) (descriptor : Nat) : Option OsError :=
  match descriptors.lookup descriptor with
  | none => some .badDescriptor
  | some .full => some .noSpace
  | some .directory | some (.file _ _ false) => some .badDescriptor
  | some _ => none

/-- What keeps a descriptor from being read. -/
def unreadable? (descriptors : List (Nat × Channel)) (descriptor : Nat) : Option OsError :=
  match descriptors.lookup descriptor with
  | none => some .badDescriptor
  | some .directory => some .isDirectory
  | some (.file _ false _) => some .badDescriptor
  | some _ => none

/-- Writes to a descriptor; nothing happens if it is closed. -/
def write (p : Process) (descriptor : Nat) (text : String) : Activity Unit :=
  match p.channel? descriptor with
  | some c => modify (·.write text c)
  | none => pure ()

def out (p : Process) (text : String) : Activity Unit := p.write 1 text

def err (p : Process) (text : String) : Activity Unit := p.write 2 text

/-- Takes all of the standard input. -/
def input (p : Process) : Activity String := fun m =>
  match p.channel? 0 with
  | some c => m.read c
  | none => ("", m)

/-- The descriptor that a path stands for. -/
def descriptorOf? (path : String) : Option Nat :=
  let number (text : String) : Option Nat :=
    if text ≠ "" ∧ text.toList.all Char.isDigit then text.toNat? else none
  match FileTree.names path with
  | ["", "dev", "fd", text] | ["", "proc", "self", "fd", text] => number text
  | ["", "dev", "stdin"] => some 0
  | ["", "dev", "stdout"] => some 1
  | ["", "dev", "stderr"] => some 2
  | _ => none

/-- Opens the file that is under a descriptor; a file is read and written anew from its
beginning. -/
def openAgain (p : Process) (descriptor : Nat) (opening : Opening) (m : Machine) :
    Except OsError (Channel × Machine) :=
  match p.channel? descriptor with
  | none => .error .noEntry
  | some (.file k _ _) =>
    match m.opened[k]? with
    | none => .error .noEntry
    | some f =>
      let m := if opening = .replacing then
          { m with tree := m.tree.setNode f.node { m.tree.node f.node with text := "" } }
        else m
      .ok (m.openAt { node := f.node, appends := decide (opening = .appending) }
        (opening matches .reading | .changing) (opening ≠ .reading))
  | some c => .ok (c, m)

/-- Opens the file at a path. -/
def openFile (p : Process) (path : String) (opening : Opening) (m : Machine) :
    Except OsError (Channel × Machine) :=
  let readable := opening matches .reading | .changing
  let writable := opening ≠ .reading
  let appends := decide (opening = .appending)
  match descriptorOf? path with
  | some n => p.openAgain n opening m
  | none =>
    match m.tree.locate p.here path, opening with
    | .error .noEntry, .replacing | .error .noEntry, .appending | .error .noEntry, .changing => do
      if path = "" then .error .noEntry
      let location ← m.tree.destination FileTree.linkLimit (FileTree.start p.here path)
        (FileTree.names path)
      if !m.tree.mayChange location.dropLast then .error .accessDenied
      let node := m.tree.nodes.size
      let mode := 0o666 - (0o666 &&& p.mask)
      let m := { m with tree := m.tree.putFile location { text := "", mode } }
      .ok (m.openAt { node, appends } readable writable)
    | .error e, _ => .error e
    | .ok d, _ => do
      let e ← m.tree.entry d
      let denied := (readable && !m.tree.permits .read d.location e) ||
        (writable && !m.tree.permits .write d.location e)
      match e, opening with
      | .directory _, .reading => if denied then .error .accessDenied else .ok (.directory, m)
      | .directory _, _ => .error .isDirectory
      | .descriptor n, opening => p.openAgain n opening m
      | e, opening =>
        if denied then .error .accessDenied
        else match e with
          | .file node =>
            let m := if opening = .replacing then
                { m with tree := m.tree.setNode node { m.tree.node node with text := "" } }
              else m
            .ok (m.openAt { node, appends } readable writable)
          | .record text => .ok (m.supply text)
          | .tool _ => .ok (m.supply "")
          | .null => .ok (.null, m)
          | .zeros => .ok (.zeros, m)
          | .full => .ok (.full, m)
          | .sealed => .error .noDevice
          | _ => .error .noEntry

/-- The opened file under a descriptor. -/
def openFile? (p : Process) (m : Machine) (descriptor : Nat) : Option OpenFile :=
  match p.channel? descriptor with
  | some (.file n _ _) => m.opened[n]?
  | _ => none

/-- Whether a file, or the standard input under the name `-`, would grow while it is copied to
the standard output. -/
def writesInto (p : Process) (name : String) (m : Machine) : Bool :=
  let source : Option (Nat × Nat) :=
    if name = "-" then (p.openFile? m 0).map fun f => (f.node, f.place)
    else match m.tree.find p.here name with
      | .ok (.file node) => some (node, 0)
      | _ => none
  match source, p.openFile? m 1 with
  | some (node, place), some f =>
    node = f.node && place < if f.appends then Octet.size (m.tree.node node).text else f.place
  | _, _ => false

/-- The text of the file at a path. -/
def read (p : Process) (path : String) (m : Machine) : Except OsError (String × Machine) := do
  match ← p.openFile path .reading m with
  | (.directory, _) => .error .isDirectory
  | (c, m) => .ok (m.read c)

end Process

end ScriptSearch.Host
