import ScriptSearch.Command
import ScriptSearch.Host.Octet
import ScriptSearch.Text.Split

/-! A tree of files, as a list of entries under canonical locations, and the walk that
follows a written path in it. The walk takes the names of the path one by one: an
empty name or `.` stays, `..` goes up, a link puts the names of its target in front of
those that are left. Every name, also an empty one, needs a directory to be taken from.

A file's text and mode are kept apart from its entries, as a file can have several of them and
outlives the last one while it is open. A process can work in a directory that has been
removed. Such a directory still leads up, but nothing can be found or made in it. -/

namespace ScriptSearch.Host

/-- Programs of the system that can be run: the two shells, and all others by name. -/
inductive Tool
  | dash
  | bash
  | utility (name : String)
  deriving DecidableEq, Repr

/-- What is kept of a file. The mode is a number of twelve bits. -/
structure FileNode where
  text : String := ""
  mode : Nat := 0o644
  deriving DecidableEq, Repr

inductive Entry
  | directory (mode : Nat)
  | file (node : Nat)
  /-- A file of the system, which can only be read. -/
  | record (text : String)
  | tool (t : Tool)
  /-- Reads as empty, and takes what is written without keeping it. -/
  | null
  /-- Reads as zero bytes without an end. -/
  | zeros
  /-- Reads as zero bytes, and takes nothing. -/
  | full
  /-- Something that is there and cannot be opened. -/
  | sealed
  /-- Stands for what a process has under a descriptor. -/
  | descriptor (n : Nat)
  | link (target : String)
  deriving DecidableEq, Repr

/-- What is to be made under a path. -/
inductive Item
  | directory
  | file (text : String) (mode : Nat)
  | link (target : String)
  deriving DecidableEq, Repr

/-- The names from the root to an entry, without links. -/
abbrev Location := List String

/-- A directory as a process keeps hold of it: a location, and how many levels below it
the directory was before those levels were removed. -/
structure Directory where
  location : Location
  removed : Nat := 0
  deriving DecidableEq, Repr

structure FileTree where
  entries : List (Location × Entry)
  nodes : Array FileNode := #[]

namespace FileTree

/-- The longest name and the longest path that the system takes, in bytes. -/
def nameLimit : Nat := 255

def pathLimit : Nat := 4095

/-- How many links a walk follows before it gives up. -/
def linkLimit : Nat := 40

/-- The entry at a location; the root is always a directory. -/
def get? (tree : FileTree) (location : Location) : Option Entry :=
  if location = [] then some (.directory 0o755) else tree.entries.lookup location

def isDirectory (tree : FileTree) (location : Location) : Bool :=
  tree.get? location matches some (.directory _)

def node (tree : FileTree) (n : Nat) : FileNode := tree.nodes.getD n {}

/-- The text and the mode of the file at a location. -/
def node? (tree : FileTree) (location : Location) : Option FileNode :=
  match tree.get? location with
  | some (.file n) => some (tree.node n)
  | _ => none

/-- Whether what is at a location belongs to the one who runs all processes: all that is below
`/tmp`. -/
def isOwn (location : Location) : Bool := location.head? == some "tmp" && location ≠ ["tmp"]

/-- The mode of what is at a location. -/
def modeOf (tree : FileTree) (location : Location) : Entry → Nat
  | .directory mode => if location = ["tmp"] then 0o1777 else mode
  | .file n => (tree.node n).mode
  | .record _ => 0o644
  | .tool _ => 0o755
  | .link _ => 0o777
  | .null | .zeros | .full | .sealed => 0o666
  | .descriptor _ => 0o600

/-- What can be done with an entry. -/
inductive Right
  | read | write | execute
  deriving DecidableEq, Repr

def Right.bit : Right → Nat
  | read => 4
  | write => 2
  | execute => 1

/-- Whether something may be done with an entry at a location. -/
def permits (tree : FileTree) (right : Right) (location : Location) (e : Entry) : Bool :=
  let mode := tree.modeOf location e
  let bits := if isOwn location then mode / 64 else mode
  match e with
  | .descriptor _ => right ≠ .execute
  | _ => bits / right.bit % 2 = 1

/-- Whether something may be done with what is at a location. -/
def permitsAt (tree : FileTree) (right : Right) (location : Location) : Bool :=
  match tree.get? location with
  | some e => tree.permits right location e
  | none => false

/-- The names of a written path, empty ones included. -/
def names (path : String) : List String := Text.split '/' path

def isAbsolute (path : String) : Bool := path.toList.head? == some '/'

/-- Where a path starts. -/
def start (here : Directory) (path : String) : Directory :=
  if isAbsolute path then ⟨[], 0⟩ else here

/-- Where a walk stands when there are no more names, or at its first link. -/
inductive Stop
  | arrived (d : Directory)
  | link (parent : Location) (target : String) (rest : List String)
  | failed (e : OsError)

/-- Walks up to the first link. -/
def advance (tree : FileTree) (here : Directory) : List String → Stop
  | [] => .arrived here
  | name :: rest =>
    match here with
    | ⟨location, removed + 1⟩ =>
      if name = "" ∨ name = "." then advance tree here rest
      else if name = ".." then advance tree ⟨location, removed⟩ rest
      else if nameLimit < Octet.size name then .failed .nameTooLong
      else .failed .noEntry
    | ⟨location, 0⟩ =>
      if !tree.isDirectory location then .failed .notDirectory
      else if name = "" then advance tree here rest
      else if !tree.permitsAt .execute location then .failed .accessDenied
      else if name = "." then advance tree here rest
      else if name = ".." then advance tree ⟨location.dropLast, 0⟩ rest
      else if nameLimit < Octet.size name then .failed .nameTooLong
      else match tree.get? (location ++ [name]) with
        | none => .failed .noEntry
        | some (.link target) => .link location target rest
        | some _ => advance tree ⟨location ++ [name], 0⟩ rest

/-- Walks on through links, as many as are allowed. -/
def walk (tree : FileTree) : Nat → Directory → List String → Except OsError Directory
  | links, here, path =>
    match tree.advance here path with
    | .arrived d => .ok d
    | .failed e => .error e
    | .link parent target rest =>
      match links with
      | 0 => .error .tooManyLinks
      | links + 1 => walk tree links (start ⟨parent, 0⟩ target) (names target ++ rest)

/-- Where a path leads to from the current directory. -/
def locate (tree : FileTree) (here : Directory) (path : String) : Except OsError Directory :=
  if path = "" then .error .noEntry
  else if pathLimit < Octet.size path then .error .nameTooLong
  else tree.walk linkLimit (start here path) (names path)

/-- The entry at the end of a walk; a removed directory is still a directory. -/
def entry (tree : FileTree) (d : Directory) : Except OsError Entry :=
  if d.removed ≠ 0 then .ok (.directory 0o755)
  else match tree.get? d.location with
    | some entry => .ok entry
    | none => .error .noEntry

/-- The entry that a path leads to, which is never a link. -/
def find (tree : FileTree) (here : Directory) (path : String) : Except OsError Entry := do
  tree.entry (← tree.locate here path)

/-- Whether a path leads to an entry. -/
def present (tree : FileTree) (here : Directory) (path : String) : Bool :=
  (tree.find here path).isOk

/-- Whether a path leads to a directory. -/
def leadsToDirectory (tree : FileTree) (here : Directory) (path : String) : Bool :=
  tree.find here path matches .ok (.directory _)

/-- Whether a path leads to something of a kind that a process may use in a way. -/
def suits (tree : FileTree) (here : Directory) (right : Right) (kind : Entry → Bool)
    (path : String) : Bool :=
  match tree.locate here path with
  | .ok d =>
    match tree.entry d with
    | .ok e => kind e && tree.permits right d.location e
    | .error _ => false
  | .error _ => false

/-- Whether a path leads to a file that may be run. -/
def isProgram (tree : FileTree) (here : Directory) (path : String) : Bool :=
  tree.suits here .execute (fun e => e matches .file _ | .tool _) path

/-- The directory that a path leads to. -/
def directory (tree : FileTree) (here : Directory) (path : String) : Except OsError Directory := do
  let d ← tree.locate here path
  match ← tree.entry d with
  | .directory _ => .ok d
  | _ => .error .notDirectory

/-- Whether a path names a link itself. -/
def isLink (tree : FileTree) (here : Directory) (path : String) : Bool :=
  let parts := names path
  match tree.walk linkLimit (start here path) (parts.dropLast ++ [""]) with
  | .ok ⟨location, 0⟩ =>
    match tree.get? (location ++ [parts.getLastD ""]) with
    | some (.link _) => true
    | _ => false
  | _ => false

/-- The directory that is held after changes to the tree: what is no directory any more
counts as removed. -/
def settle (tree : FileTree) (d : Directory) : Directory :=
  let depth := d.location.length
  let standing := ((List.range (depth + 1)).reverse.find? fun n =>
    tree.isDirectory (d.location.take n)).getD 0
  ⟨d.location.take standing, d.removed + (depth - standing)⟩

/-- The names in a directory, in order. -/
def children (tree : FileTree) (location : Location) : List String :=
  let below := tree.entries.filterMap fun e =>
    if e.1 ≠ [] ∧ e.1.dropLast = location then e.1.getLast? else none
  below.mergeSort fun a b => decide (a ≤ b)

/-- Puts an entry at a location, in place of the one that is there. -/
def put (tree : FileTree) (location : Location) (entry : Entry) : FileTree :=
  { tree with entries := (location, entry) :: tree.entries.filter (·.1 ≠ location) }

/-- Takes away what is at a location and below it. -/
def erase (tree : FileTree) (location : Location) : FileTree :=
  { tree with entries := tree.entries.filter fun e => !location.isPrefixOf e.1 }

/-- Changes what is kept of a file. -/
def setNode (tree : FileTree) (n : Nat) (node : FileNode) : FileTree :=
  { tree with nodes := tree.nodes.setIfInBounds n node }

/-- Puts a new file at a location. -/
def putFile (tree : FileTree) (location : Location) (node : FileNode) : FileTree :=
  { tree with nodes := tree.nodes.push node }.put location (.file tree.nodes.size)

/-- Puts at a location what is to be made. -/
def putItem (tree : FileTree) (location : Location) : Item → FileTree
  | .directory => tree.put location (.directory 0o755)
  | .file text mode => tree.putFile location { text, mode }
  | .link target => tree.put location (.link target)

/-- The directory that holds a path's last name, and that name. -/
def parent (tree : FileTree) (links : Nat) (here : Directory) (parts : List String) :
    Except OsError (Location × String) := do
  match ← tree.walk links here (parts.dropLast ++ [""]) with
  | ⟨location, 0⟩ => .ok (location, parts.getLastD "")
  | _ => .error .noEntry

/-- Whether a name is one that an entry can have. -/
def isProper (name : String) : Bool := name != "" && name != "." && name != ".."

/-- The location at which a file is made that has the given names: where a link leads, if
the last name is one. -/
def destination (tree : FileTree) : Nat → Directory → List String → Except OsError Location
  | links, here, parts => do
    let (location, name) ← tree.parent links here parts
    if !isProper name then .error .isDirectory
    else if nameLimit < Octet.size name then .error .nameTooLong
    else match tree.get? (location ++ [name]), links with
      | some (.link _), 0 => .error .tooManyLinks
      | some (.link target), links + 1 =>
        destination tree links (start ⟨location, 0⟩ target) (names target)
      | _, _ => .ok (location ++ [name])

/-- The directory that a single name leads to, made if there is nothing of that name. -/
def enter (tree : FileTree) (here : Directory) (name : String) :
    Except OsError (FileTree × Directory) :=
  match tree.walk linkLimit here [name, ""] with
  | .ok d => .ok (tree, d)
  | .error e =>
    let location := here.location ++ [name]
    if e = .noEntry ∧ here.removed = 0 ∧ tree.get? location = none then
      .ok (tree.put location (.directory 0o755), ⟨location, 0⟩)
    else .error e

/-- Makes an item in a directory, unless the name is none that an entry can have. A file
takes the place of another file's text, and is made where a link leads to; all else that
exists already stays. A link needs a target. -/
def makeIn (tree : FileTree) (here : Directory) (name : String) (item : Item) : FileTree :=
  if !isProper name ∨ item = .link "" ∨ here.removed ≠ 0 then tree
  else
    let location := here.location ++ [name]
    match tree.get? location, item with
    | none, _ => tree.putItem location item
    | some (.file n), .file text mode => tree.setNode n { text, mode }
    | some (.link _), .file text mode =>
      match tree.destination linkLimit here [name] with
      | .ok target =>
        match tree.get? target with
        | none => tree.putItem target item
        | some (.file n) => tree.setNode n { text, mode }
        | _ => tree
      | .error _ => tree
    | _, _ => tree

/-- Makes an item, and the directories above it that are missing. A path through
something that is no directory makes nothing further. -/
def make (tree : FileTree) (here : Directory) (item : Item) : List String → FileTree
  | [] => tree
  | [name] => tree.makeIn here name item
  | name :: rest =>
    match tree.enter here name with
    | .ok (tree, here) => make tree here item rest
    | .error _ => tree

/-- Removes what a path names, with all that is below it, and says whether there was
anything. A link is removed itself, and not what it leads to. A directory that is named by
`.` or `..` loses what is in it and stays; so does one that is named through a link and a
slash. -/
def remove (tree : FileTree) (here : Directory) (path : String) : FileTree × Bool :=
  let parts := names path
  let last := (parts.filter (· ≠ "")).getLastD ""
  let bare := (parts.reverse.dropWhile (· = "")).reverse
  match tree.parent linkLimit (start here path) bare with
  | .error _ => (tree, false)
  | .ok (above, name) =>
    let slashed := parts.getLast? = some ""
    match tree.get? (above ++ [name]), slashed || !isProper last with
    | some (.link _), true | none, true =>
      match tree.directory here path with
      | .ok ⟨location, 0⟩ =>
        ({ tree with
          entries := tree.entries.filter fun e => e.1 = location || !location.isPrefixOf e.1 }, true)
      | _ => (tree, false)
    | some (.directory _), true => (tree.erase (above ++ [name]), true)
    | some _, true | none, false => (tree, false)
    | some _, false => (tree.erase (above ++ [name]), true)

end FileTree

end ScriptSearch.Host
