import ScriptSearch.Host.FileTree

/-! Changes to a tree of files, one at a time and each with the error that refuses it: making
and removing directories, links and files, and giving an entry another name. -/

namespace ScriptSearch.Host.FileTree

/-- Where a path's last name stands: the directory, the name, and whether a slash follows. -/
structure Place where
  parent : Location
  name : String
  slashed : Bool
  deriving Repr

def Place.location (p : Place) : Location := p.parent ++ [p.name]

/-- The place that a path means, whose last name is not followed. -/
def place (tree : FileTree) (here : Directory) (path : String) : Except OsError Place := do
  if path = "" then .error .noEntry
  if pathLimit < Octet.size path then .error .nameTooLong
  let parts := names path
  let bare := (parts.reverse.dropWhile (· = "")).reverse
  let slashed := decide (bare.length < parts.length)
  if bare.isEmpty then .ok ⟨[], "", true⟩
  else
    let (parent, name) ← tree.parent linkLimit (start here path) bare
    if nameLimit < Octet.size name then .error .nameTooLong
    if !tree.permitsAt .execute parent then .error .accessDenied
    .ok ⟨parent, name, slashed⟩

/-- Whether entries may be made and removed in a directory. -/
def mayChange (tree : FileTree) (directory : Location) : Bool :=
  tree.permitsAt .write directory && tree.permitsAt .execute directory

/-- What a path means when a link at its end is not followed, and where that is. -/
def look (tree : FileTree) (here : Directory) (path : String) : Except OsError (Location × Entry) := do
  let p ← tree.place here path
  if p.slashed ∨ !isProper p.name then
    let d ← tree.locate here path
    .ok (d.location, ← tree.entry d)
  else match tree.get? p.location with
    | some e => .ok (p.location, e)
    | none => .error .noEntry

/-- Whether there is nothing in a directory. -/
def isEmptyAt (tree : FileTree) (location : Location) : Bool :=
  !tree.entries.any fun e => e.1.dropLast = location && e.1 ≠ []

/-- Makes a directory. -/
def makeDirectory (tree : FileTree) (here : Directory) (path : String) (mode : Nat) :
    Except OsError FileTree := do
  let p ← tree.place here path
  if !isProper p.name ∨ (tree.get? p.location).isSome then .error .alreadyThere
  if !tree.mayChange p.parent then .error .accessDenied
  .ok (tree.put p.location (.directory mode))

/-- Makes an entry that is no directory, where there is nothing yet. -/
def makeEntry (tree : FileTree) (here : Directory) (path : String) (put : Location → FileTree) :
    Except OsError FileTree := do
  let p ← tree.place here path
  if !isProper p.name ∨ (tree.get? p.location).isSome then .error .alreadyThere
  if p.slashed then .error .noEntry
  if !tree.mayChange p.parent then .error .accessDenied
  .ok (put p.location)

/-- Makes a link that leads to a target. -/
def makeLink (tree : FileTree) (here : Directory) (path target : String) : Except OsError FileTree :=
  if target = "" then .error .noEntry
  else tree.makeEntry here path fun location => tree.put location (.link target)

/-- Makes one more entry for what is at a path. -/
def makeName (tree : FileTree) (here : Directory) (path new : String) : Except OsError FileTree := do
  let (location, e) ← tree.look here path
  match e with
  | .directory _ => .error .notPermitted
  | e =>
    if !isOwn location then .error .notPermitted
    tree.makeEntry here new fun location => tree.put location e

/-- Removes an entry that is no directory. -/
def unlink (tree : FileTree) (here : Directory) (path : String) : Except OsError FileTree := do
  let p ← tree.place here path
  if !isProper p.name then .error .isDirectory
  match tree.get? p.location with
  | none => .error .noEntry
  | some e =>
    if p.slashed ∧ !(e matches .directory _) then .error .notDirectory
    if !tree.mayChange p.parent then .error .accessDenied
    if e matches .directory _ then .error .isDirectory
    .ok (tree.erase p.location)

/-- Removes an empty directory. -/
def removeDirectory (tree : FileTree) (here : Directory) (path : String) : Except OsError FileTree := do
  let p ← tree.place here path
  if p.name = "." then .error .invalid
  if p.name = ".." ∨ p.name = "" then .error .notEmpty
  match tree.get? p.location with
  | none => .error .noEntry
  | some (.directory _) =>
    if !tree.mayChange p.parent then .error .accessDenied
    if !tree.isEmptyAt p.location then .error .notEmpty
    .ok (tree.erase p.location)
  | some _ => .error .notDirectory

/-- Entries with everything at and below one location moved to another. -/
def moved (tree : FileTree) (old new : Location) : FileTree :=
  let tree := tree.erase new
  { tree with
    entries := tree.entries.map fun e =>
      if old.isPrefixOf e.1 then (new ++ e.1.drop old.length, e.2) else e }

/-- Gives an entry another name, in place of what has that name. -/
def rename (tree : FileTree) (here : Directory) (path new : String) : Except OsError FileTree := do
  let p ← tree.place here path
  let q ← tree.place here new
  if !isProper p.name ∨ !isProper q.name then .error .busy
  let some e := tree.get? p.location | .error .noEntry
  let isDirectory := e matches .directory _
  if (p.slashed || q.slashed) && !isDirectory then .error .notDirectory
  if !tree.mayChange p.parent ∨ !tree.mayChange q.parent then .error .accessDenied
  if p.location = q.location then return tree
  if isDirectory ∧ p.location.isPrefixOf q.location then .error .invalid
  match tree.get? q.location with
  | none => return tree.moved p.location q.location
  | some (.directory _) =>
    if !isDirectory then .error .isDirectory
    if !tree.isEmptyAt q.location then .error .notEmpty
    return tree.moved p.location q.location
  | some other =>
    if isDirectory then .error .notDirectory
    if e = other ∧ e matches .file _ then return tree
    return tree.moved p.location q.location

/-- Changes the mode of what a path leads to. -/
def changeMode (tree : FileTree) (here : Directory) (path : String) (mode : Nat) :
    Except OsError FileTree := do
  let d ← tree.locate here path
  let e ← tree.entry d
  if d.removed ≠ 0 then return tree
  if !isOwn d.location then .error .notPermitted
  match e with
  | .file n => return tree.setNode n { tree.node n with mode }
  | .directory _ => return tree.put d.location (.directory mode)
  | _ => return tree

/-- How many entries a file has. -/
def linkCount (tree : FileTree) (location : Location) (e : Entry) : Nat :=
  match e with
  | .file n => (tree.entries.filter (·.2 = .file n)).length
  | .directory _ =>
    2 + (tree.entries.filter fun e => e.1.dropLast = location && e.1 ≠ [] && e.2 matches .directory _).length
  | _ => 1

end ScriptSearch.Host.FileTree
