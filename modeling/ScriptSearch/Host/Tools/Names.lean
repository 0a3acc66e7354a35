import ScriptSearch.Host.FileTree.Change
import ScriptSearch.Host.Tools.Lines
import ScriptSearch.Host.Tools.Work

/-! Tools that work on paths: they take them apart, and say where they lead. -/

namespace ScriptSearch.Host.Tools

open Work

/-! ### Parts of paths -/

/-- The last name of a path, without slashes behind it. -/
def lastName (path : String) : String :=
  let cs := path.toList
  let bare := (cs.reverse.dropWhile (· = '/')).reverse
  if bare.isEmpty then (if cs.isEmpty then "" else "/")
  else String.ofList (bare.reverse.takeWhile (· ≠ '/')).reverse

/-- A name without an ending, unless nothing else is left. -/
def withoutEnding (ending name : String) : String :=
  if ending ≠ "" ∧ name.endsWith ending ∧ name ≠ ending then
    String.ofList (name.toList.take (name.length - ending.length))
  else name

/-- The path without its last name. -/
def directoryPart (path : String) : String :=
  let cs := path.toList
  let isSlash (c : Char) : Bool := c == '/'
  let bare := cs.reverse.dropWhile isSlash
  if bare.isEmpty then (if cs.isEmpty then "." else "/")
  else
    let above := bare.dropWhile fun c => !isSlash c
    if above.isEmpty then "."
    else
      let above := above.dropWhile isSlash
      if above.isEmpty then "/" else String.ofList above.reverse

/-- Writes the last names of paths. -/
def baseNames : Work Unit := do
  let g ← options
    { rules := [flag "a" "multiple", valued "s" "suffix", flag "z" "zero"], inOrder := true }
  let stop := lineStop (g.has "z")
  if g.operands.isEmpty then refuse "missing operand"
  let tell (ending : String) (names : List String) : Work Unit :=
    say (ofLines stop (names.map fun n => withoutEnding ending (lastName n)))
  if g.hasAny ["a", "s"] then tell ((g.last? "s").getD "") g.operands
  else
    refuseExtra g 2
    tell (g.operands.getD 1 "") (g.operands.take 1)

/-- Writes paths without their last names. -/
def directoryNames : Work Unit := do
  let g ← options { rules := [flag "z" "zero"] }
  if g.operands.isEmpty then refuse "missing operand"
  say (ofLines (lineStop (g.has "z")) (g.operands.map directoryPart))

/-! ### Where paths lead -/

/-- The path of a location. -/
def pathOf (location : Location) : String := "/" ++ String.intercalate "/" location

def workingDirectory : Work Unit := do
  let g ← options { rules := [flag "L" "logical", flag "P" "physical"] }
  if !g.operands.isEmpty then warn "ignoring non-option arguments"
  let p ← process
  let logical := g.lastOf ["L", "P"] = some "L"
  let named := (settingOf? p.environment "PWD").getD ""
  let (tree, here) ← place
  let plain := !(FileTree.names named).any fun n => n = "." || n = ".."
  let fits : Bool := match tree.locate here named with
    | .ok d => d == here
    | .error _ => false
  say ((if logical && FileTree.isAbsolute named && plain && fits then named else pathOf here.location) ++ "\n")

/-- How much of a path has to be there. -/
inductive Needed
  | whole | allButLast | nothing
  deriving DecidableEq, Repr

/-- The location that names lead to, of which some need not be there. -/
def resolved (tree : FileTree) (needed : Needed) : Nat → Location → List String → Except OsError Location
  | _, location, [] => .ok location
  | 0, _, _ => .error .tooManyLinks
  | steps + 1, location, name :: rest =>
    if name = "" ∨ name = "." then
      if name = "." ∧ needed ≠ .nothing ∧ !tree.isDirectory location then
        .error (if (tree.get? location).isSome then .notDirectory else .noEntry)
      else if name = "" ∧ needed = .whole ∧ !tree.isDirectory location then .error .notDirectory
      else resolved tree needed steps location rest
    else if name = ".." then resolved tree needed steps location.dropLast rest
    else
      let next := location ++ [name]
      let isLast := (rest.all (· = ""))
      match tree.get? next with
      | some (.link target) =>
        resolved tree needed steps (if FileTree.isAbsolute target then [] else location)
          (FileTree.names target ++ rest)
      | some _ => resolved tree needed steps next rest
      | none =>
        match needed with
        | .whole => .error (if tree.isDirectory location then .noEntry else .notDirectory)
        | .allButLast =>
          if !tree.isDirectory location then .error .notDirectory
          else if isLast then resolved tree needed steps next rest
          else .error .noEntry
        | .nothing => resolved tree needed steps next rest

/-- The location of a path. -/
def resolvedPath (tree : FileTree) (here : Directory) (needed : Needed) (path : String) :
    Except OsError Location :=
  if path = "" then .error .noEntry
  else
    let start := (FileTree.start here path).location
    let parts := FileTree.names path
    resolved tree needed (parts.length + 4000) start parts

/-- A location as a path that begins in a directory. -/
def relativePath (base target : Location) : String :=
  let same := ((base.zip target).takeWhile fun (a, b) => a = b).length
  let parts := List.replicate (base.length - same) ".." ++ target.drop same
  if parts.isEmpty then "." else String.intercalate "/" parts

/-- Writes where links lead. -/
def readLinks : Work Unit := do
  let g ← options
    { rules := [flag "f" "canonicalize", flag "e" "canonicalize-existing", flag "m" "canonicalize-missing",
        flag "n" "no-newline", flag "q" "quiet", flag "s" "silent", flag "v" "verbose", flag "z" "zero"] }
  if g.operands.isEmpty then refuse "missing operand"
  let verbose := g.lastOf ["q", "s", "v"] = some "v" || (← isStrict)
  let mode := g.lastOf ["f", "e", "m"]
  let bareEnd := g.has "n" && g.operands.length = 1
  if g.has "n" ∧ !bareEnd then warn "ignoring --no-newline with multiple arguments"
  for name in g.operands do
    let (tree, here) ← place
    let found : Except OsError String := match mode with
      | none =>
        match tree.look here name with
        | .ok (_, .link target) => .ok target
        | .ok _ => .error .invalid
        | .error e => .error e
      | some mode =>
        let needed : Needed := if mode = "e" then .whole else if mode = "m" then .nothing else .allButLast
        (resolvedPath tree here needed name).map pathOf
    match found with
    | .ok text => say (if bareEnd then text else text.push (lineStop (g.has "z")))
    | .error e =>
      setStatus 1
      if verbose then warn (← about name e)

/-- Writes the paths of locations. -/
def realPaths : Work Unit := do
  let g ← options
    { rules := [flag "e" "canonicalize-existing", flag "m" "canonicalize-missing", flag "L" "logical",
        flag "P" "physical", flag "q" "quiet", flag "s" "strip", flag "s" "no-symlinks", flag "z" "zero",
        valued "" "relative-to", valued "" "relative-base"] }
  if g.operands.isEmpty then refuse "missing operand"
  let needed : Needed := match g.lastOf ["e", "m"] with
    | some "e" => .whole
    | some _ => .nothing
    | none => .allButLast
  let (tree, here) ← place
  let resolve (path : String) : Except OsError Location :=
    if g.has "s" then
      resolvedPath { tree with entries := tree.entries.filter fun e => !(e.2 matches .link _) } here .nothing path
    else resolvedPath tree here needed path
  let base (option : String) : Work (Option Location) := do
    match g.last? option with
    | none => return none
    | some path =>
      match resolve path with
      | .ok location => return some location
      | .error e => fail (← about path e)
  let relativeTo ← base "relative-to"
  let relativeBase ← base "relative-base"
  for name in g.operands do
    match resolve name with
    | .error e => if g.has "q" then setStatus 1 else fault (← about name e)
    | .ok location =>
      let inside (b : Location) : Bool := b.isPrefixOf location
      let text := match relativeTo, relativeBase with
        | none, none => pathOf location
        | some base, none => relativePath base location
        | none, some b => if inside b then relativePath b location else pathOf location
        | some base, some b =>
          if inside b ∧ b.isPrefixOf base then relativePath base location else pathOf location
      say (text.push (lineStop (g.has "z")))

end ScriptSearch.Host.Tools
