import ScriptSearch.Host.FileTree.Change
import ScriptSearch.Host.Mode
import ScriptSearch.Host.Tools.Lines
import ScriptSearch.Host.Tools.Names
import ScriptSearch.Host.Tools.Work

/-! Tools that make, remove and change files, directories and links. -/

namespace ScriptSearch.Host.Tools

open Work

/-- A message about a path that something cannot be done with. -/
def cannot (what name : String) (e : OsError) : Work String :=
  return what ++ " " ++ (← always name) ++ ": " ++ e.message

/-- Asks a question, and reads the answer from the standard input. -/
def ask (question : String) : Work Bool := do
  let p ← process
  p.err (p.name ++ ": " ++ question ++ "? ")
  match p.channel? 0 with
  | none => return false
  | some c =>
    let (line, m) := (← machine).readUpTo false '\n' none c
    set m
    return line.startsWith "y" || line.startsWith "Y"

/-- The changes that an option asks for, and no others. -/
def modeOption (g : Given) (letter what : String) : Work (Option (List Mode.Change)) := do
  match g.last? letter with
  | none => return none
  | some text =>
    match Mode.parse text with
    | some cs => return some cs
    | none => fail ("invalid " ++ what ++ " " ++ (← quoted text))

/-! ### Directories -/

/-- A path and the paths above it, the topmost first. -/
def pathsDownTo (path : String) : List String :=
  let parts := (FileTree.names path).zipIdx
  let ends := parts.filterMap fun (name, i) => if name ≠ "" then some (i + 1) else none
  ends.map fun n => String.intercalate "/" ((FileTree.names path).take n)

/-- Makes directories. -/
def makeDirectories : Work Unit := do
  let g ← options
    { rules := [valued "m" "mode", flag "p" "parents", flag "v" "verbose", flag "Z", perhaps "" "context"] }
  if g.operands.isEmpty then refuse "missing operand"
  let p ← process
  let changes ← modeOption g "m" "mode"
  let mask := p.mask
  let standard := Mode.without 0o777 mask
  let mode := match changes with
    | some cs => Mode.adjusted cs true mask 0o777
    | none => standard
  let make (path : String) (mode : Nat) : Work (Option OsError) := do
    let e ← change fun tree here => tree.makeDirectory here path mode
    if e.isNone ∧ g.has "v" then say ("mkdir: created directory " ++ (← always path) ++ "\n")
    return e
  for name in g.operands do
    if !g.has "p" then
      if let some e := ← make name mode then
        fault ("cannot create directory " ++ (← quoted name) ++ ": " ++ e.message)
    else
      let paths := pathsDownTo name
      let mut going := true
      for (path, i) in paths.zipIdx do
        if going then
          let (tree, here) ← place
          let last := i + 1 = paths.length
          if !tree.leadsToDirectory here path then
            match ← make path (if last then mode else standard ||| 0o300) with
            | none => pure ()
            | some e =>
              let e := if e = .alreadyThere ∧ !last then .notDirectory else e
              fault ("cannot create directory " ++ (← quoted path) ++ ": " ++ e.message)
              going := false

/-- Removes empty directories. -/
def removeDirectories : Work Unit := do
  let g ← options
    { rules := [flag "" "ignore-fail-on-non-empty", flag "p" "parents", flag "v" "verbose"] }
  if g.operands.isEmpty then refuse "missing operand"
  for name in g.operands do
    let above := if g.has "p" then (pathsDownTo name).dropLast.reverse else []
    let mut going := true
    for (path, top) in (name, true) :: above.map (·, false) do
      if going then
        if g.has "v" then say ("rmdir: removing directory, " ++ (← always path) ++ "\n")
        if let some e := ← change fun tree here => tree.removeDirectory here path then
          going := false
          let (tree, here) ← place
          let what := if top then "failed to remove" else "failed to remove directory"
          if path.endsWith "/" ∧ e = .notDirectory ∧ tree.leadsToDirectory here path then
            fault (what ++ " " ++ (← always path) ++ ": Symbolic link not followed")
          else if !(e = .notEmpty ∧ g.has "ignore-fail-on-non-empty") then fault (← cannot what path e)

/-! ### Removing -/

/-- What a question calls a file. -/
def kindOf (tree : FileTree) : Entry → String
  | .directory _ => "directory"
  | .file n => if (tree.node n).text = "" then "regular empty file" else "regular file"
  | .record _ => "regular empty file"
  | .tool _ => "regular file"
  | .link _ | .descriptor _ => "symbolic link"
  | .null | .zeros | .full | .sealed => "character special file"

/-- Removes what a path names, and what is below it if that is asked for. The first argument bounds
the depth. Whether it is gone. -/
def removeAt (g : Given) : Nat → (path : String) → Work Bool
  | 0, _ => return false
  | depth + 1, path => do
    let (tree, here) ← place
    let recursive := g.hasAny ["r", "R"]
    let forced := g.lastOf ["f", "i", "I", "interactive"] = some "f"
    let asks := g.lastOf ["f", "i", "I", "interactive"] = some "i"
    match tree.look here path with
    | .error e =>
      if forced ∧ (e = .noEntry ∨ e = .notDirectory) then return true
      fault (← cannot "cannot remove" path e)
      return false
    | .ok (location, .directory _) =>
      if !recursive then
        if !g.has "d" then
          fault (← cannot "cannot remove" path .isDirectory)
          return false
      let names := tree.children location
      if recursive ∧ !names.isEmpty then
        if asks then
          if !(← ask ("descend into directory " ++ (← always path))) then return false
        if !tree.permitsAt .read location then
          fault (← cannot "cannot remove" path .accessDenied)
          return false
        let mut whole := true
        for name in names do
          if !(← removeAt g depth (path ++ (if path.endsWith "/" then "" else "/") ++ name)) then whole := false
        if !whole then return false
      if asks then
        if !(← ask ("remove directory " ++ (← always path))) then return false
      match ← change fun tree here => tree.removeDirectory here path with
      | some e =>
        fault (← cannot "cannot remove" path e)
        return false
      | none =>
        if g.has "v" then say ("removed directory " ++ (← always path) ++ "\n")
        return true
    | .ok (_, e) =>
      if asks then
        if !(← ask ("remove " ++ kindOf tree e ++ " " ++ (← always path))) then return false
      match ← change fun tree here => tree.unlink here path with
      | some e =>
        fault (← cannot "cannot remove" path e)
        return false
      | none =>
        if g.has "v" then say ("removed " ++ (← always path) ++ "\n")
        return true

/-- How deep trees of files can be. -/
def depthLimit : Nat := 2048

/-- Removes files, and directories with all that is in them. -/
def removeFiles : Work Unit := do
  let g ← options
    { rules := [flag "d" "dir", flag "f" "force", flag "i", flag "I", perhaps "" "interactive",
        flag "" "one-file-system", flag "" "no-preserve-root", perhaps "" "preserve-root",
        flag "r" "recursive", flag "R", flag "v" "verbose"] }
  let forced := g.lastOf ["f", "i", "I", "interactive"] = some "f"
  if g.operands.isEmpty then
    if forced then leave 0
    refuse "missing operand"
  let recursive := g.hasAny ["r", "R"]
  if g.lastOf ["f", "i", "I", "interactive"] = some "I" ∧ (recursive ∨ 3 < g.operands.length) then
    let count := toString g.operands.length
    let text := "remove " ++ count ++ (if g.operands.length = 1 then " argument" else " arguments") ++
      if recursive then " recursively" else ""
    if !(← ask text) then leave 0
  for name in g.operands do
    let last := (FileTree.names name).reverse.dropWhile (· = "") |>.headD ""
    if recursive ∧ (last = "." ∨ last = "..") then
      fault ("refusing to remove '.' or '..' directory: skipping " ++ (← always name))
    else if recursive ∧ name ≠ "" ∧ name.toList.all (· = '/') then
      warn ("it is dangerous to operate recursively on " ++ (← always "/"))
      fault "use --no-preserve-root to override this failsafe"
    else discard (removeAt g depthLimit name)

def unlinkFile : Work Unit := do
  let g ← options {}
  if g.operands.isEmpty then refuse "missing operand"
  refuseExtra g 1
  for name in g.operands do
    if let some e := ← change fun tree here => tree.unlink here name then
      fault (← cannot "cannot unlink" name e)

/-! ### Links -/

def linkFile : Work Unit := do
  let g ← options {}
  match g.operands with
  | [] => refuse "missing operand"
  | [one] => refuse ("missing operand after " ++ (← quoted one))
  | [old, new] =>
    if let some e := ← change fun tree here => tree.makeName here old new then
      fault ("cannot create link " ++ (← always new) ++ " to " ++ (← always old) ++ ": " ++ e.message)
  | _ :: _ :: extra :: _ => refuse ("extra operand " ++ (← quoted extra))

/-- A name in a directory. -/
def inDirectory (directory name : String) : String :=
  let bare := lastName name
  if directory.endsWith "/" then directory ++ bare else directory ++ "/" ++ bare

/-- Makes a link. -/
def makeLinkAt (g : Given) (target path : String) : Work Unit := do
  let symbolic := g.has "s"
  let (tree, here) ← place
  let what := if symbolic then "symbolic" else "hard"
  if !symbolic then
    let found := if g.lastOf ["L", "P"] = some "L" then tree.find here target
      else (tree.look here target).map (·.2)
    match found with
    | .error e =>
      fault (← cannot "failed to access" target e)
      return
    | .ok (.directory _) =>
      fault ((← bare target) ++ ": hard link not allowed for directory")
      return
    | .ok _ => pure ()
  let same : Bool := match tree.look here target, tree.look here path with
    | .ok (a, _), .ok (b, _) => a == b
    | _, _ => false
  let replaces := g.hasAny ["f", "b", "i"]
  let existing := (tree.look here path).isOk
  if replaces ∧ existing then
    if same then
      fault ((← always target) ++ " and " ++ (← always path) ++ " are the same file")
      return
    let isDirectory : Bool := match tree.look here path with
      | .ok (_, .directory _) => true
      | _ => false
    if isDirectory then
      fault ((← bare path) ++ ": cannot overwrite directory")
      return
    if g.lastOf ["f", "i"] = some "i" then
      if !(← ask ("replace " ++ (← always path))) then
        setStatus 1
        return
    if g.has "b" then discard (change fun tree here => tree.rename here path (path ++ "~"))
    else discard (change fun tree here => tree.unlink here path)
  let text := if g.has "r" then
      match resolvedPath tree here .nothing target, resolvedPath tree here .nothing (directoryPart path) with
      | .ok t, .ok d => relativePath d t
      | _, _ => target
    else target
  let made ← change fun tree here =>
    if symbolic then tree.makeLink here path text
    else if g.lastOf ["L", "P"] = some "L" then do
      let d ← tree.locate here target
      tree.makeEntry here path fun location => tree.put location ((tree.get? d.location).getD .null)
    else tree.makeName here target path
  match made with
  | none =>
    if g.has "v" then
      say ((← always path) ++ (if symbolic then " -> " else " => ") ++ (← always target) ++ "\n")
  | some e =>
    let shown ← always target
    let arrow :=
      if symbolic then (if text = "" then " -> " ++ shown else "")
      else if e = .alreadyThere then "" else " => " ++ shown
    fault ("failed to create " ++ what ++ " link " ++ (← always path) ++ arrow ++ ": " ++ e.message)

/-- Whether a path leads to a directory, and is no link that counts as a file. -/
def isTarget (g : Given) (path : String) : Work Bool := do
  let (tree, here) ← place
  return tree.leadsToDirectory here path && !(g.has "n" && tree.isLink here path)

/-- Makes links. -/
def makeLinks : Work Unit := do
  let g ← options
    { rules := [flag "b", perhaps "" "backup", flag "d" "directory", flag "F", flag "f" "force",
        flag "i" "interactive", flag "L" "logical", flag "n" "no-dereference", flag "P" "physical",
        flag "r" "relative", flag "s" "symbolic", valued "S" "suffix", valued "t" "target-directory",
        flag "T" "no-target-directory", flag "v" "verbose"] }
  match g.operands, g.last? "t" with
  | [], _ => refuse "missing file operand"
  | targets, some directory =>
    if !(← isTarget g directory) then
      let (tree, here) ← place
      let e := match tree.find here directory with
        | .error e => e
        | .ok _ => .notDirectory
      fail (← cannot "target directory" directory e)
    for target in targets do makeLinkAt g target (inDirectory directory target)
  | [target], none =>
    if g.has "T" then refuse ("missing destination file operand after " ++ (← always target))
    makeLinkAt g target (inDirectory "." target)
  | target :: path :: more, none =>
    let last := (path :: more).getLastD path
    if g.has "T" then
      if let some extra := more.head? then refuse ("extra operand " ++ (← always extra))
      makeLinkAt g target path
    else if ← isTarget g last then
      for target in g.operands.dropLast do makeLinkAt g target (inDirectory last target)
    else if more.isEmpty then makeLinkAt g target path
    else
      let (tree, here) ← place
      let e := match tree.find here last with
        | .error e => e
        | .ok _ => .notDirectory
      fail (← cannot "target" last e)

/-! ### Modes and sizes -/

/-- Changes the mode of what a path leads to, and of what is below it if that is asked for. The
first argument bounds the depth. -/
def changeModeAt (g : Given) (cs : List Mode.Change) (mask : Nat) : Nat → (top : Bool) → String → Work Unit
  | 0, _, _ => pure ()
  | depth + 1, top, path => do
    let (tree, here) ← place
    let silent := g.has "f"
    if !top ∧ tree.isLink here path then return
    match tree.locate here path with
    | .error e =>
      if !silent then
        if tree.isLink here path ∧ e = .noEntry then
          warn ("cannot operate on dangling symlink " ++ (← always path))
        else warn (← cannot "cannot access" path e)
      setStatus 1
    | .ok d =>
      match tree.entry d with
      | .error e =>
        if !silent then
          if tree.isLink here path then warn ("cannot operate on dangling symlink " ++ (← always path))
          else warn (← cannot "cannot access" path e)
        setStatus 1
      | .ok e =>
        let isDirectory := e matches .directory _
        let old := tree.modeOf d.location e
        let new := Mode.adjusted cs isDirectory mask old
        let shown (mode : Nat) : String := Mode.digits mode ++ " (" ++ Mode.text mode ++ ")"
        match ← change fun tree here => tree.changeMode here path new with
        | some e =>
          if !silent then warn (← cannot "changing permissions of" path e)
          setStatus 1
        | none =>
          if old ≠ new ∧ g.hasAny ["v", "c"] then
            say ("mode of " ++ (← always path) ++ " changed from " ++ shown old ++ " to " ++ shown new ++ "\n")
          else if g.has "v" then
            say ("mode of " ++ (← always path) ++ " retained as " ++ shown new ++ "\n")
          -- a mask can keep a mode from becoming what the change seems to say
          let naive := Mode.adjusted cs isDirectory 0 old
          if g.has "\x00" ∧ Mode.without new naive ≠ 0 then
            fault ((← bare path) ++ ": new permissions are " ++ Mode.text new ++ ", not " ++ Mode.text naive)
        if g.has "R" ∧ isDirectory then
          for name in tree.children d.location do
            changeModeAt g cs mask depth false (path ++ (if path.endsWith "/" then "" else "/") ++ name)

/-- The arguments, with those that begin with a dash and are modes marked by an option. -/
def withModes (args : List String) : List String × List String :=
  args.foldl
    (fun (others, modes) arg =>
      match arg.toList with
      | '-' :: c :: _ =>
        if "rwxXstugoa,+=01234567".toList.contains c ∧ !others.contains "--" then (others, modes ++ [arg])
        else (others ++ [arg], modes)
      | _ => (others ++ [arg], modes))
    ([], [])

/-- Changes modes. -/
def changeModes : Work Unit := do
  let p ← process
  let (args, modes) := withModes p.args
  let g ← optionsOf
    { rules := [flag "R" "recursive", flag "c" "changes", flag "f" "silent", flag "f" "quiet",
        flag "v" "verbose", flag "" "no-preserve-root", flag "" "preserve-root", valued "" "reference"] } args
  let (mode?, files) := match g.last? "reference", modes with
    | some _, _ => (none, g.operands)
    | none, [] => (g.operands.head?, g.operands.drop 1)
    | none, modes => (some (String.intercalate "," modes), g.operands)
  let given := mode?.getD ""
  if files.isEmpty then
    if mode?.isNone ∨ !modes.isEmpty then refuse "missing operand"
    refuse ("missing operand after " ++ (← quoted given))
  let cs ← match g.last? "reference" with
    | some path =>
      let (tree, here) ← place
      match tree.locate here path with
      | .error e => fail (← cannot "failed to get attributes of" path e)
      | .ok d =>
        let mode := tree.modeOf d.location ((tree.get? d.location).getD .null)
        pure [{ whose := some Mode.everything, how := '=', bits := .given mode, mentioned := Mode.everything }]
    | none =>
      match Mode.parse given with
      | some cs => pure cs
      | none => refuse ("invalid mode: " ++ (← quoted given))
  let g := if modes.isEmpty then g else g.put [("\x00", "")]
  for name in files do changeModeAt g cs p.mask depthLimit true name

/-- Makes files that are not there. -/
def touchFiles : Work Unit := do
  let g ← options
    { rules := [flag "a", flag "c" "no-create", valued "d" "date", flag "f", flag "h" "no-dereference",
        flag "m", valued "r" "reference", valued "t", valued "" "time"] }
  if let some path := g.last? "r" then
    let (tree, here) ← place
    if let .error e := tree.locate here path then fail (← cannot "failed to get attributes of" path e)
  if g.operands.isEmpty then refuse "missing file operand"
  for name in g.operands do
    let (tree, here) ← place
    match tree.find here name with
    | .ok _ => pure ()
    | .error e =>
      if g.hasAny ["c", "h"] then
        if e ≠ .noEntry then fault (← cannot "setting times of" name e)
      else if name.endsWith "/" then fault (← cannot "setting times of" name e)
      else if let some e := ← store name "" .appending then fault (← cannot "cannot touch" name e)

/-- The size that a text asks for, from the size that there is. -/
def sizeOf? (text : String) (old : Nat) : Option Nat :=
  let cs := (text.toList.dropWhile fun c => c = ' ')
  let (mark, digits) := match cs with
    | c :: rest => if "+-<>/%".toList.contains c then (c, rest) else (' ', cs)
    | [] => (' ', [])
  match count true (String.ofList digits) with
  | .error _ => none
  | .ok n =>
    match mark with
    | '+' => some (old + n)
    | '-' => some (old - n)
    | '<' => some (min old n)
    | '>' => some (max old n)
    | '/' => if n = 0 then none else some (old / n * n)
    | '%' => if n = 0 then none else some ((old + n - 1) / n * n)
    | _ => some n

/-- Cuts files, or fills them up with zeros. -/
def truncateFiles : Work Unit := do
  let g ← options
    { rules := [flag "c" "no-create", flag "o" "io-blocks", valued "r" "reference", valued "s" "size"] }
  if !g.hasAny ["s", "r"] then refuse "you must specify either '--size' or '--reference'"
  let (tree, here) ← place
  let sizeAt (path : String) : Nat := match tree.find here path with
    | .ok (.file n) => Octet.size (tree.node n).text
    | _ => 0
  let base ← match g.last? "r" with
    | none => pure none
    | some path =>
      match tree.find here path with
      | .ok _ => pure (some (sizeAt path))
      | .error e => fail (← cannot "cannot stat" path e)
  let text := (g.last? "s").getD "+0"
  if (sizeOf? text 0).isNone then fail ("Invalid number: " ++ (← quoted text))
  if g.operands.isEmpty then refuse "missing file operand"
  for name in g.operands do
    let (tree, here) ← place
    let present := tree.present here name
    if present ∨ !g.has "c" then
      match ← store name "" .appending with
      | some e => fault ("cannot open " ++ (← always name) ++ " for writing: " ++ e.message)
      | none =>
        let (tree, here) ← place
        if let .ok (.file n) := tree.find here name then
          let node := tree.node n
          let bytes := Octet.bytes node.text
          let size := (sizeOf? text (base.getD bytes.length)).getD 0
          let new := bytes.take size ++ List.replicate (size - bytes.length) 0
          modifyThe Machine fun m => { m with tree := m.tree.setNode n { node with text := Octet.text new } }

/-! ### Files with new names -/

/-- Letters of new names. -/
def nameLetters : List Char := "abcdefghijklmnopqrstuvwxyzABCDEFGHIJKLMNOPQRSTUVWXYZ0123456789".toList

/-- A name with letters in place of the last `X`s, which depend on a number. -/
def filledName (template : List Char) (seed : Nat) : List Char :=
  let rec go : List Char → Nat → List Char
    | [], _ => []
    | c :: rest, n =>
      if c = 'X' then nameLetters.getD (n % 62) 'a' :: go rest (n / 62 * 7 + n * 31 + 17)
      else c :: rest
  (go template.reverse (seed * 7919 + 104729)).reverse

/-- Makes a file or a directory with a name that nothing has yet. -/
def makeTemporary : Work Unit := do
  let g ← options
    { rules := [flag "d" "directory", flag "u" "dry-run", flag "q" "quiet", valued "" "suffix",
        valued "p", perhaps "" "tmpdir", flag "t"] }
  if 1 < g.operands.length then refuse "too many templates"
  let p ← process
  let named := settingOf? p.environment "TMPDIR"
  let standard := if named.getD "" = "" then "/tmp" else named.getD ""
  let template := g.operands.headD "tmp.XXXXXXXXXX"
  let ending? := g.last? "suffix"
  let behind := (template.toList.reverse.takeWhile (· ≠ 'X')).reverse
  let ending ← match ending? with
    | some s =>
      if !template.endsWith "X" then
        fail ("with --suffix, template " ++ (← quoted template) ++ " must end in X")
      pure s
    | none => pure (if template.toList.contains 'X' then String.ofList behind else "")
  let body := if ending?.isSome then template.toList
    else template.toList.take (template.length - ending.length)
  let marks := (body.reverse.takeWhile (· = 'X')).length
  if marks < 3 then fail ("too few X's in template " ++ (← quoted template))
  let directory? : Option String :=
    if g.has "p" ∨ g.has "tmpdir" then
      let given := ((g.last? "p").orElse fun _ => g.last? "tmpdir").getD ""
      some (if given = "" then standard else given)
    else if g.has "t" then some standard
    else if g.operands.isEmpty then some standard
    else none
  let path (seed : Nat) : String :=
    let name := String.ofList (filledName body seed) ++ ending
    match directory? with
    | some d => if d.endsWith "/" then d ++ name else d ++ "/" ++ name
    | none => name
  let (tree, here) ← place
  let start := tree.entries.length
  let found := ((List.range 1000).map fun i => path (start + i)).find? fun s => !(tree.look here s).isOk
  let chosen := found.getD (path start)
  let shown := match directory? with
    | some d => if d.endsWith "/" then d ++ template else d ++ "/" ++ template
    | none => template
  let made ← if g.has "u" then pure none
    else if g.has "d" then change fun tree here => tree.makeDirectory here chosen 0o700
    else do
      let e ← store chosen "" .appending
      if e.isNone then discard (change fun tree here => tree.changeMode here chosen 0o600)
      pure e
  match made with
  | none => say (chosen ++ "\n")
  | some e =>
    if g.has "q" then leave 1
    fail ("failed to create " ++ (if g.has "d" then "directory" else "file") ++ " via template " ++
      (← quoted shown) ++ ": " ++ e.message)

end ScriptSearch.Host.Tools
