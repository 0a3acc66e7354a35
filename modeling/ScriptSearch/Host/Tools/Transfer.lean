import ScriptSearch.Host.Tools.Changing

/-! Tools that copy files and directories, and that give them other names. -/

namespace ScriptSearch.Host.Tools

open Work

/-- How files are copied. -/
structure Transfer where
  /-- Whether files get another name and are not copied. -/
  moves : Bool := false
  recursive : Bool := false
  /-- Whether links are followed. -/
  follows : Bool := true
  force : Bool := false
  asks : Bool := false
  /-- Whether what is there stays. -/
  keeps : Bool := false
  verbose : Bool := false
  /-- Whether the mode is kept as it is. -/
  exact : Bool := false
  backup : Bool := false
  symbolic : Bool := false
  hard : Bool := false
  /-- The mode of all copies. -/
  mode : Option (List Mode.Change) := none

/-- The text of a file that can be copied. -/
def copiedText (path : String) : Work (Except OsError String) := contents path

/-- Puts a mode on what is at a path. -/
def setMode (path : String) (mode : Nat) : Work Unit :=
  discard (change fun tree here => tree.changeMode here path mode)

/-- Whether two paths mean the same thing. -/
def isSame (tree : FileTree) (here : Directory) (follows : Bool) (a b : String) : Bool :=
  let look (path : String) : Except OsError (Location × Entry) :=
    if follows then do
      let d ← tree.locate here path
      return (d.location, ← tree.entry d)
    else tree.look here path
  match look a, look b with
  | .ok (x, .file m), .ok (y, .file n) => x == y || m == n
  | .ok (x, _), .ok (y, _) => x == y
  | _, _ => false

/-- Copies the text of a file. -/
def copyText (t : Transfer) (source path : String) (mode : Nat) : Work Bool := do
  let p ← process
  match ← copiedText source with
  | .error e =>
    fault ("cannot open " ++ (← always source) ++ " for reading: " ++ e.message)
    return false
  | .ok text =>
    let (tree, here) ← place
    let present := tree.present here path
    if !present ∧ tree.isLink here path then
      fault ("not writing through dangling symlink " ++ (← always path))
      return false
    let written ← store path text
    let written ← match written with
      | some _ =>
        if t.force ∧ present then
          match ← change fun tree here => tree.unlink here path with
          | none => store path text
          | some e => pure (some e)
        else pure written
      | none => pure none
    match written with
    | some e =>
      let e := if path.endsWith "/" ∧ (e = .isDirectory ∨ e = .noEntry) ∧ !present then .notDirectory else e
      fault (← cannot "cannot create regular file" path e)
      return false
    | none =>
      match t.mode with
      | some cs => setMode path (Mode.adjusted cs false p.mask 0)
      | none =>
        if t.exact then setMode path mode
        else if !present then setMode path (Mode.without (mode &&& 0o777) p.mask)
      return true

/-- Makes way for a copy where something is already; whether the copying goes on. -/
def makeWay (t : Transfer) (source path : String) (sourceIsDirectory : Bool) : Work Bool := do
  let (tree, here) ← place
  let existing := if t.moves ∨ !t.follows ∨ t.symbolic ∨ t.hard ∨ t.backup then (tree.look here path).map (·.2)
    else tree.find here path
  match existing with
  | .error .noEntry => return true
  | .error e =>
    fault (← cannot "cannot stat" path e)
    return false
  | .ok e =>
    let isDirectory := e matches .directory _
    if isSame tree here (t.follows && !t.moves) source path ∧ !(t.moves && sourceIsDirectory) then
      let identical := !t.moves || (tree.look here source).toOption.map (·.1) = (tree.look here path).toOption.map (·.1)
      if identical ∧ !t.backup then
        if t.hard then return false
        fault ((← always source) ++ " and " ++ (← always path) ++ " are the same file")
        return false
    if sourceIsDirectory ∧ !isDirectory then
      fault ("cannot overwrite non-directory " ++ (← always path) ++ " with directory " ++ (← always source))
      return false
    if !sourceIsDirectory ∧ isDirectory then
      if t.keeps then return false
      fault ("cannot overwrite directory " ++ (← always path) ++ " with non-directory")
      return false
    if !sourceIsDirectory ∨ t.moves then
      if t.keeps then return false
      if t.asks then
        if !(← ask ("overwrite " ++ (← always path))) then return false
      if t.backup then
        discard (change fun tree here => tree.rename here path (path ++ "~"))
      else if !t.moves ∧ (t.symbolic ∨ t.hard) then
        if t.force then discard (change fun tree here => tree.unlink here path)
    return true

/-- Copies what is at a path to another, as a part of a larger copy. The first argument bounds the
depth; `made` are the locations of directories that copying has made, which are not copied again. -/
def copyAt (t : Transfer) (whole : String × String) :
    Nat → (source path : String) → (made : List Location) → Work Bool
  | 0, _, _, _ => return false
  | depth + 1, source, path, made => do
    let (tree, here) ← place
    let found : Except OsError (Location × Entry) :=
      if t.follows then do
        let d ← tree.locate here source
        return (d.location, ← tree.entry d)
      else tree.look here source
    match found with
    | .error e =>
      fault (← cannot "cannot stat" source e)
      return false
    | .ok (location, .directory mode) =>
      if !t.recursive then
        fault ((if t.mode.isSome then "" else "-r not specified; ") ++ "omitting directory " ++ (← always source))
        return false
      if made.contains location then
        fault ("cannot copy a directory, " ++ (← always whole.1) ++ ", into itself, " ++ (← always whole.2))
        return false
      if !(← makeWay t source path true) then return false
      let present := tree.leadsToDirectory here path
      if !present then
        if let some e := ← change fun tree here => tree.makeDirectory here path 0o777 then
          fault (← cannot "cannot create directory" path e)
          return false
        if t.verbose then say ((← always source) ++ " -> " ++ (← always path) ++ "\n")
      let (now, here) ← place
      let own := (now.locate here path).toOption.map (·.location)
      let join (directory name : String) : String :=
        if directory.endsWith "/" then directory ++ name else directory ++ "/" ++ name
      let mut complete := true
      for name in now.children location do
        if !(← copyAt t whole depth (join source name) (join path name) (made ++ own.toList)) then
          complete := false
      if !present then
        let p ← process
        setMode path (if t.exact then mode else Mode.without mode p.mask)
      return complete
    | .ok (location, e) =>
      if !(← makeWay t source path false) then return false
      let tell : Work Unit := do
        if t.verbose then say ((← always source) ++ " -> " ++ (← always path) ++ "\n")
      if t.symbolic ∨ t.hard then
        let what := if t.symbolic then "symbolic" else "hard"
        tell
        match ← change fun tree here =>
            if t.symbolic then tree.makeLink here path source else tree.makeName here source path with
        | none => return true
        | some e =>
          let shown ← always source
          fault ("cannot create " ++ what ++ " link " ++ (← always path) ++
            (if t.symbolic then "" else " to " ++ shown) ++ ": " ++ e.message)
          return false
      match e with
      | .link target =>
        tell
        if (tree.look here path).isOk then discard (change fun tree here => tree.unlink here path)
        match ← change fun tree here => tree.makeLink here path target with
        | none => return true
        | some e =>
          fault (← cannot "cannot create symbolic link" path e)
          return false
      | e =>
        let mode := tree.modeOf location e
        let done ← copyText t source path mode
        if done then tell
        return done

/-- Gives what is at a path another name. -/
def moveAt (t : Transfer) (source path : String) : Work Unit := do
  let (tree, here) ← place
  match tree.look here source with
  | .error e => fault (← cannot "cannot stat" source e)
  | .ok (_, e) =>
    let isDirectory := e matches .directory _
    if ← makeWay t source path isDirectory then
      match ← change fun tree here =>
          if isSame tree here false source path ∧ !isDirectory then tree.unlink here source
          else tree.rename here source path with
      | none => if t.verbose then say ("renamed " ++ (← always source) ++ " -> " ++ (← always path) ++ "\n")
      | some .invalid =>
        fault ("cannot move " ++ (← always source) ++ " to a subdirectory of itself, " ++ (← always path))
      | some .notEmpty => fault (← cannot "cannot overwrite" path .notEmpty)
      | some e =>
        fault ("cannot move " ++ (← always source) ++ " to " ++ (← always path) ++ ": " ++ e.message)

/-- Finds where operands are to go, and sends each of them there. -/
def sendAll (g : Given) (send : (source path : String) → Work Unit) : Work Unit := do
  let why (path : String) : Work OsError := do
    let (tree, here) ← place
    return match tree.find here path with
      | .error e => e
      | .ok _ => .notDirectory
  let isDirectory (path : String) : Work Bool := do
    let (tree, here) ← place
    return tree.leadsToDirectory here path
  let bareEnd (path : String) : String :=
    let cs := path.toList.reverse.dropWhile (· = '/')
    if cs.isEmpty then path else String.ofList cs.reverse
  match g.operands, g.last? "t" with
  | [], _ => refuse "missing file operand"
  | sources, some directory =>
    if !(← isDirectory directory) then fail (← cannot "target directory" directory (← why directory))
    for source in sources do send source (inDirectory directory source)
  | [one], none => refuse ("missing destination file operand after " ++ (← always one))
  | source :: path :: more, none =>
    let last := (path :: more).getLastD path
    if g.has "T" then
      if let some extra := more.head? then refuse ("extra operand " ++ (← always extra))
      send source path
    else if ← isDirectory last then
      let mut sent : List String := []
      for source in g.operands.dropLast do
        let target := inDirectory last source
        if sent.contains target ∧ !g.hasAny ["r", "R"] then
          fault ("will not overwrite just-created " ++ (← always target) ++ " with " ++ (← always source))
        else
          send source (if g.has "parents" then last ++ "/" ++ bareEnd source else target)
          sent := target :: sent
    else if more.isEmpty then send source path
    else fail (← cannot "target" last (← why last))

/-- Copies files. -/
def copyFiles : Work Unit := do
  let g ← options
    { rules := [flag "a" "archive", flag "" "attributes-only", flag "b", perhaps "" "backup",
        flag "" "copy-contents", flag "d", flag "f" "force", flag "i" "interactive", flag "H",
        flag "l" "link", flag "L" "dereference", flag "n" "no-clobber", flag "P" "no-dereference",
        flag "p", perhaps "" "preserve", valued "" "no-preserve", flag "" "parents", flag "R" "recursive",
        flag "r", perhaps "" "reflink", flag "" "remove-destination", valued "" "sparse",
        flag "" "strip-trailing-slashes", flag "s" "symbolic-link", valued "S" "suffix",
        valued "t" "target-directory", flag "T" "no-target-directory", flag "u" "update", flag "v" "verbose",
        flag "x" "one-file-system", flag "Z", perhaps "" "context"] }
  let recursive := g.hasAny ["r", "R", "a"]
  let t : Transfer :=
    { recursive
      follows := match g.lastOf ["L", "P", "d", "a", "H"] with
        | some "L" => true
        | some _ => false
        | none => !recursive
      force := g.has "f", asks := g.lastOf ["i", "n", "f"] = some "i", keeps := g.lastOf ["i", "n"] = some "n" || g.has "u"
      verbose := g.has "v", exact := g.hasAny ["p", "a", "preserve"], backup := g.hasAny ["b", "backup"]
      symbolic := g.has "s", hard := g.has "l" }
  if g.has "parents" then
    match g.operands with
    | [] | [_] => pure ()
    | operands =>
      let last := operands.getLastD ""
      for source in operands.dropLast do
        for path in (pathsDownTo source).dropLast do
          let (tree, here) ← place
          let made := last ++ "/" ++ path
          if !tree.leadsToDirectory here made then
            discard (change fun tree here => tree.makeDirectory here made 0o755)
  sendAll g fun source path => discard (copyAt t (source, path) depthLimit source path [])

/-- Gives files other names. -/
def moveFiles : Work Unit := do
  let g ← options
    { rules := [flag "b", perhaps "" "backup", flag "f" "force", flag "i" "interactive", flag "n" "no-clobber",
        flag "" "strip-trailing-slashes", valued "S" "suffix", valued "t" "target-directory",
        flag "T" "no-target-directory", flag "u" "update", flag "v" "verbose", flag "Z" "context"] }
  let last := g.lastOf ["f", "i", "n"]
  let t : Transfer :=
    { moves := true, follows := false, force := last = some "f", asks := last = some "i", keeps := last = some "n"
      verbose := g.has "v", backup := g.hasAny ["b", "backup"] }
  sendAll g (moveAt t)

/-- Copies files and gives them modes. -/
def installFiles : Work Unit := do
  let g ← options
    { rules := [flag "b", perhaps "" "backup", flag "c", flag "C" "compare", flag "d" "directory", flag "D",
        valued "g" "group", valued "m" "mode", valued "o" "owner", flag "p" "preserve-timestamps",
        flag "s" "strip", valued "S" "suffix", valued "t" "target-directory", flag "T" "no-target-directory",
        flag "v" "verbose"] }
  let p ← process
  let cs := (← modeOption g "m" "mode").getD
    [{ whose := some Mode.everything, how := '=', bits := .given 0o755, mentioned := Mode.everything }]
  if g.has "d" then
    if g.operands.isEmpty then refuse "missing file operand"
    for name in g.operands do
      for path in pathsDownTo name do
        let (tree, here) ← place
        if !tree.leadsToDirectory here path then
          match ← change fun tree here => tree.makeDirectory here path 0o755 with
          | none => if g.has "v" then say ("install: creating directory " ++ (← always path) ++ "\n")
          | some e => fault (← cannot "cannot create directory" path e)
      setMode name (Mode.adjusted cs true p.mask 0)
  else
    if g.has "D" then
      if let some path := if g.has "t" then g.last? "t" else (g.operands.getLast?).map directoryPart then
        for above in pathsDownTo path do
          let (tree, here) ← place
          if !tree.leadsToDirectory here above then
            discard (change fun tree here => tree.makeDirectory here above 0o755)
    let t : Transfer := { mode := some cs, backup := g.hasAny ["b", "backup"], verbose := g.has "v", force := true }
    sendAll g fun source path => discard (copyAt t (source, path) depthLimit source path [])

end ScriptSearch.Host.Tools
