import ScriptSearch.Host.Account
import ScriptSearch.Host.Quoted
import ScriptSearch.Host.Shell.Launching
import ScriptSearch.Host.Shell.Grammar
import ScriptSearch.Host.Shell.Paths
import ScriptSearch.Host.Shell.Prompt

/-! What words expand to. Values, output and results take the place of the pieces that stand
for them; what is not quoted is then cut into fields and matched against the names of
files. -/

namespace ScriptSearch.Host.Shell

/-- A part of an expanded word. -/
inductive Segment
  /-- Text that stays whole. -/
  | text (gs : List Glyph)
  /-- Text that is cut into fields. -/
  | split (s : String)
  /-- Texts that are fields of their own, but for the ends, and what stands between them where
  there are no fields. -/
  | each (quoted : Bool) (joint : String) (texts : List String)

/-- Fields so far, latest first, and the one that is being put together, last character
first. `gap` holds right behind a field that white space has ended. -/
structure Fields where
  current : Option (List Glyph) := none
  gap : Bool := false
  done : List (List Glyph) := []

namespace Fields

def append (f : Fields) (gs : List Glyph) : Fields :=
  { f with current := some (gs.reverse ++ f.current.getD []), gap := false }

def next (f : Fields) : Fields :=
  match f.current with
  | some field => { current := none, done := field.reverse :: f.done }
  | none => f

/-- Adds a character of a text that is cut: white space in the separators only ends a field,
any other separator also makes an empty one. -/
def addSplit (separators : List Char) (f : Fields) (c : Char) : Fields :=
  if !separators.contains c then f.append [⟨c, false⟩]
  else if c = ' ' ∨ c = '\t' ∨ c = '\n' then
    if f.current.isSome then { f.next with gap := true } else f
  else if f.current.isNone ∧ f.gap then { f with gap := false }
  else { current := none, done := (f.current.getD []).reverse :: f.done }

def split (separators : List Char) (f : Fields) (s : String) : Fields :=
  s.toList.foldl (addSplit separators) f

/-- Adds texts, with the end of a field between neighbours. -/
def addEach (separators : List Char) (quoted : Bool) (f : Fields) : List String → Fields
  | [] => f
  | [t] => add f t
  | t :: ts => addEach separators quoted (add f t).next ts
where
  add (f : Fields) (t : String) : Fields :=
    if quoted then f.append (glyphs true t) else f.split separators t

def add (separators : List Char) (f : Fields) : Segment → Fields
  | .text gs => f.append gs
  | .split s => f.split separators s
  | .each quoted _ texts => f.addEach separators quoted texts

/-- The fields of segments. -/
def ofSegments (separators : List Char) (segments : List Segment) : List (List Glyph) :=
  (segments.foldl (add separators) {}).next.done.reverse

end Fields

/-- The glyphs of segments that are not cut. -/
def Segment.glyphs : Segment → List Glyph
  | .text gs => gs
  | .split s => Shell.glyphs false s
  | .each quoted joint texts => Shell.glyphs quoted (String.intercalate joint texts)

/-- What a parameter stands for: one text, if it is set, or several. -/
inductive Found
  | one (s : Option String)
  | many (joined : Bool) (texts : List String)
  deriving Repr

/-- How the scripts in a word are run. -/
structure Scripts where
  /-- What a script that begins on a line writes. -/
  output : (line : Nat) → String → Act String
  /-- The path under which a script's output is read, or its input written. -/
  process : (writes : Bool) → (line : Nat) → String → Act String

/-- No scripts are run. -/
def Scripts.none : Scripts := { output := fun _ _ => pure "", process := fun _ _ _ => pure "" }

namespace Act

/-- The characters that separate fields. -/
def separators : Act (List Char) := return ((← value? "IFS").getD " \t\n").toList

/-- What stands between arguments that become one text. -/
def joint : Act String := return String.ofList ((← separators).take 1)

/-- What stands between texts that are joined where there are no fields. -/
def jointOf (joined : Bool) : Act String := do
  if joined ∨ (← isPlain) then joint else return " "

/-- How words of the script are read. -/
def ground : Act Ground := return Reader.ground (← dialect) (← isWide)

/-- How patterns are understood. With `folding`, an option says whether case counts. -/
def patternRule (folding : Bool) : Act PatternRule := do
  return { wide := ← isWide, simple := ← isPlain, extended := ← isFurtherOn "extglob"
           foldCase := folding && (← isFurtherOn "nocasematch") }

/-- The letters of the options that are set. -/
def optionLetters : Act String := do
  let s ← get
  let letters := Switch.letters s.setting.dialect s.switches
  match s.setting.dialect with
  | .plain => return letters
  | .bash =>
    return letters ++ (if s.setting.inline then "c" else "") ++
      if s.switches.contains .fromInput then "s" else ""

/-- The value of a parameter, if it is set. -/
def parameter? : Parameter → Act (Option String)
  | .variable name => value? name
  | .position 0 => return some (← get).title
  | .position (n + 1) => return (← get).args[n]?
  | .count => return some (toString (← get).args.length)
  | .status => return some (toString (← get).status)
  | .process => return some (toString (← get).setting.process)
  | .background => return (← get).lastBeside.map toString
  | .options => return some (← optionLetters)
  | .all joined => do
    let args := (← get).args
    if args.isEmpty then return none
    let separator ← if joined then joint else pure " "
    return some (String.intercalate separator args)

/-- A parameter as messages name it. -/
def parameterName : Parameter → String
  | .variable name => name
  | .position n => toString n
  | .count => "#"
  | .status => "?"
  | .process => "$"
  | .background => "!"
  | .options => "-"
  | .all false => "@"
  | .all true => "*"

/-- The elements of a variable by what they are found by. -/
def elements (name : String) : Act (List (String × String)) := do
  return ((← bound? name).map (·.content.elements)).getD []

/-- Puts the home directory in place of a `~` at the start of a text. -/
def homeIn (text : String) (last : Bool) : Act (Option (String × String)) := do
  match text.toList with
  | '~' :: cs =>
    let large := (← dialect) = .bash
    let name := cs.takeWhile fun c => c ≠ '/' && !(large && c = ':')
    let rest := cs.drop name.length
    if rest.isEmpty ∧ !last then return none
    let home ← if name.isEmpty then value? "HOME"
      else if name = "+".toList ∧ large then value? "PWD"
      else if name = "-".toList ∧ large then value? "OLDPWD"
      else do
        let s ← get
        pure (if large then s.listed? name else none)
    let home := home.orElse fun _ => (Account.ofName? (String.ofList name)).map (·.home)
    return home.map (·, String.ofList rest)
  | _ => return none

/-- A word with its `~` resolved. -/
def withHome : List Piece → Act (List Piece)
  | .text false s :: rest => do
    match ← homeIn s rest.isEmpty with
    | some (home, more) =>
      let here : List Piece := if home = "" ∧ (← dialect) = .plain then [] else [.text true home]
      return here ++ (if more = "" then rest else .text false more :: rest)
    | none => return .text false s :: rest
  | w => return w

/-- The value of an assignment with a `~` resolved at the start and behind each colon. -/
def withHomes (ps : List Piece) : Act (List Piece) := return Word.joined (← go true ps)
where
  /-- The flag says whether a home can stand at the start. -/
  go (start : Bool) : List Piece → Act (List Piece)
    | .text false s :: rest => do
      let parts := Text.splitChars ':' s.toList
      let count := parts.length
      let here ← parts.zipIdx.mapM fun (part, i) => do
        let colon : List Piece := if i = 0 then [] else [.text false ":"]
        let last := i + 1 < count || rest.isEmpty
        let home? ← if start || i ≠ 0 then homeIn (String.ofList part) last else pure none
        match home? with
        | some (home, more) => return colon ++ [.text true home, .text false more]
        | none => return colon ++ [.text false (String.ofList part)]
      return here.flatten ++ (← go (s.endsWith ":") rest)
    | p :: rest => return p :: (← go false rest)
    | [] => return []

/-- Ways to go on with what belongs to a word. -/
structure Expander where
  scripts : Scripts
  /-- Whether a `~` is resolved behind colons too, as in the value of an assignment. -/
  colons : Bool := false
  /-- Segments of a word inside another; there, text that is not quoted is cut. -/
  segments : (inside : Bool) → List Piece → Act (List Segment)

namespace Expander

/-- A word as a pattern. -/
def pattern (x : Expander) (ps : List Piece) : Act (List Glyph) :=
  return (← x.segments false ps).flatMap (·.glyphs)

/-- A word as one text. -/
def text (x : Expander) (ps : List Piece) : Act String := return Octet.met (textOf (← x.pattern ps))

/-- A word that belongs to a parameter, with its `~` resolved. -/
def homed (x : Expander) (ps : List Piece) : Act (List Piece) :=
  if x.colons then withHomes ps else withHome ps

/-- A value as a segment. -/
def segment (quoted : Bool) (s : String) : Segment :=
  if quoted then .text (Shell.glyphs true s) else .split s

/-- A subscript with the key that it stands for. -/
inductive Key
  | all (joined : Bool)
  | one (key : String)

/-- The key that a subscript stands for. Elements of a table are found by any text. -/
def key (x : Expander) (name : String) : Subscript Piece → Act Key
  | .all joined => return .all joined
  | .index _ ps => do return .one (← keyOf name (← x.text ps))

/-- What a parameter stands for, and what it is called in messages. -/
def found (x : Expander) (p : Parameter) (index : Option (Subscript Piece)) : Act (Found × String) := do
  if let .variable name := p then refresh name
  match p, index with
  | .all joined, _ => return (.many joined (← get).args, parameterName p)
  | .variable name, some index =>
    match ← x.key name index with
    | .all joined => return (.many joined ((← elements name).map (·.2)), name ++ (if joined then "[*]" else "[@]"))
    | .one key =>
      let content := ((← bound? name).map (·.content)).getD (.text none)
      if !content.hasRoom key ∧ content.isSet then protest (name ++ ": bad array subscript")
      let source := match index with
        | .index source _ => source
        | .all _ => ""
      return (.one (content.element? key), name ++ "[" ++ source ++ "]")
  | .variable name, none =>
    let s ← get
    match s.target name with
    | (name, some "@") => return (.many false ((← elements name).map (·.2)), name)
    | (name, some "*") => return (.many true ((← elements name).map (·.2)), name)
    | _ => return (.one (← value? name), name)
  | p, _ => return (.one (← parameter? p), parameterName p)

/-- A parameter by the text that names it. -/
def named? (text : String) : Option (Parameter × Option (Subscript Piece)) :=
  match State.splitKey text with
  | (name, some key) =>
    if !isName name then none
    else some (.variable name, some (match key with
      | "@" => .all false
      | "*" => .all true
      | key => .index key [.text true key]))
  | (text, none) =>
    let cs := text.toList
    if isName text ∨ (text ≠ "" ∧ cs.all Char.isDigit) then some (.ofName cs, none)
    else match cs with
      | [c] => if (Parameter.ofChar? c).isSome then some (.ofName cs, none) else none
      | _ => none

/-- The parameter that the value of another one names. Of a variable that stands for another
one, the name of that one is given. -/
def meant (x : Expander) (p : Parameter) (index : Option (Subscript Piece)) :
    Act (Sum String (Parameter × Option (Subscript Piece))) := do
  let name := parameterName p
  let reference : Option String ← match p, index with
    | .variable name, none => do
      let v ← binding? name
      pure (v.bind fun v => if v.reference then v.text? else none)
    | _, _ => pure none
  match reference with
  | some target => return .inl target
  | none =>
    match ← x.found p index with
    | (.one (some text), _) =>
      match named? text with
      | some found => return .inr found
      | none => fault (text ++ ": invalid variable name")
    | (.many _ texts, _) =>
      match named? (String.intercalate " " texts) with
      | some found => return .inr found
      | none => fault (String.intercalate " " texts ++ ": invalid variable name")
    | _ => fault (name ++ ": invalid indirect expansion")

/-! ### What is done with a value -/

/-- Changes letters: all, or the first, of those that match the pattern. -/
def recased (change : Char → Char) (every : Bool) (bare : Bool) (pattern : Pattern) (s : String) : String :=
  let one (c : Char) : Char := if bare || pattern.acceptsAll [c] then change c else c
  match pattern.units s with
  | [] => ""
  | c :: cs => Octet.join (one c :: if every then cs.map one else cs)

/-- How letters change. -/
def change (wide : Bool) : Recase → Char → Char
  | .upper, c => Letters.upper wide c
  | .lower, c => Letters.lower wide c
  | .toggle, c => if Letters.lower wide c ≠ c then Letters.lower wide c else Letters.upper wide c

/-- A part of something by offset and length; a negative number counts from the end. Nothing if
the end is in front of the beginning. -/
def slice {α : Type} (size : Int) (items : List α) (offset : Int) (length : Option Int) :
    Option (List α) :=
  let start := if offset < 0 then size + offset else offset
  let finish := match length with
    | none => size
    | some n => if n < 0 then size + n else start + n
  if start < 0 ∨ size < start then some []
  else if finish < start then none
  else some ((items.drop start.toNat).take (finish - start).toNat)

/-- What takes the place of a match: the match itself for every `&` that is not protected. -/
def replacement (marks : Bool) : List Glyph → List Char → List Char
  | [], _ => []
  | ⟨'\\', false⟩ :: g :: rest, found =>
    if marks && (g.char = '&' || g.char = '\\') then g.char :: replacement marks rest found
    else '\\' :: replacement marks (g :: rest) found
  | g :: rest, found =>
    if marks && !g.quoted && g.char = '&' then found ++ replacement marks rest found
    else g.char :: replacement marks rest found

/-- The place of what is replaced, which the first character of a pattern can also say. -/
def placeOf (place : Place) : List Glyph → Place × List Glyph
  | g :: rest =>
    if place ≠ .first ∨ g.quoted then (place, g :: rest)
    else match g.char with
      | '/' => (.every, rest)
      | '#' => (.start, rest)
      | '%' => (.finish, rest)
      | _ => (place, g :: rest)
  | [] => (place, [])

/-- A text with matches of a pattern replaced. -/
def replaced (place : Place) (p : Pattern) (new : List Char → List Char) (s : String) : String :=
  match place with
  | .first | .every =>
    if s = "" then if p.atoms.isEmpty || !p.accepts "" then s else Octet.join (new [])
    else if p.atoms.isEmpty then s
    else p.replace (place = .every) new s
  | .start =>
    let cs := p.units s
    match (p.lengths cs).getLast? with
    | some n => Octet.join (new (cs.take n) ++ cs.drop n)
    | none => s
  | .finish =>
    if p.atoms.isEmpty then Octet.join (s.toList ++ new [])
    else
      let cs := p.units s
      let text := cs.toArray
      match (List.range (cs.length + 1)).find? fun n =>
          (Pattern.places p.rule text p.atoms [n]).getLast? == some cs.length with
      | some n => Octet.join (cs.take n ++ new (cs.drop n))
      | none => s

/-- A text as a script writes it so that it is read back. -/
def quotedText (wide : Bool) (s : String) : String :=
  if Quoted.needsEscapes wide s then Quoted.escapes wide s
  else "'" ++ String.join (s.toList.map fun c => if c = '\'' then "'\\''" else String.ofList [c]) ++ "'"

/-- A text between double quotes. -/
def doubleQuoted (s : String) : String :=
  "\"" ++ String.join (s.toList.map fun c =>
    (if "\"\\$\x60".toList.contains c then "\\" else "") ++ String.ofList [c]) ++ "\""

/-- An element's value the way the large shell declares it. -/
def declaredText (wide : Bool) (s : String) : String :=
  if Quoted.needsEscapes wide s then Quoted.escapes wide s else doubleQuoted s

/-- A key the way the large shell declares it. -/
def declaredKey (wide : Bool) (s : String) : String :=
  if Quoted.needsEscapes wide s then Quoted.escapes wide s
  else if s ≠ "" ∧ s.toList.all fun c => c.isAlphanum || "_-+=:./,%^".toList.contains c || 0x80 ≤ c.toNat then s
  else doubleQuoted s

/-- The elements of a variable between parentheses. -/
def declaredElements (wide : Bool) (c : Content) : String :=
  match c with
  | .table _ =>
    "(" ++ String.join (c.elements.map fun (k, v) =>
      "[" ++ declaredKey wide k ++ "]=" ++ declaredText wide v ++ " ") ++ ")"
  | c =>
    "(" ++ String.intercalate " " (c.elements.map fun (k, v) =>
      "[" ++ k ++ "]=" ++ declaredText wide v) ++ ")"

/-- A variable as the assignment that makes it. -/
def assignment (wide : Bool) (name : String) (v : Variable) : String :=
  let letters := v.letters
  let front := if letters = "" then "" else "declare -" ++ letters ++ " "
  match v.content with
  | .text none => if letters = "" then "" else front ++ name
  | .text (some s) => front ++ name ++ "=" ++ quotedText wide s
  | c => front ++ name ++ if c.isSet then "=" ++ declaredElements wide c else ""

/-- What prompts tell about the shell. -/
def promptView : Act Prompt.View := do
  let s ← get
  let home := (← value? "HOME").getD ""
  let directory := Prompt.shortened home s.path
  let base := if directory = "~" ∨ s.path = "/" then directory else (FileTree.names s.path).getLastD ""
  return {
    shell := (FileTree.names s.setting.program).getLastD s.setting.program
    user := ((Account.ofNumber? Account.current).map (·.name)).getD "I have no name!"
    host := (← value? "HOSTNAME").getD "localhost"
    directory, base, version := "5.2", release := "5.2.15"
    jobs := (s.jobs.filter (·.listed)).length
    command := s.count }

/-- A text with what stands in it put in place. -/
def expanded (x : Expander) (text : String) : Act String := do
  let s ← get
  match Reader.wordOf (← ground) .document 1 text with
  | .ok w => always (setStatus s.status) do
      try x.text w.pieces
      catch
        | .abandon => return text
        | j => throw j
  | .error _ => return text

/-- What a prompt becomes. -/
def prompt (x : Expander) (text : String) : Act String := do
  if ← isPlain then x.expanded text
  else
    let text := Prompt.resolved (← promptView) text.toList
    if ← isFurtherOn "promptvars" then x.expanded text else return text

/-- Shows a text in a way that a letter says. -/
def transformed (x : Expander) (wide : Bool) (letter : Char) (s : String) : Act String := do
  match letter with
  | 'P' => x.prompt s
  | 'Q' | 'K' | 'k' => return quotedText wide s
  | 'E' =>
    let rule : EscapeRule := { Reader.quoteRule with wide }
    return Octet.text (Escape.resolve rule s).bytes
  | 'U' => return Casing.upper.apply wide s
  | 'L' => return Casing.lower.apply wide s
  | 'u' =>
    match s.toList with
    | c :: cs => return String.ofList (Letters.upper wide c :: cs)
    | [] => return ""
  | _ => return s

/-- What a letter shows of a variable as a whole. -/
def shownWhole (wide : Bool) (letter : Char) (p : Parameter) (index : Option (Subscript Piece))
    (f : Found) : Act (Option Found) := do
  let s ← get
  match letter, p with
  | 'A', .variable name =>
    let v := ((← bound? name).getD {})
    match index with
    | some (.index _ _) =>
      match f with
      | .one (some text) =>
        let letters := v.letters
        return some (.one (some ((if letters = "" then "" else "declare -" ++ letters ++ " ") ++ name ++
          "=" ++ quotedText wide text)))
      | _ => return some (.one (bare v name))
    | some (.all _) => return some (.one (some (assignment wide name v)))
    | none =>
      match v.content with
      | .text _ => return some (.one (some (assignment wide name v)))
      | c =>
        match c.text? with
        | some text =>
          return some (.one (some ("declare -" ++ v.letters ++ " " ++ name ++ "=" ++ quotedText wide text)))
        | none => return some (.one (bare v name))
  | 'A', .all _ =>
    if s.args.isEmpty then return some (.one none)
    return some (.one (some ("set -- " ++ String.intercalate " " (s.args.map (quotedText wide)))))
  | 'A', _ => return some (.one none)
  | 'a', .variable name =>
    let v := (← bound? name).getD {}
    match f with
    | .many joined texts =>
      return some (if v.content.isSet then .many joined (texts.map fun _ => v.letters) else .one (some v.letters))
    | .one _ => return some (.one (some v.letters))
  | 'a', .all joined => return some (.many joined (s.args.map fun _ => ""))
  | 'a', _ => return some (.one (some ""))
  | 'K', .variable name =>
    match f with
    | .many _ _ =>
      let rows := (← elements name).map fun (k, v) => declaredKey wide k ++ " " ++ declaredText wide v
      let table := ((← bound? name).map (·.content.isTable)).getD false
      return some (.one (some (String.intercalate " " rows ++ if table ∧ !rows.isEmpty then " " else "")))
    | _ => return none
  | 'k', .variable name =>
    match f with
    | .many joined _ =>
      return some (.many joined ((← elements name).flatMap fun (k, v) => [k, v]))
    | _ => return none
  | _, _ => return none
where
  /-- A variable without a value as the command that makes it. -/
  bare (v : Variable) (name : String) : Option String :=
    if v.letters = "" then none else some ("declare -" ++ v.letters ++ " " ++ name)

/-- The text that takes the place of a value that is there. -/
def used (x : Expander) (quoted : Bool) (use : Use) (arguments : List (List Piece)) :
    Act (String → Act String) := do
  match use, arguments with
  | .trim atEnd longest, [w] =>
    let p := Pattern.ofGlyphs (← patternRule false) (← x.pattern (← withHome w))
    return fun s => return if atEnd then p.trimEnd longest s else p.trimStart longest s
  | .recase how every, w =>
    let gs ← x.pattern (w.headD [])
    let p := Pattern.ofGlyphs (← patternRule false) gs
    return fun s => return recased (change p.rule.wide how) every gs.isEmpty p s
  | .replace place, w :: rest =>
    let (place, pattern) := placeOf place (← x.pattern (← withHome w))
    let p := Pattern.ofGlyphs (← patternRule true) pattern
    let new ← match rest with
      | [r] => do x.pattern (← if quoted then pure r else withHome r)
      | _ => pure []
    let marks ← isFurtherOn "patsub_replacement"
    let new := Pattern.unitsOf p.rule.wide new
    return fun s => return replaced place p (replacement marks new) s
  | .transform letter, _ =>
    let wide ← isWide
    return x.transformed wide letter
  | .unknown, w :: _ => return fun _ => x.text w
  | _, _ => return fun s => return s

/-- A part of a value, or of several. -/
def sliced (x : Expander) (p : Parameter) (f : Found) (arguments : List (List Piece)) : Act Found := do
  let offset ← calculate "" (← x.text (arguments.headD []))
  let written ← match arguments with
    | [_, l] => some <$> x.text l
    | _ => pure none
  let length ← match written with
    | some text => some <$> calculate "" text
    | none => pure none
  let refuse : Act Found := giveUp (written.getD "" ++ ": substring expression < 0")
  match f with
  | .one none => return .one none
  | .one (some s) =>
    let wide ← isWide
    let cs := Octet.units wide s
    match slice cs.length cs offset length with
    | some cs => return .one (some (Octet.join cs))
    | none => refuse
  | .many joined texts =>
    if length.any (· < 0) then refuse
    else
      match p with
      | .variable name =>
        let content := ((← bound? name).map (·.content)).getD (.text none)
        match content with
        | .list es =>
          let es := es.getD []
          let start := if offset < 0 then offset + Content.next es else offset
          if start < 0 then return .many joined []
          let later := (es.filter fun e => start ≤ e.1).map (·.2)
          return .many joined (match length with
            | some n => later.take n.toNat
            | none => later)
        | _ => return .many joined ((slice texts.length texts offset length).getD [])
      | _ =>
        let all := (← get).title :: texts
        let start := if offset < 0 then offset + all.length else offset
        if start < 0 then return .many joined []
        let found := if start = 0 then all else all.drop start.toNat
        return .many joined (match length with
          | some n => found.take n.toNat
          | none => found)

/-- The words for a parameter without a value that must have one. -/
def unsetWords (d : Dialect) (p : Parameter) (name : String) : String :=
  match d, p with
  | .plain, _ => name ++ ": parameter not set"
  | .bash, .position n => "$" ++ toString n ++ ": unbound variable"
  | .bash, .background => "$!: unbound variable"
  | .bash, _ => name ++ ": unbound variable"

/-- Segments of what has been found. -/
def shownFound (quoted : Bool) : Found → Act (List Segment)
  | .one s => return [segment quoted (s.getD "")]
  | .many joined texts => do
    if joined && quoted then return [segment true (String.intercalate (← joint) texts)]
    else if texts.isEmpty then return []
    else return [.each quoted (← jointOf joined) texts]

/-- What a parameter expands to. -/
def value (x : Expander) (inside quoted : Bool) (p : Parameter) (index : Option (Subscript Piece))
    (use : Use) (arguments : List (List Piece)) : Act (List Segment) := do
  let d ← dialect
  let argument : Act (List Piece) := do x.homed (arguments.headD [])
  if let .length := use then refresh (parameterName p)
  if let .variable name := p then
    let simple := use matches .plain | .default _ | .alternative _ | .assign _ | .demand _ | .length | .keys
    warnCircle ((if simple then 1 else 2) + if index.isSome ∧ !(use matches .length | .keys) then 1 else 0) name
  let (f, name) ← x.found p index
  let text? : Option String ← match f with
    | .one s => pure s
    | .many _ [] => pure none
    | .many joined texts => do
      pure (some (String.intercalate (← if joined then joint else pure " ") texts))
  let isMany := f matches .many _ _
  let whole := shownFound quoted f
  let present (empty : Bool) : Bool :=
    match text? with
    | none => false
    | some v => !(empty && v = "")
  let other : Act (List Segment) := do
    let found ← x.segments (inside || !quoted) (← argument)
    return if found.isEmpty && quoted then [.text []] else found
  let demandValue : Act Unit := do
    if text?.isNone ∧ !isMany ∧ (← isOn .demandSet) then missing (unsetWords d p name)
  match use with
  | .plain =>
    demandValue
    whole
  | .length =>
    match f with
    | .many _ texts =>
      let separator ← joint
      let size := if d = .plain then Octet.size (String.intercalate separator texts) else texts.length
      return [segment quoted (toString size)]
    | .one s =>
      demandValue
      let size := if ← isWide then (s.getD "").length else Octet.size (s.getD "")
      return [segment quoted (toString size)]
  | .keys =>
    match p, index with
    | .variable name, some (.all joined) =>
      shownFound quoted (.many joined ((← elements name).map (·.1)))
    | _, _ => return []
  | .names joined =>
    let first := parameterName p
    let s ← get
    let names := (s.bindings.map (·.1) ++ State.derivedNames).eraseDups.filter fun name =>
      name.startsWith first && (s.bound? name).any (·.content.isSet)
    shownFound quoted (.many joined (names.mergeSort fun a b => decide (a ≤ b)))
  | .default empty => if present empty then whole else other
  | .alternative empty =>
    if present empty then other
    else return if quoted && !isMany then [.text []] else []
  | .assign empty =>
    if present empty then return ← whole
    let text ← x.text (← argument)
    match p, index with
    | .variable name, none =>
      assign name text
      return [segment quoted ((← value? name).getD "")]
    | .variable name, some index =>
      match ← x.key name index with
      | .one key =>
        assignTo name (some key) false text
        return [segment quoted text]
      | .all _ => fault (name ++ "[@]: bad array subscript")
    | p, _ =>
      fault (match d with
        | .plain => parameterName p ++ ": bad variable name"
        | .bash => "$" ++ parameterName p ++ ": cannot assign in this way")
  | .demand empty =>
    if present empty then return ← whole
    let text ← x.text (← argument)
    let standard := match d, empty with
      | _, false => "parameter not set"
      | .plain, true => "parameter not set or null"
      | .bash, true => "parameter null or not set"
    missing (name ++ ": " ++ if (arguments.headD []).isEmpty then standard else text)
  | .slice =>
    demandValue
    let given := match p with
      | .all _ => true
      | _ => text?.isSome
    if given then shownFound quoted (← x.sliced p f arguments) else whole
  | use =>
    demandValue
    let special ← match use with
      | .transform letter => do shownWhole (← isWide) letter p index f
      | _ => pure none
    match special with
    | some f => shownFound quoted f
    | none =>
      match f with
      | .one none => return [segment quoted ""]
      | .one (some s) =>
        let skips := s = "" ∧ d = .bash ∧ use matches .trim _ _
        return [segment quoted (← if skips then pure "" else do (← x.used quoted use arguments) s)]
      | .many joined texts =>
        if texts.isEmpty ∧ d = .bash then return ← whole
        let act ← x.used quoted use arguments
        shownFound quoted (.many joined (← texts.mapM act))

/-- What a parameter expands to whose name the value of another one gives. -/
def indirectValue (x : Expander) (inside quoted : Bool) (p : Parameter)
    (index : Option (Subscript Piece)) (use : Use) (arguments : List (List Piece)) :
    Act (List Segment) := do
  match use with
  | .keys | .names _ => x.value inside quoted p index use arguments
  | _ =>
    match ← x.meant p index with
    | .inl name => return [segment quoted name]
    | .inr (p, index) => x.value inside quoted p index use arguments

def piece (x : Expander) (inside : Bool) : Piece → Act (List Segment)
  | .text quoted t =>
    return [if quoted || !inside then .text (Shell.glyphs quoted t) else .split t]
  | .value quoted false p index use arguments => x.value inside quoted p index use arguments
  | .value quoted true p index use arguments => x.indirectValue inside quoted p index use arguments
  | .output quoted line script => do
    let text ← x.scripts.output line script
    let kept := (text.toList.filter (· ≠ '\x00')).reverse.dropWhile (· = '\n')
    return [segment quoted (String.ofList kept.reverse)]
  | .result quoted expression => do
    let n ← calculate "" (← x.text expression)
    return [segment quoted (toString n)]
  | .process writes line script => do
    return [.text (Shell.glyphs true (← x.scripts.process writes line script))]
  | .brackets _ ps => do
    return .text [⟨'[', false⟩] :: (← x.segments inside ps) ++ [.text [⟨']', false⟩]]
  | .list source _ => return [.text (Shell.glyphs true source)]
  | .bad source => do
    fault (match ← dialect with
      | .plain => "Bad substitution"
      | .bash => source ++ ": bad substitution")
  | .unclosed mark source => do
    let unclosed (closing text : String) : String :=
      "bad substitution: no closing " ++ closing ++ " in " ++ text
    match mark with
    | "\x60" => fault (unclosed "\"\x60\"" (String.ofList (source.toList.dropWhile (· ≠ '\x60'))))
    | "(" =>
      let s ← get
      err (s.label.getD s.setting.name ++ ": command substitution: line " ++
        toString (s.line + source.toList.count '\n' + 1) ++
        ": unexpected EOF while looking for matching \x60)'\n")
      setStatus 1
      throw .abandon
    | "[" => fault (unclosed "\x60]'" source)
    | _ => fault (unclosed "\x60)'" source)

end Expander

/-- An expander that goes into words inside words up to a depth. -/
def expander (scripts : Scripts) (colons : Bool := false) : Nat → Expander
  | 0 => { scripts, colons, segments := fun _ _ => return [] }
  | depth + 1 =>
    { scripts, colons
      segments := fun inside ps => do
        let x := expander scripts colons depth
        return (← ps.mapM (x.piece inside)).flatten }

/-- How deep words stand in words. -/
def wordDepth : Nat := 1000

/-! ### Before and after -/

/-- A word as one text. -/
def textOfWord (scripts : Scripts) (ps : List Piece) : Act String := do
  (expander scripts false wordDepth).text (← withHome ps)

/-- A word as a pattern. -/
def patternOfWord (scripts : Scripts) (ps : List Piece) : Act (List Glyph) := do
  (expander scripts false wordDepth).pattern (← withHome ps)

/-- How paths are looked for. -/
def pathRule : Act PathRule := do
  let plain ← isPlain
  let ignored := ((← value? "GLOBIGNORE").getD "") ≠ "" && !plain
  return {
    pattern := {
      wide := ← isWide, simple := ← isPlain, extended := ← isFurtherOn "extglob", foldCase := ← isFurtherOn "nocaseglob" }
    dots := plain || !(← isFurtherOn "globskipdots")
    hidden := (← isFurtherOn "dotglob") || ignored
    deep := ← isFurtherOn "globstar" }

/-- Paths without those that a variable says are to be left out. -/
def withoutIgnored (rule : PathRule) (paths : List String) : Act (List String) := do
  if ← isPlain then return paths
  match (← value? "GLOBIGNORE").getD "" with
  | "" => return paths
  | list =>
    let patterns := (Text.split ':' list).map fun p =>
      Pattern.ofGlyphs { rule.pattern with foldCase := false } (glyphs false p)
    return paths.filter fun path =>
      let name := (FileTree.names path).getLastD ""
      name ≠ "." && name ≠ ".." && !patterns.any (·.accepts path)

/-- The texts of a field: the paths that it matches as a pattern, or itself. -/
def pathsOfField (gs : List Glyph) : Act (List String) := do
  let s ← get
  let own := Octet.met (textOf gs)
  if s.switches.contains .noPatterns then return [own]
  let rule ← pathRule
  match rule.found? s.machine.tree s.here gs with
  | none => return [own]
  | some paths =>
    match ← withoutIgnored rule paths with
    | [] =>
      if ← isFurtherOn "failglob" then fault ("no match: " ++ own)
      else if ← isFurtherOn "nullglob" then return []
      else return [own]
    | paths => return paths

/-- The fields that a word expands to. -/
def fieldsOfWord (scripts : Scripts) (ps : List Piece) : Act (List String) := do
  let segments ← (expander scripts false wordDepth).segments false (← withHome ps)
  let fields := Fields.ofSegments (← separators) segments
  return (← fields.mapM pathsOfField).flatten

end Act

end ScriptSearch.Host.Shell
