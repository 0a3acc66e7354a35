import ScriptSearch.Host.Quoted

/-! Options of the system's tools: letters, which can stand together behind one dash, and
words behind two dashes, which can be cut short. -/

namespace ScriptSearch.Host.Tools

/-- Whether a value belongs to an option. One that may have a value has it right behind the
letter, or behind `=`. -/
inductive Valued
  | never | always | perhaps
  deriving DecidableEq, Repr

/-- An option: a letter, a word, or both. -/
structure OptionRule where
  letter : String
  word : String
  value : Valued
  deriving Repr

/-- What an option is known by. -/
def OptionRule.name (o : OptionRule) : String := if o.letter = "" then o.word else o.letter

/-- An option without a value. -/
def flag (letter : String) (word : String := "") : OptionRule := ⟨letter, word, .never⟩

/-- Letters that are options without values. -/
def flags (letters : String) : List OptionRule :=
  letters.toList.map fun c => ⟨String.singleton c, "", .never⟩

/-- An option with a value. -/
def valued (letter : String) (word : String := "") : OptionRule := ⟨letter, word, .always⟩

/-- An option that may have a value. -/
def perhaps (letter : String) (word : String := "") : OptionRule := ⟨letter, word, .perhaps⟩

/-- The options of a tool. -/
structure OptionTable where
  rules : List OptionRule := []
  /-- Whether operands end the options. -/
  inOrder : Bool := false
  /-- Whether a text that begins with a dash is an operand all the same. -/
  isOperand : String → Bool := fun _ => false

/-- What is wrong with an option. -/
inductive OptionFault
  | unknown (c : Char)
  | unrecognized (text : String)
  | ambiguous (text : String) (words : List String)
  | needless (word : String)
  | short (c : Char)
  | shortWord (word : String)

def OptionFault.message : OptionFault → String
  | unknown c => "invalid option -- '" ++ String.ofList [c] ++ "'"
  | unrecognized text => "unrecognized option '" ++ text ++ "'"
  | ambiguous text words =>
    "option '" ++ text ++ "' is ambiguous; possibilities:" ++
      String.join (words.map fun word => " '--" ++ word ++ "'")
  | needless word => "option '--" ++ word ++ "' doesn't allow an argument"
  | short c => "option requires an argument -- '" ++ String.ofList [c] ++ "'"
  | shortWord word => "option '--" ++ word ++ "' requires an argument"

/-- Options by name with their values, and operands. -/
structure Given where
  options : List (String × String) := []
  operands : List String := []

namespace Given

def has (g : Given) (name : String) : Bool := (g.options.lookup name).isSome

/-- Whether one of several options is given. -/
def hasAny (g : Given) (names : List String) : Bool := names.any g.has

/-- The value that was given last. -/
def last? (g : Given) (name : String) : Option String := g.options.reverse.lookup name

/-- All values of an option. -/
def all (g : Given) (name : String) : List String :=
  g.options.filterMap fun o => if o.1 = name then some o.2 else none

/-- The one of several options that was given last. -/
def lastOf (g : Given) (names : List String) : Option String :=
  (g.options.reverse.find? fun o => names.contains o.1).map (·.1)

def put (g : Given) (options : List (String × String)) : Given :=
  { g with options := options ++ g.options }

end Given

namespace OptionTable

/-- Options that every tool has. -/
def common : List OptionRule := [flag "" "help", flag "" "version"]

/-- The option that a word means: the one that has it, or the only one that begins with it. -/
def ofWord? (t : OptionTable) (word : String) : Except OptionFault OptionRule :=
  let rules := t.rules ++ common
  match rules.find? (·.word = word) with
  | some o => .ok o
  | none =>
    match rules.filter fun o => o.word ≠ "" && word.toList.isPrefixOf o.word.toList with
    | [] => .error (.unrecognized ("--" ++ word))
    | o :: os =>
      if os.all fun other => other.name = o.name then .ok o
      else .error (.ambiguous ("--" ++ word) ((o :: os).map (·.word)))

def ofLetter? (t : OptionTable) (c : Char) : Option OptionRule :=
  t.rules.find? (·.letter = String.singleton c)

/-- What letters behind a dash say. A value that is missing is what comes next. -/
def letters (t : OptionTable) : List Char →
    Except OptionFault (List (String × String) × Option (Char × String))
  | [] => .ok ([], none)
  | c :: cs =>
    match t.ofLetter? c with
    | none => .error (.unknown c)
    | some o =>
      match o.value, cs with
      | .never, cs => do
        let (more, missing) ← t.letters cs
        .ok ((o.name, "") :: more, missing)
      | .always, [] => .ok ([], some (c, o.name))
      | _, cs => .ok ([(o.name, String.ofList cs)], none)

/-- Takes the options out of the arguments. -/
def read (t : OptionTable) : List String → Except OptionFault Given
  | [] => .ok {}
  | arg :: rest =>
    match if t.isOperand arg then [] else arg.toList with
    | ['-', '-'] => .ok { operands := rest }
    | '-' :: '-' :: cs => do
      let word := cs.takeWhile (· ≠ '=')
      let value? := match cs.drop word.length with
        | _ :: value => some (String.ofList value)
        | [] => none
      let o ← (t.ofWord? (String.ofList word)).mapError fun
        | .unrecognized _ => .unrecognized arg
        | e => e
      match o.value, value? with
      | .never, some _ => .error (.needless o.word)
      | .always, none =>
        match rest with
        | value :: rest => (·.put [(o.name, value)]) <$> t.read rest
        | [] => .error (.shortWord o.word)
      | _, value => (·.put [(o.name, value.getD "")]) <$> t.read rest
    | '-' :: c :: cs => do
      match ← t.letters (c :: cs) with
      | (found, none) => (·.put found) <$> t.read rest
      | (found, some (letter, name)) =>
        match rest with
        | value :: rest => (·.put (found ++ [(name, value)])) <$> t.read rest
        | [] => .error (.short letter)
    | _ =>
      if t.inOrder then .ok { operands := arg :: rest }
      else do
        let g ← t.read rest
        .ok { g with operands := arg :: g.operands }

end OptionTable

end ScriptSearch.Host.Tools
