import ScriptSearch.Host.Shell.Word

/-! Scripts as they are understood: statements, made of commands with words and
redirections. -/

namespace ScriptSearch.Host.Shell

/-- What is done to a descriptor before a command runs. -/
inductive Redirect
  | input
  | output (overwrite : Bool)
  | append
  | inputOutput
  /-- Copies another descriptor, or closes this one. -/
  | copy (toOutput : Bool)
  /-- A text to read. -/
  | text
  /-- Lines of the script to read, up to a mark. -/
  | document (number : Nat) (tabs quoted : Bool) (mark : String)
  /-- Both outputs go to a file. -/
  | both (append : Bool)
  deriving DecidableEq, Repr

/-- The descriptor that is directed: a number, or a new one whose number a variable gets. -/
inductive Descriptor
  | standard
  | number (n : Nat)
  | variable (name : String)
  deriving DecidableEq, Repr

structure Redirection where
  descriptor : Descriptor
  action : Redirect
  target : Word
  deriving Repr

structure Assignment where
  name : String
  subscript : Option (String × List Piece) := none
  append : Bool := false
  value : List Piece
  /-- The value as it is written. -/
  source : String := ""
  deriving Repr

/-- Tests between double brackets. -/
inductive Condition
  | unary (operator : String) (operand : Word)
  | binary (operator : String) (left right : Word)
  /-- One word, which must not be empty. -/
  | single (operand : Word)
  | negation (c : Condition)
  | both (a b : Condition)
  | either (a b : Condition)
  | enclosed (c : Condition)
  deriving Repr

/-- What follows an arm of a choice: nothing, the next arm, or the next that matches. -/
inductive After
  | done | next | matching
  deriving DecidableEq, Repr

inductive Statement
  | nothing
  | simple (line : Nat) (assignments : List Assignment) (words : List Word)
      (redirections : List Redirection)
  | pipeline (negated : Bool) (stages : List Statement)
  /-- A pipeline whose time is taken. -/
  | timed (standard : Bool) (s : Statement)
  /-- The second is run if the first succeeds, or if it fails. -/
  | chain (onSuccess : Bool) (first second : Statement)
  /-- The first stands on a line of its own, or a semicolon follows it. -/
  | sequence (lineEnd : Bool) (first second : Statement)
  | background (s : Statement)
  | subshell (line : Nat) (body : Statement)
  | group (body : Statement)
  | redirected (line : Nat) (body : Statement) (redirections : List Redirection)
  | branch (condition body : Statement) (otherwise : Option Statement)
  | repetition (untilSuccess : Bool) (condition body : Statement)
  /-- A loop over words, or over the arguments. -/
  | each (line : Nat) (name : String) (words : Option (List Word)) (body : Statement)
  /-- A loop in which words are offered to be chosen from. -/
  | selection (line : Nat) (name : String) (words : Option (List Word)) (body : Statement)
  /-- A loop with a calculation before it, one that says whether it goes on, and one after
  every pass. -/
  | counted (line : Nat) (first condition after : Word) (body : Statement)
  | choice (line : Nat) (subject : Word) (arms : List (List Word × Statement × After))
  | definition (line : Nat) (name : String) (body : Statement)
  | condition (line : Nat) (c : Condition)
  | calculation (line : Nat) (expression : Word)
  /-- A part that runs beside the script, which reads and writes it under descriptors in a
  list of this name. -/
  | companion (line : Nat) (name : String) (body : Statement)
  deriving Repr

namespace Assignment

/-- Splits a word after a name and `=`; in the large shell the name can have a subscript, and
the value can also be appended. -/
def ofWord? (d : Dialect) (w : Word) : Option Assignment :=
  let behind (name : String) (subscript : Option (String × List Piece)) (s : List Char)
      (rest : List Piece) (source : List Char) : Option Assignment :=
    let value (append : Bool) (cs source : List Char) : Option Assignment :=
      let pieces := if cs.isEmpty then rest else .text false (String.ofList cs) :: rest
      some { name, subscript, append, value := pieces, source := String.ofList source }
    match s with
    | '=' :: cs => value false cs (source.drop 1)
    | '+' :: '=' :: cs => if d = .bash then value true cs (source.drop 2) else none
    | _ => none
  match w.pieces with
  | .text false s :: rest =>
    let name := s.toList.takeWhile isNameChar
    let behindName := s.toList.drop name.length
    if !isName (String.ofList name) then none
    else match behindName, rest with
      | [], .brackets text inside :: .text false s :: rest =>
        behind (String.ofList name) (some (text, inside)) s.toList rest
          (w.source.toList.drop (name.length + text.length + 2))
      | _, _ => behind (String.ofList name) none behindName rest (w.source.toList.drop name.length)
  | _ => none

/-- An assignment whose value is not known as a part of the word that it was read from. -/
def ownText (w : Word) (a : Assignment) : Assignment :=
  { a with value := Word.renamed (fun text => if text = w.source then a.source else text) a.value }

end Assignment

namespace Statement

/-- A statement with something done to all its redirections. -/
def mapRedirections (f : Redirection → Redirection) : Statement → Statement
  | .simple line assignments words rs => .simple line assignments words (rs.map f)
  | .pipeline negated stages => .pipeline negated (go stages)
  | .timed standard s => .timed standard (s.mapRedirections f)
  | .chain onSuccess a b => .chain onSuccess (a.mapRedirections f) (b.mapRedirections f)
  | .sequence lineEnd a b => .sequence lineEnd (a.mapRedirections f) (b.mapRedirections f)
  | .background s => .background (s.mapRedirections f)
  | .subshell line s => .subshell line (s.mapRedirections f)
  | .group s => .group (s.mapRedirections f)
  | .redirected line s rs => .redirected line (s.mapRedirections f) (rs.map f)
  | .branch c s none => .branch (c.mapRedirections f) (s.mapRedirections f) none
  | .branch c s (some o) =>
    .branch (c.mapRedirections f) (s.mapRedirections f) (some (o.mapRedirections f))
  | .repetition u c s => .repetition u (c.mapRedirections f) (s.mapRedirections f)
  | .each line name words s => .each line name words (s.mapRedirections f)
  | .selection line name words s => .selection line name words (s.mapRedirections f)
  | .counted line a b c s => .counted line a b c (s.mapRedirections f)
  | .choice line w arms => .choice line w (goArms arms)
  | .definition line name s => .definition line name (s.mapRedirections f)
  | .companion line name s => .companion line name (s.mapRedirections f)
  | s => s
where
  go : List Statement → List Statement
    | [] => []
    | s :: rest => s.mapRedirections f :: go rest
  goArms : List (List Word × Statement × After) → List (List Word × Statement × After)
    | [] => []
    | (ws, s, after) :: rest => (ws, s.mapRedirections f, after) :: goArms rest

end Statement

end ScriptSearch.Host.Shell
