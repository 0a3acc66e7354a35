import ScriptSearch.Host.FileTree
import ScriptSearch.Host.Regex

/-! Conditions on files, as arguments give them: what can be asked of a file or done with it, joined
by operators. A condition is read from marks, in which every operator and bracket is still one of
its own; operators bind the more strongly the later they are in `Joint`. -/

namespace ScriptSearch.Host.Finder

/-- A number to compare with: that number, more, or less. -/
structure Amount where
  relation : Ordering
  number : Nat
  deriving DecidableEq, Repr

def Amount.admits (a : Amount) (n : Nat) : Bool := compare n a.number == a.relation

/-- A part of a format. -/
inductive FormatPart
  | text (s : String)
  /-- What is known of a file, by a letter, with a width that it fills. -/
  | known (c : Char) (left zero alternate : Bool) (width : Nat) (most : Option Nat)
  /-- Nothing is printed from here on. -/
  | finish
  deriving DecidableEq, Repr

/-- What a command that is run for files has of them. -/
structure Call where
  words : List String
  /-- Whether it runs in the directory that a file is in. -/
  inside : Bool := false
  /-- Whether the user is asked first. -/
  asks : Bool := false

/-- What is asked of a file, or done with it. -/
inductive Primary
  | always (b : Bool)
  | name (foldCase : Bool) (pattern : String)
  | path (foldCase : Bool) (pattern : String)
  | target (foldCase : Bool) (pattern : String)
  | regex (rule : RegexRule) (r : Regex)
  /-- Of one of several kinds; the flag asks for what a link leads to, or for the link itself. -/
  | kind (turned : Bool) (letters : List Char)
  | size (a : Amount) (unit : Nat)
  | links (a : Amount)
  | age (a : Amount)
  | owner (a : Amount)
  | group (a : Amount)
  | nameless
  /-- All, some, or exactly those bits of the mode. -/
  | mode (how : Char) (bits : Nat)
  | permitted (r : FileTree.Right)
  | empty
  | same (location : Location)
  | print (file : Option String) (stop : String)
  | format (file : Option String) (parts : List FormatPart)
  | list (file : Option String)
  | call (c : Call)
  /-- Calls a command for many files at once; calls are told apart by numbers. -/
  | gather (n : Nat) (c : Call)
  | delete
  | prune
  | quit

/-- Whether something takes the place of printing. -/
def Primary.acts : Primary → Bool
  | .print _ _ | .format _ _ | .list _ | .call _ | .gather _ _ | .delete => true
  | _ => false

/-- Operators between two conditions. -/
inductive Joint
  | comma | or | and
  deriving DecidableEq, Repr

def Joint.strength : Joint → Nat
  | comma => 1
  | or => 2
  | and => 3

inductive Condition
  | primary (p : Primary)
  | negated (c : Condition)
  | join (j : Joint) (a b : Condition)

/-- A piece of a condition as it is written. -/
inductive Mark
  | primary (p : Primary)
  | negation (name : String)
  | joint (j : Joint) (name : String)
  | opening
  | closing
  /-- The brackets around all that is given. -/
  | outerOpening
  | outerClosing

/-- What is wrong with a condition. -/
inductive Flaw
  | nothingBefore (name : String)
  | nothingBetween (name : String)
  | nothingAfter (name : String)
  | tooManyClosings
  | noClosing
  | nothingInside
  | nothingYet
  | missingAfter
  | invalid
  deriving DecidableEq, Repr

def Flaw.message : Flaw → String
  | nothingBefore name =>
    "invalid expression; you have used a binary operator '" ++ name ++ "' with nothing before it."
  | nothingBetween name => "expected an expression between '" ++ name ++ "' and ')'"
  | nothingAfter name => "expected an expression after '" ++ name ++ "'"
  | tooManyClosings => "you have too many ')'"
  | noClosing => "invalid expression; I was expecting to find a ')' somewhere but did not see one."
  | nothingInside => "invalid expression; empty parentheses are not allowed."
  | nothingYet => "invalid expression: expected expression before closing parentheses ')'."
  | missingAfter =>
    "invalid expression; expected to find a ')' but didn't see one. " ++
      "Perhaps you need an extra predicate after '('"
  | invalid => "invalid expression"

/-- The name of an operator. -/
def Mark.name? : Mark → Option String
  | .negation name | .joint _ name => some name
  | _ => none

mutual

/-- Reads a condition behind a mark, and goes on as long as operators bind more strongly than
`strength`. The first argument bounds the steps. -/
def reading : Nat → (strength : Nat) → (before : Option Mark) → List Mark →
    Except Flaw (Condition × List Mark)
  | 0, _, _, _ => .error .invalid
  | steps + 1, strength, before, marks => do
    let name := before.bind Mark.name?
    let (c, rest) ← match marks with
      | [] => .error .invalid
      | .joint _ name :: _ => .error (.nothingBefore name)
      | .closing :: _ => .error (match name with
        | some name => .nothingBetween name
        | none => .tooManyClosings)
      | .outerClosing :: _ => .error (match name with
        | some name => .nothingAfter name
        | none => .tooManyClosings)
      | .primary p :: rest => .ok (.primary p, rest)
      | .negation name :: rest => do
        let (c, rest) ← reading steps 4 (some (.negation name)) rest
        .ok (.negated c, rest)
      | bracket :: rest =>
        match rest with
        | [] | .outerClosing :: _ => .error .missingAfter
        | .closing :: _ => .error (if bracket matches .outerOpening then .nothingYet else .nothingInside)
        | _ => do
          let (c, rest) ← reading steps 0 (some bracket) rest
          match rest with
          | .closing :: rest | .outerClosing :: rest => .ok (c, rest)
          | _ => .error .noClosing
    joining steps strength c rest

/-- Goes on behind a condition. -/
def joining : Nat → (strength : Nat) → Condition → List Mark → Except Flaw (Condition × List Mark)
  | 0, _, _, _ => .error .invalid
  | steps + 1, strength, c, marks =>
    match marks with
    | .joint j name :: rest =>
      if j.strength ≤ strength then .ok (c, marks)
      else do
        let (d, rest) ← reading steps j.strength (some (.joint j name)) rest
        joining steps strength (.join j c d) rest
    | _ => .ok (c, marks)

end

/-- The condition that marks make. -/
def Condition.ofMarks (marks : List Mark) : Except Flaw Condition := do
  let (c, rest) ← reading (2 * marks.length + 4) 0 none marks
  match rest with
  | [] => .ok c
  | .closing :: _ | .outerClosing :: _ => .error .tooManyClosings
  | _ => .error .invalid

/-- Marks with brackets around them and printing behind, unless they say what to do themselves. -/
def completed (marks : List Mark) : List Mark :=
  let print : Mark := .primary (.print none "\n")
  let acts (m : Mark) : Bool := match m with
    | .primary p => p.acts
    | _ => false
  if marks.isEmpty then [print]
  else if marks.any acts then marks
  else .outerOpening :: marks ++ [.outerClosing, .joint .and "-a", print]

end ScriptSearch.Host.Finder
