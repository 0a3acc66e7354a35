/-! Words of a script before they are expanded. A word is a row of pieces: text, values of
parameters, output of scripts and results of arithmetic. What is quoted in a word is
neither cut into fields nor matched against files. -/

namespace ScriptSearch.Host.Shell

/-- The two shells of the system: a plain one and a large one. -/
inductive Dialect
  | plain
  | bash
  deriving DecidableEq, Repr

/-- What can stand after a `$`. -/
inductive Parameter
  | variable (name : String)
  | position (n : Nat)
  | count
  | status
  | process
  /-- The last process in the background. -/
  | background
  /-- The letters of the options that are set. -/
  | options
  /-- All arguments, as one text or as a word each. -/
  | all (joined : Bool)
  deriving DecidableEq, Repr

/-- The part of a text that is replaced. -/
inductive Place
  | first | every | start | finish
  deriving DecidableEq, Repr

/-- A change of letters. -/
inductive Recase
  | upper | lower | toggle
  deriving DecidableEq, Repr

/-- What is done with a parameter's value. With `empty`, an empty value counts as none. -/
inductive Use
  | plain
  | length
  | default (empty : Bool)
  | assign (empty : Bool)
  | demand (empty : Bool)
  | alternative (empty : Bool)
  /-- Takes away what matches at the end or at the start. -/
  | trim (atEnd longest : Bool)
  | slice
  | replace (place : Place)
  | recase (change : Recase) (every : Bool)
  /-- Shows the value or what is known of it, in a way that a letter says. -/
  | transform (letter : Char)
  /-- Shows the value in no known way. -/
  | unknown
  /-- The subscripts of the elements that there are. -/
  | keys
  /-- The names of variables that begin with the name. -/
  | names (joined : Bool)
  deriving DecidableEq, Repr

/-- What stands in brackets behind a variable's name: a mark for all elements, as one text or
as a word each, or what an element is found by. -/
inductive Subscript (α : Type)
  | all (joined : Bool)
  | index (source : String) (pieces : List α)
  deriving Repr

/-- One of the values between parentheses that a list is set to. -/
structure Element (α : Type) where
  subscript : Option (List α) := none
  append : Bool := false
  value : List α
  deriving Repr

inductive Piece
  | text (quoted : Bool) (s : String)
  /-- With `indirect`, the value names the parameter that is meant. -/
  | value (quoted indirect : Bool) (p : Parameter) (subscript : Option (Subscript Piece)) (use : Use)
      (arguments : List (List Piece))
  /-- What a script writes; the line is where the script begins. -/
  | output (quoted : Bool) (line : Nat) (script : String)
  | result (quoted : Bool) (expression : List Piece)
  /-- A path under which a script's output is read, or its input written. -/
  | process (writes : Bool) (line : Nat) (script : String)
  /-- Brackets behind a name at the start of a word. -/
  | brackets (source : String) (inside : List Piece)
  /-- Values between parentheses behind `=`. -/
  | list (source : String) (elements : List (Element Piece))
  /-- Braces after a `$` around something that is no parameter, in a text. -/
  | bad (source : String)
  /-- A text to read in which something stays open that began with a mark. -/
  | unclosed (mark source : String)
  deriving Repr

/-- A word, and the text that it is written as. -/
structure Word where
  pieces : List Piece := []
  source : String := ""
  deriving Repr

namespace Word

/-- The text of pieces that are one unquoted text. -/
def bareOf? : List Piece → Option String
  | [.text false s] => some s
  | _ => none

def bare? (w : Word) : Option String := bareOf? w.pieces

/-- Neighbouring texts of one kind as one. -/
def joined : List Piece → List Piece
  | .text q s :: rest =>
    match joined rest with
    | .text q' s' :: more => if q = q' then .text q (s ++ s') :: more else .text q s :: .text q' s' :: more
    | more => .text q s :: more
  | p :: rest => p :: joined rest
  | [] => []

/-- Pieces whose texts that are no parameters are known by another text. -/
def renamed (name : String → String) (ps : List Piece) : List Piece :=
  ps.map fun
    | .bad text => .bad (name text)
    | .value quoted indirect p subscript .unknown [[.bad text]] =>
      .value quoted indirect p subscript .unknown [[.bad (name text)]]
    | p => p

/-- A word whose pieces that are no parameters are known by its text, as far as none is known for
them yet. -/
def located (w : Word) : Word :=
  { w with pieces := renamed (fun text => if text = "" then w.source else text) w.pieces }

/-- A word with pieces and their text in front. -/
def after (w : Word) (front : List Piece) (source : String) : Word :=
  { pieces := front ++ w.pieces, source := source ++ w.source }

/-- A text without its quotes, with what else is in it left as it is written. The flag says whether it
begins within double quotes. -/
def withoutQuotes : (within : Bool) → List Char → List Char
  | _, [] => []
  | within, '"' :: cs => withoutQuotes (!within) cs
  | true, '\\' :: c :: cs =>
    if "$\x60\"\\".toList.contains c then c :: withoutQuotes true cs else '\\' :: c :: withoutQuotes true cs
  | false, '\\' :: c :: cs => c :: withoutQuotes false cs
  | false, '\'' :: cs => literally cs
  | within, c :: cs => c :: withoutQuotes within cs
where
  literally : List Char → List Char
    | [] => []
    | '\'' :: cs => withoutQuotes false cs
    | c :: cs => c :: literally cs

/-- The text of a word without its quotes. -/
def unquoted (w : Word) : String :=
  String.join (w.pieces.map fun
    | .text _ s => s
    | .brackets source _ => "[" ++ source ++ "]"
    | .list source _ | .bad source => source
    | _ => "")

/-- The line that ends a text to read which a word asks for: nothing in it is expanded. -/
def mark (w : Word) : String :=
  if w.pieces.all (· matches .text _ _) then w.unquoted
  else String.ofList (withoutQuotes false w.source.toList)

/-- Whether a part of a word is quoted. -/
def isQuoted (w : Word) : Bool := w.pieces.any fun
  | .text quoted _ => quoted
  | _ => false

end Word

def isNameStart (c : Char) : Bool := c.isAlpha || c == '_'

def isNameChar (c : Char) : Bool := c.isAlphanum || c == '_'

def isName (s : String) : Bool :=
  match s.toList with
  | c :: cs => isNameStart c && cs.all isNameChar
  | [] => false

/-- The parameters whose name is one character. -/
def Parameter.ofChar? (c : Char) : Option Parameter :=
  if c.isDigit then some (.position (c.toNat - '0'.toNat))
  else match c with
    | '#' => some .count
    | '?' => some .status
    | '$' => some .process
    | '!' => some .background
    | '-' => some .options
    | '@' => some (.all false)
    | '*' => some (.all true)
    | _ => none

/-- The parameter written between braces. -/
def Parameter.ofName (name : List Char) : Parameter :=
  match name with
  | [c] => (ofChar? c).getD (.variable (String.ofList name))
  | _ =>
    if name.all Char.isDigit then .position (name.foldl (fun n c => 10 * n + (c.toNat - 48)) 0)
    else .variable (String.ofList name)

end ScriptSearch.Host.Shell
