import ScriptSearch.Host.Octet
import ScriptSearch.Host.Tools.Records.Script

/-! The words and signs that scripts on records are made of. Line ends count only where a statement
can end, and a brace that closes ends the statement before it. -/

namespace ScriptSearch.Host.Records

inductive Token
  | newline
  | finish
  | number (s : String)
  | text (s : String)
  | regex (s : String)
  | name (s : String)
  /-- A name with a bracket right behind it. -/
  | function (s : String)
  | builtin (s : String)
  | keyword (s : String)
  | sign (s : String)
  /-- The end of a statement that a closing brace stands for. -/
  | supplied
  deriving DecidableEq, Repr

/-- How a message names a token. -/
def Token.shown : Token → String
  | newline => "end of line"
  | finish => "end of file"
  | number s | text s | name s | function s | builtin s | keyword s | sign s => s
  | regex s => "/" ++ s ++ "/"
  | supplied => "\x7d"

/-- A token, its line, and how many brackets and braces are open behind it. -/
structure Lexeme where
  token : Token
  line : Nat
  brackets : Nat
  braces : Nat
  deriving Repr

def keywords : List String :=
  ["BEGIN", "END", "break", "continue", "delete", "do", "else", "exit", "for", "function", "getline", "if",
    "in", "next", "nextfile", "print", "printf", "return", "while"]

/-- Functions that are there: what they are, and with how few and how many arguments. -/
def builtins : List (String × Builtin × Nat × Nat) :=
  [("length", .length, 0, 1), ("substr", .substr, 2, 3), ("index", .index, 2, 2), ("split", .split, 2, 3),
    ("sub", .sub, 2, 3), ("gsub", .gsub, 2, 3), ("match", .matchAt, 2, 2), ("sprintf", .sprintf, 1, 255),
    ("sin", .sin, 1, 1), ("cos", .cos, 1, 1), ("atan2", .atan2, 2, 2), ("exp", .exp, 1, 1),
    ("log", .log, 1, 1), ("sqrt", .sqrt, 1, 1), ("int", .int, 1, 1), ("rand", .rand, 0, 0),
    ("srand", .srand, 0, 1), ("tolower", .toLower, 1, 1), ("toupper", .toUpper, 1, 1),
    ("close", .close, 1, 1), ("system", .system, 1, 1), ("fflush", .flush, 0, 1)]

/-- Signs of more than one character, the longer ones first. -/
def longSigns : List String :=
  ["**=", "&&", "||", "++", "--", "+=", "-=", "*=", "/=", "%=", "^=", "==", "<=", ">=", "!=", "!~", ">>"]

def plainSigns : List Char := "\x7b\x7d()[];,+-*/%^!<>|?:~$=".toList

/-- What makes a script stop being read: a message, with its line or as it stands. -/
inductive Lexing
  | flaw (f : Flaw)
  | strange (line : Nat) (c : Char)
  deriving Repr

/-- Where reading stands. -/
structure Scanner where
  line : Nat := 1
  brackets : Nat := 0
  braces : Nat := 0
  found : List Lexeme := []
  deriving Repr

def Scanner.last (s : Scanner) : Token := (s.found.head?.map (·.token)).getD .newline

def Scanner.put (s : Scanner) (t : Token) : Scanner :=
  { s with found := ⟨t, s.line, s.brackets, s.braces⟩ :: s.found }

/-- Whether a division can come next, and not a text to search for. -/
def Token.isOperand : Token → Bool
  | number _ | text _ | regex _ | name _ => true
  | sign s => [")", "]", "++", "--", "$"].contains s
  | keyword s => s = "getline"
  | builtin s => s = "length"
  | _ => false

/-- Whether line ends that follow a token do not count. -/
def Token.runsOn : Token → Bool
  | newline => true
  | sign s => ["\x7b", "\x7d", "&&", "||", ",", ";"].contains s
  | keyword s => s = "do" || s = "else"
  | _ => false

/-- The text up to the end of a string, with what its escapes stand for. Nothing if it does not end.
The first argument bounds the steps. -/
def stringText : Nat → List Char → Option (List Char × List Char)
  | 0, _ | _, [] => none
  | _, '\n' :: _ => none
  | _, '"' :: rest => some ([], rest)
  | steps + 1, '\\' :: c :: rest => (stringText steps rest).map fun (t, rest) => ('\\' :: c :: t, rest)
  | steps + 1, c :: rest => (stringText steps rest).map fun (t, rest) => (c :: t, rest)

/-- A text with its escapes resolved; what is no escape stays as it is. The first argument bounds the
steps. -/
def unescaped : Nat → List Char → List Char
  | 0, cs => cs
  | _, [] => []
  | steps + 1, '\\' :: c :: rest =>
    let simple : List (Char × Char) :=
      [('"', '"'), ('\\', '\\'), ('a', '\x07'), ('b', '\x08'), ('f', '\x0c'), ('n', '\n'),
        ('r', '\r'), ('t', '\t'), ('v', '\x0b')]
    match simple.lookup c with
    | some d => d :: unescaped steps rest
    | none =>
      let isOctal (c : Char) : Bool := '0' ≤ c && c ≤ '7'
      let ds := ((c :: rest).take 3).takeWhile isOctal
      let isHex (c : Char) : Bool := c.isDigit || "abcdefABCDEF".toList.contains c
      let hs := (rest.take 2).takeWhile isHex
      if c = '\n' then unescaped steps rest
      else if !ds.isEmpty then
        Octet.char (UInt8.ofNat (ds.foldl (fun n c => 8 * n + (c.toNat - 48)) 0)) ::
          unescaped steps ((c :: rest).drop ds.length)
      else if c = 'x' ∧ !hs.isEmpty then
        let value (c : Char) : Nat :=
          if c.isDigit then c.toNat - 48 else if 'a' ≤ c then c.toNat - 87 else c.toNat - 55
        Octet.char (UInt8.ofNat (hs.foldl (fun n c => 16 * n + value c) 0)) ::
          unescaped steps (rest.drop hs.length)
      else '\\' :: c :: unescaped steps rest
  | steps + 1, c :: rest => c :: unescaped steps rest

def unescape (s : String) : String := String.ofList (unescaped (s.length + 1) s.toList)

/-- The text up to the slash that ends an expression. The flag says whether a set of characters is
open, and its start. The first argument bounds the steps. -/
def regexText : Nat → (inSet : Bool) → (opening : Bool) → List Char → Option (List Char × List Char)
  | 0, _, _, _ | _, _, _, [] => none
  | _, _, _, '\n' :: _ => none
  | steps + 1, inSet, opening, c :: rest =>
    match c, rest with
    | '\\', '/' :: rest => (regexText steps inSet false rest).map fun (t, rest) => ('/' :: t, rest)
    | '\\', '\n' :: rest => regexText steps inSet opening rest
    | '\\', d :: rest => (regexText steps inSet false rest).map fun (t, rest) => ('\\' :: d :: t, rest)
    | c, rest =>
      if c = '/' ∧ !inSet then some ([], rest)
      else
        let next : Bool × Bool :=
          if !inSet then (c = '[', c = '[')
          else if c = ']' ∧ !opening then (false, false)
          else (true, opening && c = '^')
        (regexText steps next.1 next.2 rest).map fun (t, rest) => (c :: t, rest)

/-- A number at the start of a text, and what follows it. -/
def numeral (cs : List Char) : List Char × List Char :=
  let whole := cs.takeWhile Char.isDigit
  let rest := cs.drop whole.length
  let (fraction, rest) := match rest with
    | '.' :: more =>
      let ds := more.takeWhile Char.isDigit
      ('.' :: ds, more.drop ds.length)
    | rest => ([], rest)
  let (power, rest) := match rest with
    | e :: more =>
      if e = 'e' ∨ e = 'E' then
        let (mark, digits) := match more with
          | '+' :: digits => (['+'], digits)
          | '-' :: digits => (['-'], digits)
          | digits => ([], digits)
        let ds := digits.takeWhile Char.isDigit
        if ds.isEmpty then ([], rest) else (e :: mark ++ ds, digits.drop ds.length)
      else ([], rest)
    | [] => ([], [])
  (whole ++ fraction ++ power, rest)

/-- The token of a word, which may have a bracket right behind it. -/
def wordToken (defined : List String) (word : String) (rest : List Char) : Token :=
  if keywords.contains word then .keyword word
  else if (builtins.lookup word).isSome then .builtin word
  else if rest.head? = some '(' ∨ defined.contains word then .function word
  else .name word

/-- A step of the scanner at a sign. -/
def Scanner.sign (s : Scanner) (text : String) : Except Flaw Scanner :=
  match text with
  | "(" => .ok ({ s with brackets := s.brackets + 1 }.put (.sign text))
  | ")" =>
    if s.brackets = 0 then .error ⟨s.line, "extra ')'"⟩
    else .ok ({ s with brackets := s.brackets - 1 }.put (.sign text))
  | "\x7b" => .ok ({ s with braces := s.braces + 1 }.put (.sign text))
  | "\x7d" =>
    if s.braces = 0 then .error ⟨s.line, "extra '\x7d'"⟩
    else
      let closes : Bool := match s.last with
        | .newline | .supplied => true
        | .sign t => t = ";" || t = "\x7d"
        | _ => false
      let s := if closes then s else s.put .supplied
      .ok ({ s with braces := s.braces - 1 }.put (.sign text))
  | text => .ok (s.put (.sign text))

/-- Reads tokens up to the end of a text. The first argument bounds the steps. -/
def Scanner.read : Nat → Scanner → List Char → Scanner × Option Lexing
  | 0, s, _ => (s.put .finish, none)
  | _, s, [] => (s.put .finish, none)
  | steps + 1, s, c :: rest =>
    let wordChar (c : Char) : Bool := c.isAlphanum || c = '_'
    if c = ' ' ∨ c = '\t' ∨ c = '\r' ∨ c = '\x0b' ∨ c = '\x0c' then read steps s rest
    else if c = '#' then read steps s (rest.dropWhile (· ≠ '\n'))
    else if c = '\n' then
      let s' := if s.last.runsOn then s else s.put .newline
      read steps { s' with line := s.line + 1 } rest
    else if c = '\\' ∧ (rest.dropWhile (· = '\r')).head? = some '\n' then
      read steps { s with line := s.line + 1 } ((rest.dropWhile (· = '\r')).drop 1)
    else if c = '"' then
      match stringText (rest.length + 1) rest with
      | some (text, behind) =>
        let lines := (text.filter (· = '\n')).length
        let text := String.ofList (unescaped (text.length + 1) text)
        read steps { s.put (.text text) with line := s.line + lines } behind
      | none =>
        let shown := (String.ofList (rest.takeWhile (· ≠ '\n'))).take 10
        (s, some (.flaw ⟨s.line, "runaway string constant \"" ++ shown.toString ++ " ..."⟩))
    else if c = '/' ∧ !s.last.isOperand then
      match regexText (rest.length + 1) false false rest with
      | some (text, behind) => read steps (s.put (.regex (String.ofList text))) behind
      | none =>
        let shown := (String.ofList (rest.takeWhile (· ≠ '\n'))).take 10
        (s, some (.flaw ⟨s.line, "runaway regular expression /" ++ shown.toString ++ " ..."⟩))
    else if c.isDigit ∨ (c = '.' ∧ rest.head?.any Char.isDigit) then
      let (ds, behind) := numeral (c :: rest)
      read steps (s.put (.number (String.ofList ds))) behind
    else if c.isAlpha ∨ c = '_' then
      let word := c :: rest.takeWhile wordChar
      let behind := rest.drop (word.length - 1)
      let defined := (s.found.zip (s.found.drop 1)).filterMap fun (t, before) =>
        match t.token, before.token with
        | .function f, .keyword "function" => some f
        | _, _ => none
      read steps (s.put (wordToken defined (String.ofList word) behind)) behind
    else
      match longSigns.find? fun sign => sign.toList.isPrefixOf (c :: rest) && sign ≠ "**=" with
      | some sign =>
        match s.sign sign with
        | .ok s => read steps s (rest.drop (sign.length - 1))
        | .error f => (s, some (.flaw f))
      | none =>
        if plainSigns.contains c then
          -- a block that ends a rule takes one semicolon with it
          if c = ';' ∧ s.braces = 0 ∧ s.last = .sign "\x7d" ∧ !(s.found.drop 1).isEmpty then
            read steps (s.put .newline) rest
          else
            match s.sign (String.singleton c) with
            | .ok s => read steps s rest
            | .error f => (s, some (.flaw f))
        else (s, some (.strange s.line c))

/-- The tokens of a script, and what makes it stop being read. -/
def tokens (text : String) : List Lexeme × Option Lexing :=
  let cs := text.toList
  let (s, end?) := Scanner.read (cs.length + 1) {} cs
  (s.found.reverse, end?)

end ScriptSearch.Host.Records
