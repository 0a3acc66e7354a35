import ScriptSearch.Host.Letters
import ScriptSearch.Host.Octet

/-! Patterns with `*`, `?`, sets in brackets and, where they are known, groups in parentheses.
A quoted character stands for itself. A pattern is matched by all places at once that it can
have come to in a text. -/

namespace ScriptSearch.Host.Shell

/-- A character of an expanded word. -/
structure Glyph where
  char : Char
  quoted : Bool := false
  deriving DecidableEq, Repr

/-- The text of glyphs. -/
def textOf (gs : List Glyph) : String := String.ofList (gs.map (·.char))

def glyphs (quoted : Bool) (s : String) : List Glyph := s.toList.map (⟨·, quoted⟩)

/-- How patterns are understood. -/
structure PatternRule where
  /-- Whether texts are characters, or else bytes. -/
  wide : Bool := false
  /-- Whether sets are those of the plain shell. -/
  simple : Bool := false
  /-- Whether there are groups. -/
  extended : Bool := false
  /-- Whether letters match whatever their case. -/
  foldCase : Bool := false
  deriving DecidableEq, Repr

/-- How often the alternatives of a group are to match. -/
inductive Times
  | once | optional | any | some | never
  deriving DecidableEq, Repr

/-- A part of a pattern. -/
inductive Atom
  | many
  | one
  | char (c : Char)
  /-- A character of one of the ranges or classes, or of none of them. -/
  | set (negated : Bool) (ranges : List (Char × Char)) (classes : List String)
  | group (times : Times) (alternatives : List (List Atom))
  deriving Repr

namespace Pattern

def Times.ofChar? : Char → Option Times
  | '@' => Option.some .once
  | '?' => Option.some .optional
  | '*' => Option.some .any
  | '+' => Option.some .some
  | '!' => Option.some .never
  | _ => none

/-- The names of classes of characters. -/
def classNames : List String :=
  ["alnum", "alpha", "blank", "cntrl", "digit", "graph", "lower", "print", "punct", "space", "upper", "xdigit"]

/-- The members of a set up to the bracket that closes it, and the rest; nothing if no
bracket does. A bracket that comes first is a member. In a `simple` set there are no members by name
but the known classes. -/
def members (simple : Bool) : (first : Bool) → Nat → List Glyph →
    Option (List (Char × Char) × List String × List Glyph)
  | _, 0, _ => none
  | _, _, [] => none
  | first, steps + 1, g :: rest =>
    if g = ⟨']', false⟩ ∧ !first then Option.some ([], [], rest)
    else
      let range (low high : Char) (rest : List Glyph) :=
        (members simple false steps rest).map fun (rs, cs, more) => ((low, high) :: rs, cs, more)
      match g, rest with
      | ⟨'[', false⟩, ⟨':', false⟩ :: more =>
        let name := more.takeWhile (·.char.isAlpha)
        match more.drop name.length with
        | ⟨':', false⟩ :: ⟨']', false⟩ :: more =>
          if simple && !classNames.contains (textOf name) then range '[' '[' rest
          else (members simple false steps more).map fun (rs, cs, more) => (rs, textOf name :: cs, more)
        | _ => range '[' '[' rest
      | ⟨'[', false⟩, ⟨mark, false⟩ :: c :: ⟨again, false⟩ :: ⟨']', false⟩ :: more =>
        if !simple ∧ (mark = '=' ∨ mark = '.') ∧ again = mark then range c.char c.char more
        else range '[' '[' rest
      | ⟨'\\', false⟩, c :: more => range c.char c.char more
      | g, ⟨'-', false⟩ :: h :: more =>
        if h = ⟨']', false⟩ then range g.char g.char rest
        else match h, more with
          | ⟨'\\', false⟩, h :: more => range g.char h.char more
          | h, more => range g.char h.char more
      | g, rest => range g.char g.char rest

/-- The alternatives of a group up to the parenthesis that closes it, and the rest. The depth
counts inner parentheses. -/
def alternatives : (depth : Nat) → List Glyph → Option (List (List Glyph) × List Glyph)
  | _, [] => none
  | depth, g :: rest =>
    let on (depth : Nat) := (alternatives depth rest).map fun (parts, more) =>
      (parts.modifyHead (g :: ·), more)
    if g.quoted then on depth
    else match g.char, depth with
      | ')', 0 => Option.some ([[]], rest)
      | ')', depth + 1 => on depth
      | '(', depth => on (depth + 1)
      | '|', 0 => (alternatives 0 rest).map fun (parts, more) => ([] :: parts, more)
      | _, depth => on depth

/-- The parts of a pattern. The first argument bounds the steps. -/
def atomsUpTo (simple extended : Bool) : Nat → List Glyph → List Atom
  | 0, _ | _, [] => []
  | steps + 1, g :: rest =>
    let one : List Atom :=
      if g.quoted then .char g.char :: atomsUpTo simple extended steps rest
      else match g.char with
        | '*' => .many :: atomsUpTo simple extended steps rest
        | '?' => .one :: atomsUpTo simple extended steps rest
        | '\\' =>
          match rest with
          | next :: rest => .char next.char :: atomsUpTo simple extended steps rest
          | [] => [.char '\\']
        | '[' =>
          let (negated, body) := match rest with
            | ⟨'!', false⟩ :: body => (true, body)
            | ⟨'^', false⟩ :: body => if simple then (false, ⟨'^', false⟩ :: body) else (true, body)
            | body => (false, body)
          match members simple true (rest.length + 1) body with
          | Option.some (ranges, classes, rest) =>
            .set negated ranges classes :: atomsUpTo simple extended steps rest
          | none => .char '[' :: atomsUpTo simple extended steps rest
        | c => .char c :: atomsUpTo simple extended steps rest
    match if extended && !g.quoted then Times.ofChar? g.char else none, rest with
    | Option.some times, ⟨'(', false⟩ :: inner =>
      match alternatives 0 inner with
      | Option.some (parts, more) =>
        .group times (parts.map (atomsUpTo simple extended steps)) :: atomsUpTo simple extended steps more
      | none => one
    | _, _ => one

/-- Glyphs with bytes in place of characters, where texts are bytes. -/
def unitsOf (wide : Bool) (gs : List Glyph) : List Glyph :=
  if wide then gs
  else gs.flatMap fun g =>
    if g.char.toNat < 0x80 then [g] else (Octet.ofChar g.char).map fun b => ⟨Octet.char b, g.quoted⟩

def Atom.accepts (rule : PatternRule) : Atom → Char → Bool
  | .many, _ | .group _ _, _ => false
  | .one, _ => true
  | .char d, c => c == d || (rule.foldCase && Letters.lower rule.wide c == Letters.lower rule.wide d)
  | .set negated ranges classes, c =>
    let forms := if rule.foldCase then [c, Letters.lower rule.wide c, Letters.upper rule.wide c] else [c]
    negated != forms.any fun c =>
      ranges.any (fun r => r.1 ≤ c && c ≤ r.2) || classes.any (Letters.isOfClass rule.wide c)

/-- Places with others, in order and each once. -/
def merged : List Nat → List Nat → List Nat
  | [], b => b
  | a, [] => a
  | x :: a, y :: b =>
    if x < y then x :: merged a (y :: b)
    else if x = y then x :: merged a b
    else y :: merged (x :: a) b

/-- Places that are reached by going on from places as long as new ones come up. -/
def closure (step : List Nat → List Nat) : Nat → (known new : List Nat) → List Nat
  | 0, known, _ => known
  | fuel + 1, known, new =>
    let next := (step new).filter fun p => !known.contains p
    if next.isEmpty then known else closure step fuel (merged known next) next

mutual

/-- The places that a pattern can have come to in a text from places in it. -/
def places (rule : PatternRule) (cs : Array Char) : List Atom → List Nat → List Nat
  | [], ps => ps
  | _ :: _, [] => []
  | a :: as, p :: ps => places rule cs as (atomPlaces rule cs a (p :: ps))

def atomPlaces (rule : PatternRule) (cs : Array Char) : Atom → List Nat → List Nat
  | .many, ps =>
    match ps with
    | [] => []
    | p :: _ => List.range' p (cs.size + 1 - p)
  | .group times parts, ps =>
    match times with
    | .once => eitherPlaces rule cs parts ps
    | .optional => merged ps (eitherPlaces rule cs parts ps)
    | .any => closure (eitherPlaces rule cs parts) cs.size ps ps
    | .some => closure (eitherPlaces rule cs parts) cs.size (eitherPlaces rule cs parts ps) (eitherPlaces rule cs parts ps)
    | .never =>
      ps.foldl (fun found p =>
        let reached := eitherPlaces rule cs parts [p]
        merged found ((List.range' p (cs.size + 1 - p)).filter fun q => !reached.contains q)) []
  | a, ps => ps.filterMap fun p =>
      match cs[p]? with
      | Option.some c => if Atom.accepts rule a c then Option.some (p + 1) else none
      | none => none

def eitherPlaces (rule : PatternRule) (cs : Array Char) : List (List Atom) → List Nat → List Nat
  | [], _ => []
  | part :: parts, ps => merged (places rule cs part ps) (eitherPlaces rule cs parts ps)

end

end Pattern

/-- A pattern that has been read, and how it is understood. -/
structure Pattern where
  rule : PatternRule
  atoms : List Atom

namespace Pattern

def ofGlyphs (rule : PatternRule) (gs : List Glyph) : Pattern :=
  let gs := unitsOf rule.wide gs
  { rule, atoms := atomsUpTo rule.simple rule.extended (gs.length + 1) gs }

def units (p : Pattern) (s : String) : List Char := Octet.units p.rule.wide s

/-- How long the matches at the start of a text are, the shortest first. -/
def lengths (p : Pattern) (cs : List Char) : List Nat := places p.rule cs.toArray p.atoms [0]

/-- Whether a pattern matches a whole text. -/
def acceptsAll (p : Pattern) (cs : List Char) : Bool := (p.lengths cs).getLast? == some cs.length

def accepts (p : Pattern) (s : String) : Bool := p.acceptsAll (p.units s)

/-- The rest of a text when what matches at its start is taken away. -/
def trimStart (p : Pattern) (longest : Bool) (s : String) : String :=
  let cs := p.units s
  let found := p.lengths cs
  match if longest then found.getLast? else found.head? with
  | some n => Octet.join (cs.drop n)
  | none => s

/-- The rest of a text when what matches at its end is taken away. -/
def trimEnd (p : Pattern) (longest : Bool) (s : String) : String :=
  let cs := p.units s
  let text := cs.toArray
  let starts := List.range (cs.length + 1)
  let matchesFrom (n : Nat) : Bool := (places p.rule text p.atoms [n]).getLast? == some cs.length
  match (if longest then starts else starts.reverse).find? matchesFrom with
  | some n => Octet.join (cs.take n)
  | none => s

/-- Replaces matches: every one, or the first. `text` gives what takes the place of a match. The
first argument bounds the steps; it also counts what is left of the text. -/
def replaceFrom (p : Pattern) (every : Bool) (text : List Char → List Char) (whole : Array Char) :
    Nat → (place : Nat) → List Char → List Char
  | 0, _, cs => cs
  | _, _, [] => []
  | steps + 1, place, c :: cs =>
    match (places p.rule whole p.atoms [place]).getLast? with
    | some after =>
      let size := after - place
      let found := text ((c :: cs).take size)
      if !every then found ++ (c :: cs).drop size
      else if size = 0 then found ++ c :: replaceFrom p every text whole steps (place + 1) cs
      else found ++ replaceFrom p every text whole steps after ((c :: cs).drop size)
    | none => c :: replaceFrom p every text whole steps (place + 1) cs

def replace (p : Pattern) (every : Bool) (text : List Char → List Char) (s : String) : String :=
  let cs := p.units s
  Octet.join (replaceFrom p every text cs.toArray (cs.length + 1) 0 cs)

/-- Whether a word has characters that make it a pattern. -/
def isPattern (extended : Bool) : List Glyph → Bool
  | [] => false
  | g :: rest =>
    (!g.quoted && ("*?[".toList.contains g.char ||
      (extended && "+@!".toList.contains g.char && rest.head? == some ⟨'(', false⟩))) ||
      isPattern extended rest

end Pattern

end ScriptSearch.Host.Shell
