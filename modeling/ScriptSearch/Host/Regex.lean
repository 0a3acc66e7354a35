import ScriptSearch.Host.Letters
import ScriptSearch.Host.Octet

/-! Regular expressions, in their two ways of writing. An expression is matched by the places of a
text that it can have come to from others; what its groups have matched is worked out from the
whole match, where each part takes as much as the parts behind it allow. -/

namespace ScriptSearch.Host

/-- Places in a text that are no characters. -/
inductive Edge
  | lineStart | lineEnd | textStart | textEnd | wordStart | wordEnd | wordEdge | noWordEdge
  deriving DecidableEq, Repr

inductive Regex
  | char (c : Char)
  | any
  /-- A character of one of the ranges or classes, or of none of them. -/
  | set (negated : Bool) (ranges : List (Char × Char)) (classes : List String)
  | edge (e : Edge)
  | group (n : Nat) (r : Regex)
  /-- What a group has matched. -/
  | again (n : Nat)
  | sequence (rs : List Regex)
  | choice (rs : List Regex)
  /-- At least and at most so many times. -/
  | repeated (least : Nat) (most : Option Nat) (r : Regex)
  deriving Repr

/-- How expressions are written and understood. -/
structure RegexRule where
  /-- Whether operators stand without a backslash. -/
  extended : Bool := false
  wide : Bool := false
  foldCase : Bool := false
  /-- Whether an operator that nothing stands in front of is a fault, or else counts for nothing. -/
  strict : Bool := false
  /-- Whether a parenthesis that closes nothing, or a number in braces that is none, is text. -/
  lenient : Bool := false
  /-- Whether each line has its own start and end, and what takes any character takes no line end. -/
  lines : Bool := false
  deriving Repr

namespace Regex

/-- What is wrong with an expression. -/
inductive Fault
  | pattern | bracket | opened | closed | operand | backslash | reference | range | className | braceContent | brace
  /-- A number in braces that is less than the one before it, or too large. -/
  | braceOrder | tooLarge
  deriving DecidableEq, Repr

def Fault.message : Fault → String
  | pattern => "Invalid regular expression"
  | bracket => "Unmatched [, [^, [:, [., or [="
  | opened => "Unmatched ( or \\("
  | closed => "Unmatched ) or \\)"
  | operand => "Invalid preceding regular expression"
  | backslash => "Trailing backslash"
  | reference => "Invalid back reference"
  | range => "Invalid range end"
  | className => "Invalid character class name"
  | braceContent | braceOrder => "Invalid content of \\\x7b\\\x7d"
  | tooLarge => "Regular expression too big"
  | brace => "Unmatched \\\x7b"

/-! ### Reading -/

def classNames : List String :=
  ["alpha", "digit", "alnum", "upper", "lower", "space", "blank", "punct", "print", "graph", "cntrl",
    "xdigit"]

/-- A member of a set between brackets. -/
def member : List Char → Except Fault (Char × List Char)
  | '[' :: mark :: c :: last :: ']' :: rest =>
    if (mark = '.' ∨ mark = '=') ∧ last = mark then .ok (c, rest)
    else .ok ('[', mark :: c :: last :: ']' :: rest)
  | c :: rest => .ok (c, rest)
  | [] => .error .bracket

/-- The members of a set up to the bracket that closes it, and the rest. A bracket that comes
first is a member. -/
def members : (first : Bool) → Nat → List Char →
    Except Fault (List (Char × Char) × List String × List Char)
  | _, 0, _ | _, _, [] => .error .bracket
  | first, steps + 1, c :: rest =>
    if c = ']' ∧ !first then .ok ([], [], rest)
    else match c, rest with
      | '[', ':' :: more => do
        let name := String.ofList (more.takeWhile (· ≠ ':'))
        match more.drop name.length with
        | ':' :: ']' :: more =>
          if !classNames.contains name then throw .className
          let (rs, cs, more) ← members false steps more
          return (rs, name :: cs, more)
        | _ => throw .bracket
      | c, rest => do
        let (low, more) ← member (c :: rest)
        let (high, more) ← match more with
          | '-' :: next :: behind => if next = ']' then pure (low, more) else member (next :: behind)
          | _ => pure (low, more)
        if high < low then throw .range
        let (rs, cs, more) ← members false steps more
        return ((low, high) :: rs, cs, more)

/-- What a backslash and a letter stand for. -/
def escape? (c : Char) : Option Regex :=
  let word (negated : Bool) : Regex := .set negated [('_', '_')] ["alnum"]
  match c with
  | 'w' => some (word false)
  | 'W' => some (word true)
  | 's' => some (.set false [] ["space"])
  | 'S' => some (.set true [] ["space"])
  | '<' => some (.edge .wordStart)
  | '>' => some (.edge .wordEnd)
  | 'b' => some (.edge .wordEdge)
  | 'B' => some (.edge .noWordEdge)
  | '\x60' => some (.edge .textStart)
  | '\'' => some (.edge .textEnd)
  | _ => none

/-- A token of an expression. -/
inductive Lexeme
  | part (r : Regex)
  | times (least : Nat) (most : Option Nat)
  | opening | closing | bar
  /-- A mark for a line's start or end, which may stand for itself. -/
  | start | finish

/-- The numbers between braces, and what stands behind the closing one. -/
def bounds (closing : List Char) (cs : List Char) : Except Fault ((Nat × Option Nat) × List Char) :=
  let number (cs : List Char) : Option Nat × List Char :=
    let ds := cs.takeWhile Char.isDigit
    (if ds.isEmpty then none else (String.ofList ds).toNat?, cs.drop ds.length)
  let (least, rest) := number cs
  let (found, rest) : Option (Nat × Option Nat) × List Char := match rest with
    | ',' :: rest =>
      let (most, rest) := number rest
      (some (least.getD 0, most), rest)
    | rest => (least.map fun n => (n, some n), rest)
  match closing.isPrefixOf? rest, found with
  | some rest, some (least, most) =>
    if most.any (· < least) then .error .braceOrder
    else if 32767 < max least (most.getD 0) then .error .tooLarge
    else .ok ((least, most), rest)
  | _, _ => if rest.isEmpty then .error .brace else .error .braceContent

/-- The next token. -/
def lexeme (rule : RegexRule) : List Char → Except Fault (Lexeme × List Char)
  | [] => .error .backslash
  | c :: rest =>
    let text : Except Fault (Lexeme × List Char) := .ok (.part (.char c), rest)
    let braces (closing rest : List Char) : Except Fault (Lexeme × List Char) :=
      match bounds closing rest with
      | .ok ((least, most), rest) => .ok (.times least most, rest)
      | .error f =>
        if rule.lenient ∧ rule.extended ∧ f ≠ .braceOrder ∧ f ≠ .tooLarge then text else .error f
    match c, rest with
    | '\\', [] => .error .backslash
    | '\\', d :: rest =>
      match escape? d with
      | some r => .ok (.part r, rest)
      | none =>
        if '1' ≤ d ∧ d ≤ '9' then .ok (.part (.again (d.toNat - 48)), rest)
        else if rule.extended then .ok (.part (.char d), rest)
        else match d with
          | '(' => .ok (.opening, rest)
          | ')' => .ok (.closing, rest)
          | '|' => .ok (.bar, rest)
          | '+' => .ok (.times 1 none, rest)
          | '?' => .ok (.times 0 (some 1), rest)
          | '\x7b' => braces ['\\', '\x7d'] rest
          | d => .ok (.part (.char d), rest)
    | '.', rest => .ok (.part .any, rest)
    | '*', rest => .ok (.times 0 none, rest)
    | '^', rest => .ok (.start, rest)
    | '$', rest => .ok (.finish, rest)
    | '[', rest => do
      let (negated, body) := match rest with
        | '^' :: body => (true, body)
        | body => (false, body)
      if body.isEmpty then throw .pattern
      let (ranges, classes, rest) ← members true (rest.length + 1) body
      let ranges := if negated ∧ rule.lines then ('\n', '\n') :: ranges else ranges
      return (.part (.set negated ranges classes), rest)
    | c, rest =>
      if !rule.extended then text
      else match c with
        | '(' => .ok (.opening, rest)
        | ')' => .ok (.closing, rest)
        | '|' => .ok (.bar, rest)
        | '+' => .ok (.times 1 none, rest)
        | '?' => .ok (.times 0 (some 1), rest)
        | '\x7b' => braces ['\x7d'] rest
        | _ => text

/-- What has been read of an expression: alternatives, the latest first, parts of the last one, the
latest first, and how many groups there are. -/
structure Reading where
  alternatives : List Regex := []
  parts : List Regex := []
  groups : Nat := 0

def Reading.whole (r : Reading) : Regex :=
  match r.alternatives with
  | [] => .sequence r.parts.reverse
  | as => .choice (.sequence r.parts.reverse :: as).reverse

def Reading.add (r : Reading) (part : Regex) : Reading := { r with parts := part :: r.parts }

/-- Whether an alternative ends here. -/
def endsHere (rule : RegexRule) : List Char → Bool
  | [] => true
  | '\\' :: ')' :: _ | '\\' :: '|' :: _ => !rule.extended
  | _ => false

/-- Reads up to the end, or to the parenthesis that closes a group. The first argument bounds the
steps. -/
def readUpTo (rule : RegexRule) (inGroup : Bool) : Nat → Reading → List Char →
    Except Fault (Reading × List Char)
  | 0, r, rest => .ok (r, rest)
  | _, r, [] => if inGroup then .error .opened else .ok (r, [])
  | steps + 1, r, c :: cs => do
    let (token, rest) ← lexeme rule (c :: cs)
    let go (r : Reading) := readUpTo rule inGroup steps r rest
    match token with
    | .part (.again n) => if r.groups < n then .error .reference else go (r.add (.again n))
    | .part part => go (r.add part)
    | .start =>
      if rule.extended ∨ r.parts.isEmpty then go (r.add (.edge .lineStart)) else go (r.add (.char '^'))
    | .finish =>
      if rule.extended ∨ endsHere rule rest then go (r.add (.edge .lineEnd)) else go (r.add (.char '$'))
    | .bar => go { r with alternatives := .sequence r.parts.reverse :: r.alternatives, parts := [] }
    | .opening =>
      let n := r.groups + 1
      let (inner, rest) ← readUpTo rule true steps { groups := n } rest
      readUpTo rule inGroup steps { r with parts := .group n inner.whole :: r.parts, groups := inner.groups } rest
    | .closing =>
      if inGroup then .ok (r, rest)
      else if rule.lenient ∧ rule.extended then go (r.add (.char ')'))
      else .error .closed
    | .times least most =>
      match r.parts with
      | .edge .lineStart :: _ =>
        if rule.extended then (if rule.strict then .error .operand else go r)
        else go (r.add (.char c))
      | part :: parts => go { r with parts := .repeated least most part :: parts }
      | [] =>
        if !rule.extended then
          let plain := if c = '\\' then cs.headD c else c
          if plain = '\x7b' then .error .operand else go (r.add (.char plain))
        else if rule.strict then .error .operand else go r

/-- Reads an expression; gives it with the number of its groups. -/
def read (rule : RegexRule) (text : String) : Except Fault (Regex × Nat) := do
  let cs := Octet.units rule.wide text
  let (r, _) ← readUpTo rule false (2 * cs.length + 2) {} cs
  return (r.whole, r.groups)

/-! ### Matching -/

/-- Whether a character is a part of words. -/
def isWordChar (rule : RegexRule) (c : Char) : Bool := Letters.isOfClass rule.wide c "word"

def isAtEdge (rule : RegexRule) (text : Array Char) (e : Edge) (p : Nat) : Bool :=
  let before := if p = 0 then none else text[p - 1]?
  let behind := text[p]?
  let wordBefore := before.any (isWordChar rule)
  let wordBehind := behind.any (isWordChar rule)
  match e with
  | .textStart => p = 0
  | .textEnd => p = text.size
  | .lineStart => p = 0 || (rule.lines && before == some '\n')
  | .lineEnd => p = text.size || (rule.lines && behind == some '\n')
  | .wordStart => !wordBefore && wordBehind
  | .wordEnd => wordBefore && !wordBehind
  | .wordEdge => wordBefore != wordBehind
  | .noWordEdge => wordBefore == wordBehind

/-- Whether an expression for one character takes a character. -/
def takes (rule : RegexRule) (c : Char) : Regex → Bool
  | .any => (!Octet.isSingle c || !rule.wide) && !(rule.lines && c == '\n')
  | .char d => c == d || (rule.foldCase && Letters.lower rule.wide c == Letters.lower rule.wide d)
  | .set negated ranges classes =>
    let forms := if rule.foldCase then [c, Letters.lower rule.wide c, Letters.upper rule.wide c] else [c]
    negated != forms.any fun c =>
      ranges.any (fun r => r.1 ≤ c && c ≤ r.2) || classes.any (Letters.isOfClass rule.wide c)
  | _ => false

/-- Places with others, in order and each once. -/
def merged : List Nat → List Nat → List Nat
  | [], b => b
  | a, [] => a
  | x :: a, y :: b =>
    if x < y then x :: merged a (y :: b)
    else if x = y then x :: merged a b
    else y :: merged (x :: a) b

/-- Places that are reached by going on from new ones as long as others come up. -/
def closure (step : List Nat → List Nat) : Nat → (known new : List Nat) → List Nat
  | 0, known, _ => known
  | fuel + 1, known, new =>
    let next := (step new).filter fun p => !known.contains p
    if next.isEmpty then known else closure step fuel (merged known next) next

/-- Goes on so many times, and gives all places on the way from a number of times on. -/
def counted (step : List Nat → List Nat) : (least most : Nat) → List Nat → List Nat
  | 0, 0, ps => ps
  | 0, more + 1, ps => if ps.isEmpty then [] else merged ps (counted step 0 more (step ps))
  | less + 1, most, ps => counted step less (most - 1) (step ps)

mutual

/-- The places that an expression without references can have come to from places. -/
def places (rule : RegexRule) (text : Array Char) : Regex → List Nat → List Nat
  | .edge e, ps => ps.filter (isAtEdge rule text e)
  | .group _ r, ps => places rule text r ps
  | .sequence rs, ps => sequencePlaces rule text rs ps
  | .choice rs, ps => choicePlaces rule text rs ps
  | .repeated least most r, ps =>
    let step := places rule text r
    match most with
    | some most => counted step least most ps
    | none =>
      let start := counted step least least ps
      closure step (text.size + 1) start start
  | r, ps => ps.filterMap fun p =>
      match text[p]? with
      | some c => if takes rule c r then some (p + 1) else none
      | none => none

def sequencePlaces (rule : RegexRule) (text : Array Char) : List Regex → List Nat → List Nat
  | [], ps => ps
  | r :: rs, ps =>
    if ps.isEmpty then [] else sequencePlaces rule text rs (places rule text r ps)

def choicePlaces (rule : RegexRule) (text : Array Char) : List Regex → List Nat → List Nat
  | [], _ => []
  | r :: rs, ps => merged (places rule text r ps) (choicePlaces rule text rs ps)

end

/-- What groups have matched, by number: from one place to another. -/
abbrev Spans := List (Nat × Nat × Nat)

/-- The times that a repeated expression matches between two places, each as far as it can while
the rest is matched too. The first argument bounds the steps. -/
def passes (step : List Nat → List Nat) (least : Nat) (most : Option Nat) (finish : Nat) :
    Nat → (done start : Nat) → List (Nat × Nat)
  | 0, _, _ => []
  | fuel + 1, done, start =>
    if start = finish ∧ least ≤ done then []
    else
      let reaches (n p : Nat) : Bool :=
        let least := least - n
        (match most with
          | some most => counted step least (most - n) [p]
          | none =>
            let begun := counted step least least [p]
            closure step (finish + 1) begun begun).contains finish
      match (step [start]).reverse.find? fun p => p ≤ finish && reaches (done + 1) p with
      | some p => (start, p) :: passes step least most finish fuel (done + 1) p
      | none => []

mutual

/-- What groups match where an expression without references matches between two places. -/
def spans (rule : RegexRule) (text : Array Char) : Regex → (start finish : Nat) → Spans
  | .group n r, start, finish => (n, start, finish) :: spans rule text r start finish
  | .sequence rs, start, finish => sequenceSpans rule text rs start finish
  | .choice rs, start, finish => choiceSpans rule text rs start finish
  | .repeated least most r, start, finish =>
    match (passes (places rule text r) least most finish (text.size + least + 1) 0 start).getLast? with
    | some (a, b) => spans rule text r a b
    | none => []
  | _, _, _ => []

def sequenceSpans (rule : RegexRule) (text : Array Char) : List Regex → (start finish : Nat) → Spans
  | [], _, _ => []
  | r :: rs, start, finish =>
    match (places rule text r [start]).reverse.find? fun p =>
        p ≤ finish && (sequencePlaces rule text rs [p]).contains finish with
    | some p => spans rule text r start p ++ sequenceSpans rule text rs p finish
    | none => []

def choiceSpans (rule : RegexRule) (text : Array Char) : List Regex → (start finish : Nat) → Spans
  | [], _, _ => []
  | r :: rs, start, finish =>
    if (places rule text r [start]).contains finish then spans rule text r start finish
    else choiceSpans rule text rs start finish

end

/-- Whether a place behind what a group has matched repeats it. -/
def repeats (rule : RegexRule) (text : Array Char) (start finish p : Nat) : Bool :=
  (List.range (finish - start)).all fun i =>
    match text[start + i]?, text[p + i]? with
    | some a, some b => takes rule b (.char a)
    | _, _ => false

/-- Goes on from the ways that there are, in every further way first. -/
def furtherWays (step : Nat × Spans → List (Nat × Spans)) (least : Nat) (most : Option Nat) :
    Nat → (done : Nat) → Nat × Spans → List (Nat × Spans)
  | 0, _, way => [way]
  | fuel + 1, done, way =>
    let more := if most.any (· ≤ done) then []
      else ((step way).filter fun next => way.1 < next.1 || done < least).flatMap
        (furtherWays step least most fuel (done + 1))
    more ++ if least ≤ done then [way] else []

mutual

/-- The ways in which an expression can match from a place: where they end, and what groups have
matched. -/
def ways (rule : RegexRule) (text : Array Char) : Regex → Nat × Spans → List (Nat × Spans)
  | .group n r, (p, known) =>
    (ways rule text r (p, known)).map fun (q, known) => (q, (n, p, q) :: known)
  | .again n, (p, known) =>
    match known.lookup n with
    | some (start, finish) =>
      if repeats rule text start finish p then [(p + (finish - start), known)] else []
    | none => []
  | .sequence rs, way => sequenceWays rule text rs [way]
  | .choice rs, way => choiceWays rule text rs way
  | .repeated least most r, way =>
    furtherWays (ways rule text r) least most (text.size + least + 1) 0 way
  | r, (p, known) => (places rule text r [p]).map (·, known)

def sequenceWays (rule : RegexRule) (text : Array Char) :
    List Regex → List (Nat × Spans) → List (Nat × Spans)
  | [], found => found
  | r :: rs, found => sequenceWays rule text rs (found.flatMap (ways rule text r))

def choiceWays (rule : RegexRule) (text : Array Char) : List Regex → Nat × Spans → List (Nat × Spans)
  | [], _ => []
  | r :: rs, way => ways rule text r way ++ choiceWays rule text rs way

end

mutual

/-- Whether what groups have matched has to be matched again. -/
def hasReference : Regex → Bool
  | .again _ => true
  | .group _ r | .repeated _ _ r => hasReference r
  | .sequence rs | .choice rs => anyHasReference rs
  | _ => false

def anyHasReference : List Regex → Bool
  | [] => false
  | r :: rs => hasReference r || anyHasReference rs

end

/-- A match: where it begins and ends, and what groups have matched. -/
structure Match where
  start : Nat
  finish : Nat
  groups : Spans := []
  deriving Repr

/-- The longest match that begins at a place. -/
def matchAt? (rule : RegexRule) (text : Array Char) (r : Regex) (start : Nat) : Option Match :=
  if hasReference r then
    (ways rule text r (start, [])).foldl
      (fun best (finish, groups) =>
        if best.any fun b => finish ≤ b.finish then best else some { start, finish, groups }) none
  else
    (places rule text r [start]).getLast?.map fun finish => { start, finish }

/-- A match with what its groups have matched. -/
def withGroups (rule : RegexRule) (text : Array Char) (r : Regex) (m : Match) : Match :=
  if hasReference r then m else { m with groups := spans rule text r m.start m.finish }

/-- The first match that begins at a place or behind it. The first argument bounds the steps. -/
def findUpTo (rule : RegexRule) (text : Array Char) (r : Regex) : Nat → Nat → Option Match
  | 0, _ => none
  | steps + 1, start =>
    match matchAt? rule text r start with
    | some m => some m
    | none => findUpTo rule text r steps (start + 1)

def find? (rule : RegexRule) (text : Array Char) (r : Regex) (start : Nat) : Option Match :=
  findUpTo rule text r (text.size + 1 - start) start

/-- What a group of a match has matched. -/
def Match.group (m : Match) (text : Array Char) (n : Nat) : Option (List Char) :=
  let part (start finish : Nat) : List Char := (text.extract start finish).toList
  if n = 0 then some (part m.start m.finish)
  else (m.groups.lookup n).map fun (start, finish) => part start finish

end Regex

end ScriptSearch.Host
