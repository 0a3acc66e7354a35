import ScriptSearch.Host.Real
import ScriptSearch.Host.Signal
import ScriptSearch.Host.Tools.Lines
import ScriptSearch.Host.Tools.Work

/-! Rows of numbers from one to another. -/

namespace ScriptSearch.Host.Tools

open Work

/-- A number of a row, with how it was written: its width, and the digits behind the point. -/
structure Bound where
  number : Real.Number
  width : Int := 0
  places : Option Int := none

namespace Bound

/-- The number as a quotient, if it has an end. -/
def quotient? (b : Bound) : Option (Int × Nat) :=
  match b.number.magnitude with
  | .finite num den => some (if b.number.negative then -(num : Int) else num, den)
  | _ => none

/-- How a numeral with digits and a power of ten is written out. -/
def measured (number : Real.Number) (cs : List Char) : Bound :=
  let point := cs.dropWhile (· ≠ '.')
  let isMark (c : Char) : Bool := c == 'e' || c == 'E'
  let fraction := ((point.drop 1).takeWhile fun c => !isMark c).length
  let before := (cs.takeWhile (· ≠ '.')).getLast?
  let width : Int := cs.length
  let width :=
    if point.isEmpty then width
    else if fraction = 0 then width - 1
    else if before.any Char.isDigit then width
    else width + 1
  let places : Int := fraction
  match cs.dropWhile fun c => !isMark c with
  | [] => { number, width, places := some places }
  | mark =>
    let power := ((Numeral.readIn (some 10) (mark.drop 1)).map (·.value)).getD 0
    let width := width - mark.length
    if power < 0 then
      let width := if point.isEmpty ∨ fraction = 0 then width + 1 else width
      { number, width := width - power, places := some (places - power) }
    else
      let left := places - min places power
      let width := if !point.isEmpty ∧ left = 0 ∧ fraction ≠ 0 then width - 1 else width
      { number, width := width + (power - min places power), places := some left }

/-- Reads a number that fills a text. -/
def ofString? (s : String) : Option Bound :=
  match Real.read Real.extended s.toList with
  | some r =>
    let zero : Bool := match r.number.magnitude with
      | .finite 0 _ => true
      | _ => false
    if !r.rest.isEmpty ∨ (!r.inRange ∧ !zero) then none
    else
      let cs := s.toList.dropWhile fun c => Numeral.isSpace c || c = '+'
      let plain := !cs.contains '.' && !cs.contains 'p'
      match r.number.magnitude with
      | .finite _ _ =>
        if cs.any fun c => c = 'x' || c = 'X' then
          some { number := r.number, places := if plain then some 0 else none }
        else some (measured r.number cs)
      | _ => some { number := r.number, places := if plain then some 0 else none }
  | none => none

def one : Bound := { number := ⟨false, .finite 1 1⟩, width := 1, places := some 0 }

end Bound

/-- How numbers are written: what is in front, the layout and the letter, what is behind. -/
structure NumberFormat where
  before : String := ""
  layout : Numeral.Layout := {}
  letter : Char := 'f'
  behind : String := ""

namespace NumberFormat

/-- What is wrong with a format. -/
inductive Fault
  | noDirective
  | unended
  | unknown (c : Char)
  | tooMany

/-- Text up to a single percent sign; two stand for one. -/
def textOf : Nat → List Char → List Char × List Char
  | 0, cs => ([], cs)
  | steps + 1, '%' :: '%' :: rest => let (t, rest) := textOf steps rest; ('%' :: t, rest)
  | steps + 1, c :: rest =>
    if c = '%' then ([], c :: rest)
    else let (t, rest) := textOf steps rest; (c :: t, rest)
  | _, [] => ([], [])

def ofString (s : String) : Except Fault NumberFormat :=
  let cs := s.toList
  let (before, rest) := textOf (cs.length + 1) cs
  match rest with
  | [] => .error .noDirective
  | _ :: rest =>
    let flags := rest.takeWhile "-+#0 '".toList.contains
    let rest := rest.drop flags.length
    let (width, rest) := digitsOf rest
    let (precision, rest) := match rest with
      | '.' :: rest => let (ds, rest) := digitsOf rest; (some (natOf ds), rest)
      | rest => (none, rest)
    let rest := match rest with
      | 'L' :: rest => rest
      | rest => rest
    match rest with
    | [] => .error .unended
    | c :: rest =>
      if !"efgaEFGA".toList.contains c then .error (.unknown c)
      else
        let (behind, rest) := textOf (rest.length + 1) rest
        if !rest.isEmpty then .error .tooMany
        else .ok
          { before := String.ofList before, letter := c, behind := String.ofList behind
            layout := {
              left := flags.contains '-', plus := flags.contains '+', space := flags.contains ' '
              alternate := flags.contains '#', zero := flags.contains '0'
              width := natOf width, precision } }

def number (f : NumberFormat) (x : Real.Number) : String :=
  Real.format f.layout f.letter Real.extended.digits x

def write (f : NumberFormat) (x : Real.Number) : String := f.before ++ f.number x ++ f.behind

/-- The format that suits the numbers as they were given. -/
def suited (equalWidth : Bool) (first step last : Bound) : NumberFormat :=
  match first.places, step.places, last.places with
  | some p, some q, some r =>
    let places := max p q
    if equalWidth then
      let firstWidth := first.width + (places - p) + if p = 0 ∧ places ≠ 0 then 1 else 0
      let lastWidth := last.width + (places - r) +
        if r ≠ 0 ∧ places = 0 then -1 else if r = 0 ∧ places ≠ 0 then 1 else 0
      { layout := { zero := true, width := (max firstWidth lastWidth).toNat, precision := some places.toNat } }
    else { layout := { precision := some places.toNat } }
  | _, _, _ => { letter := 'g' }

end NumberFormat

/-- The nearest binary number to a quotient. -/
def rounded (num : Int) (den : Nat) : Real.Number :=
  ⟨num < 0, (Real.binary Real.extended num.natAbs den).1⟩

/-- A number of a row by its place. -/
def rowNumber (first step : Int × Nat) (i : Nat) : Real.Number :=
  let way : Bound := { number := rounded (step.1 * i) step.2 }
  match way.quotient? with
  | some (n, d) => rounded (first.1 * d + n * first.2) (first.2 * d)
  | none => way.number

/-- Whether one quotient is below another. -/
def isBelow (a b : Int × Nat) : Bool := a.1 * b.2 < b.1 * a.2

/-- How many numbers a row has, as far as whole steps go. -/
def rowLength (first step last : Int × Nat) : Nat :=
  let gap := (last.1 * first.2 - first.1 * last.2) * step.2
  let size := step.1 * (first.2 * last.2)
  (Int.tdiv gap size).toNat + 2

/-- The numbers of a row, written. The first argument bounds the numbers. -/
def rowTexts (f : NumberFormat) (first step last : Int × Nat) : Nat → Nat → List String
  | 0, _ => []
  | count + 1, i =>
    let x := rowNumber first step i
    let past (q : Int × Nat) : Bool := if step.1 < 0 then isBelow q last else isBelow last q
    match ({ number := x } : Bound).quotient? with
    | none => []
    | some q =>
      if !past q then f.write x :: rowTexts f first step last count (i + 1)
      else
        -- a number just past the end counts if it is written as the end is
        let same : Bool := match (Bound.ofString? (f.number x)).bind Bound.quotient? with
          | some shown => !isBelow shown last && !isBelow last shown
          | none => false
        if 0 < i ∧ same ∧ f.write x ≠ f.write (rowNumber first step (i - 1)) then [f.write x] else []

/-- The number of a numeral that has digits only. -/
def digitsOnly? (s : String) : Option Nat := if s ≠ "" ∧ s.all Char.isDigit then some (natOf s.toList) else none

/-- Prints a row of numbers. -/
def sequence : Work Unit := do
  let negative (s : String) : Bool := match s.toList with
    | '-' :: c :: _ => c == '.' || c.isDigit
    | _ => false
  let g ← options
    { rules := [valued "f" "format", valued "s" "separator", flag "w" "equal-width"], inOrder := true
      isOperand := negative }
  if g.operands.isEmpty then refuse "missing operand"
  refuseExtra g 3
  let format ← match g.last? "f" with
    | none => pure none
    | some text =>
      match NumberFormat.ofString text with
      | .ok f => pure (some f)
      | .error .noDirective => fail ("format " ++ (← quoted text) ++ " has no % directive")
      | .error .unended => fail ("format " ++ (← quoted text) ++ " ends in %")
      | .error (.unknown c) =>
        fail ("format " ++ (← quoted text) ++ " has unknown %" ++ String.singleton c ++ " directive")
      | .error .tooMany => fail ("format " ++ (← quoted text) ++ " has too many % directives")
  if format.isSome ∧ g.has "w" then
    refuse "format string may not be specified when printing equal width strings"
  let separator := (g.last? "s").getD "\n"
  let bound (s : String) : Work Bound := do
    match Bound.ofString? s with
    | none => refuse ("invalid floating point argument: " ++ (← quoted s))
    | some b =>
      if b.number.magnitude matches .undefined then
        refuse ("invalid " ++ (← quoted "not-a-number") ++ " argument: " ++ (← quoted s))
      return b
  let whole (texts : List String) : Work Unit := say (String.intercalate separator texts ++ "\n")
  let plain := g.operands.filterMap digitsOnly?
  let plainStep : Bool := match plain with
    | [_, step, _] => 0 < step && step ≤ 200
    | _ => true
  if plain.length = g.operands.length ∧ plainStep ∧ !g.has "w" ∧ format.isNone ∧ separator.length = 1 then
    let (first, step, last) := match plain with
      | [first, step, last] => (first, step, last)
      | [first, last] => (first, 1, last)
      | plain => (1, 1, plain.headD 0)
    if last < first then return
    whole ((List.range ((last - first) / step + 1)).map fun i => toString (first + i * step))
  else
    let (first, step, last) ← match g.operands with
      | [a, b, c] => do
        let a' ← bound a
        let b' ← bound b
        if let some (0, _) := b'.quotient? then
          refuse ("invalid Zero increment value: " ++ (← quoted b))
        pure (a', b', ← bound c)
      | [a, b] => do
        let a' ← bound a
        pure (a', .one, ← bound b)
      | given => do pure (.one, .one, ← bound (given.headD ""))
    let f := format.getD (.suited (g.has "w") first step last)
    match first.quotient?, step.quotient?, last.quotient? with
    | some a, some s, some z =>
      match rowTexts f a s z (rowLength a s z) 0 with
      | [] => return
      | texts => whole texts
    | some a, some s, none =>
      if last.number.negative = decide (s.1 < 0) then
        -- a row without end goes on until nobody takes it any more
        let size ← endlessSize
        say (String.join ((List.range size).map fun i => f.write (rowNumber a s i) ++ separator))
        breakOff
    | _, _, _ => return

end ScriptSearch.Host.Tools
