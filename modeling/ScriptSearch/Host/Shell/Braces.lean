import ScriptSearch.Host.Numeral
import ScriptSearch.Host.Shell.Word

/-! Words made from alternatives and ranges between braces, as the large shell writes them
out before it expands anything else. -/

namespace ScriptSearch.Host.Shell.Braces

/-- A character that can be a part of braces, or a piece that cannot. -/
inductive Item
  | char (c : Char)
  | piece (p : Piece)

def items (ps : List Piece) : List Item :=
  ps.flatMap fun
    | .text false s => s.toList.map .char
    | p => [.piece p]

def pieces (is : List Item) : List Piece :=
  Word.joined (is.map fun
    | .char c => .text false (String.ofList [c])
    | .piece p => p)

/-- The parts between commas up to the brace that closes, and the rest behind it. -/
def parts : (depth : Nat) → List Item → Option (List (List Item) × List Item)
  | _, [] => none
  | depth, i :: rest =>
    let go (depth : Nat) := (parts depth rest).map fun (ps, after) => (ps.modifyHead (i :: ·), after)
    match i, depth with
    | .char '\x7d', 0 => some ([[]], rest)
    | .char '\x7d', depth + 1 => go depth
    | .char '\x7b', depth => go (depth + 1)
    | .char ',', 0 => (parts 0 rest).map fun (ps, after) => ([] :: ps, after)
    | _, depth => go depth

/-- The texts of a range, with a step between neighbours. -/
def steps (first last step : Int) : List Int :=
  let size := step.natAbs
  let size := if size = 0 then 1 else size
  let count := (last - first).natAbs / size + 1
  (List.range count).map fun (i : Nat) =>
    if first ≤ last then first + i * size else first - i * size

/-- A number with zeros in front up to a width. -/
def padded (width : Nat) (n : Int) : String :=
  let digits := toString n.natAbs
  let sign := if n < 0 then "-" else ""
  sign ++ "".pushn '0' (width - sign.length - digits.length) ++ digits

def hasZero (s : String) : Bool :=
  match s.toList with
  | '-' :: '0' :: _ :: _ | '0' :: _ :: _ => true
  | _ => false

/-- A text of a range as items; a backslash protects nothing, and is gone. -/
def rangeItems (text : String) : List Item :=
  if text = "\\" then [.piece (.text true "")] else text.toList.map .char

/-- A range of numbers or of characters. -/
def range? (text : String) : Option (List String) :=
  let whole? (s : String) : Option Int := if s.toList.any Numeral.isSpace then none else Numeral.decimal? s
  let read (first last step : String) : Option (List String) :=
    (whole? step).bind fun step =>
      match whole? first, whole? last, first.toList, last.toList with
      | some a, some b, _, _ =>
        let width := if hasZero first || hasZero last then max first.length last.length else 0
        some ((steps a b step).map (padded width))
      | none, none, [a], [b] =>
        if a.isAlpha && b.isAlpha then
          some ((steps a.toNat b.toNat step).map fun n => String.ofList [Char.ofNat n.toNat])
        else none
      | _, _, _, _ => none
  match text.splitOn ".." with
  | [first, last] => read first last "1"
  | [first, last, step] => read first last step
  | _ => none

/-- The text of items that are all characters. -/
def text? (is : List Item) : Option String :=
  String.ofList <$> is.mapM fun
    | .char c => some c
    | .piece _ => none

/-- The words that items stand for. The first argument bounds the steps. -/
def alternatives : Nat → List Item → List (List Item)
  | 0, is => [is]
  | _, [] => [[]]
  | fuel + 1, .char '\x7b' :: rest =>
    let bare := (alternatives fuel rest).map (.char '\x7b' :: ·)
    match parts 0 rest with
    | none => bare
    | some (ps, after) =>
      let choices : Option (List (List Item)) :=
        match ps with
        | [part] => (text? part).bind fun text => (range? text).map fun ts => ts.map rangeItems
        | ps => some (ps.flatMap (alternatives fuel))
      match choices with
      | some choices =>
        let endings := alternatives fuel after
        choices.flatMap fun c => endings.map (c ++ ·)
      | none => bare
  | fuel + 1, i :: rest => (alternatives fuel rest).map (i :: ·)

/-- The words that a word stands for. -/
def expand (w : Word) : List Word :=
  let is := items w.pieces
  if is.any (fun | .char '\x7b' => true | _ => false) then
    (alternatives (2 * is.length) is).map fun is => { pieces := pieces is, source := w.source }
  else [w]

end ScriptSearch.Host.Shell.Braces
