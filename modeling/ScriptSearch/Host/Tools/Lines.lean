import ScriptSearch.Host.Octet
import ScriptSearch.Text.Split

/-! Texts as lines, and counts of them as arguments give them. -/

namespace ScriptSearch.Host.Tools

/-- The lines of a text without the character that ends each of them. -/
def linesOf (stop : Char) (s : String) : List String :=
  if s = "" then []
  else
    let parts := Text.split stop s
    if parts.getLast? = some "" then parts.dropLast else parts

/-- The lines of a text, each with the character that ends it; the last one can be without it. -/
def fullLines (stop : Char) (s : String) : List String :=
  let parts := Text.split stop s
  let ended := parts.dropLast.map fun line => line.push stop
  match parts.getLast? with
  | some last => if last = "" then ended else ended ++ [last]
  | none => ended

/-- Lines, each ended by a character. -/
def ofLines (stop : Char) (lines : List String) : String := String.join (lines.map (·.push stop))

/-- The character that ends lines: a zero if an option says so. -/
def lineStop (zero : Bool) : Char := if zero then '\x00' else '\n'

/-- What is wrong with a count. -/
inductive CountFault
  | malformed | tooLarge
  deriving DecidableEq, Repr

/-- What letters behind a count multiply it with. -/
def unit? : List Char → Option Nat
  | [] => some 1
  | ['b'] => some 512
  | [c] => (power? c).map (Nat.pow 1024)
  | [c, 'B'] => (power? c).map (Nat.pow 1000)
  | [c, 'i', 'B'] => (power? c).map (Nat.pow 1024)
  | _ => none
where
  power? : Char → Option Nat
    | 'k' | 'K' => some 1
    | 'm' | 'M' => some 2
    | 'G' => some 3
    | 'T' => some 4
    | 'P' => some 5
    | 'E' => some 6
    | 'Z' => some 7
    | 'Y' => some 8
    | _ => none

/-- The largest count. -/
def countLimit : Nat := 18446744073709551615

/-- Digits at the start of a text, and what follows them. -/
def digitsOf (cs : List Char) : List Char × List Char :=
  (cs.takeWhile Char.isDigit, cs.dropWhile Char.isDigit)

def natOf (ds : List Char) : Nat := ds.foldl (fun n c => 10 * n + (c.toNat - 48)) 0

/-- A count, which can have a unit. -/
def count (units : Bool) (s : String) : Except CountFault Nat :=
  let (ds, rest) := digitsOf (match s.toList.dropWhile Char.isWhitespace with
    | '+' :: cs => cs
    | cs => cs)
  if ds.isEmpty then .error .malformed
  else
    match if units then unit? rest else if rest.isEmpty then some 1 else none with
    | none => .error .malformed
    | some u => if countLimit < natOf ds * u then .error .tooLarge else .ok (natOf ds * u)

end ScriptSearch.Host.Tools
