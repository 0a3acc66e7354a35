import ScriptSearch.Host.Regex
import ScriptSearch.Host.Shell.Expansion
import ScriptSearch.Host.Shell.Tracing
import ScriptSearch.Host.Test

/-! Tests between double brackets, and what tests of the shell look at. -/

namespace ScriptSearch.Host.Shell

/-- Whether the variable that a test names, or the element, is set. -/
def State.isSet (s : State) (text : String) : Bool := Id.run do
  if let some n := if text.toList.all Char.isDigit then text.toNat? else none then
    return n ≤ s.args.length
  let (name, key) := State.splitKey text
  let (name, inner) := s.target name
  return match s.bound? name with
  | none => false
  | some v =>
    match inner <|> key with
    | none => v.text?.isSome
    | some key =>
      if !v.content.isTable ∧ (key = "@" ∨ key = "*") then !v.content.elements.isEmpty
      else if v.content.isTable then (v.content.element? key).isSome
      else match (Arithmetic.evaluate s.setting.dialect (Act.arithmeticValues s) key).1 with
        | .ok n => (v.content.element? (toString n)).isSome
        | .error _ => false

namespace Act

/-- What tests look at. -/
def testView : Act Test.View := do
  let s ← get
  return {
    tree := s.machine.tree
    here := s.here
    isOn := fun name => (Switch.ofName? s.setting.dialect name).any s.switches.contains
    isSet := s.isSet
    isReference := fun name => (s.bindings.lookup name).any (·.reference) }

/-- Characters that are operators of regular expressions. -/
def regexSpecial : List Char := "\\^$.[]|()?*+\x7b\x7d".toList

/-- An expanded word as a regular expression: what is quoted stands for itself. -/
def regexOf (gs : List Glyph) : String :=
  String.ofList (gs.flatMap fun g =>
    if g.quoted && regexSpecial.contains g.char then ['\\', g.char] else [g.char])

/-- A pattern with its quoted characters protected. -/
def protectedText (gs : List Glyph) : String :=
  String.ofList (gs.flatMap fun g => if g.quoted then ['\\', g.char] else [g.char])

/-- Looks for a regular expression in a text, and keeps what its groups match. The status is zero
if it is found, and two if it is none. -/
def search? (text : String) (gs : List Glyph) : Act Nat := do
  let wide ← isWide
  let rule : RegexRule := { extended := true, wide, strict := true, foldCase := ← isFurtherOn "nocasematch" }
  match Regex.read rule (regexOf gs) with
  | .error _ => return 2
  | .ok (r, groups) =>
    let cs := (Octet.units wide text).toArray
    let found := (Regex.find? rule cs r 0).map (Regex.withGroups rule cs r)
    let texts := match found with
      | some m => (List.range (groups + 1)).map fun n => Octet.join ((m.group cs n).getD [])
      | none => []
    putBinding "BASH_REMATCH" { content := State.listOf texts }
    return if found.isSome then 0 else 1

/-- The status of a test of two operands. -/
def compare (x : Scripts) (trace : String → Act Unit) (op : String) (left right : Word) : Act Nat := do
  let a ← textOfWord x left.pieces
  let shownText (s : String) : String := if s = "" then "''" else s
  let ofBool (b : Bool) : Nat := if b then 0 else 1
  match op with
  | "=" | "==" | "!=" =>
    let pattern ← patternOfWord x right.pieces
    trace (shownText a ++ " " ++ op ++ " " ++ shownText (protectedText pattern))
    let p := Pattern.ofGlyphs { ← patternRule true with extended := true } pattern
    return ofBool (p.accepts a == (op != "!="))
  | "=~" =>
    let pattern ← patternOfWord x right.pieces
    trace (shownText a ++ " " ++ op ++ " " ++ shownText (regexOf pattern))
    search? a pattern
  | _ =>
    let b ← textOfWord x right.pieces
    trace (shownText a ++ " " ++ op ++ " " ++ shownText b)
    match Test.orders.lookup op with
    | some holds =>
      try
        let n ← calculate "[[: " a
        return ofBool (holds n (← calculate "[[: " b))
      catch
        | .abandon => return 1
        | j => throw j
    | none =>
      match Test.binary .bash (← testView) op a b with
      | .ok holds => return ofBool holds
      | .error _ => return 1

/-- The status of a test. -/
def holds (x : Scripts) (expand : String → Act String) (negated : Bool) : Condition → Act Nat
  | .unary op w => one op w
  | .single w => one "-n" w
  | .binary op left right => compare x trace op left right
  | .negation c => do return if (← holds x expand (!negated) c) = 0 then 1 else 0
  | .both a b => do
    let first ← holds x expand negated a
    if first = 0 then holds x expand negated b else return first
  | .either a b => do
    let first ← holds x expand negated a
    if first = 0 then return first else holds x expand negated b
  | .enclosed c => holds x expand false c
where
  trace (text : String) : Act Unit :=
    traceLine expand ((if negated then "[[ ! " else "[[ ") ++ text ++ " ]]")
  one (op : String) (w : Word) : Act Nat := do
    let operand ← textOfWord x w.pieces
    trace (op ++ " " ++ if operand = "" then "''" else operand)
    return if Test.unary .bash (← testView) (op.toList.getLastD ' ') operand matches .ok true then 0 else 1

end Act

end ScriptSearch.Host.Shell
