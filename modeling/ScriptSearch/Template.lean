import ScriptSearch.Text.Split

/-! Templates: candidate paths with one slot for a script's name, written with `%s`
at the slot. Reading a template takes the first `%s` for the slot and refuses a
text that has none, or that has another one further on. -/

namespace ScriptSearch

/-- A candidate path with one slot, given by the text on either side of it. -/
structure Template where
  before : String
  after : String
  deriving DecidableEq, Repr, Inhabited

/-- Why a text is no template. -/
inductive TemplateError
  | noSlot (text : String)
  | manySlots (text : String)
  deriving DecidableEq, Repr

namespace TemplateError

def message : TemplateError → String
  | noSlot text => "search path " ++ Text.quoted text ++ " has no `%s` slot"
  | manySlots text => "search path " ++ Text.quoted text ++ " has more than one `%s` slot"

/-- The text that was refused. -/
def text : TemplateError → String
  | noSlot text => text
  | manySlots text => text

end TemplateError

namespace Template

/-- The characters before and after the first `%s`, if there is one. -/
def cutSlot? : List Char → Option (List Char × List Char)
  | [] => none
  | '%' :: 's' :: rest => some ([], rest)
  | c :: rest => (cutSlot? rest).map fun cut => (c :: cut.1, cut.2)

/-- The written form. -/
def text (t : Template) : String := t.before ++ "%s" ++ t.after

/-- The candidate for a name: the name stands in the slot as it is, whatever it contains. -/
def expand (t : Template) (name : String) : String := t.before ++ name ++ t.after

/-- The written form with a name in the place of its slot; a text without a slot stays. -/
def fillChars (name : List Char) : List Char → List Char
  | [] => []
  | '%' :: 's' :: rest => name ++ rest
  | c :: rest => c :: fillChars name rest

def fill (name text : String) : String := String.ofList (fillChars name.toList text.toList)

/-- Reads the written form, which has exactly one slot. -/
def parse (text : String) : Except TemplateError Template :=
  match cutSlot? text.toList with
  | none => .error (.noSlot text)
  | some (before, after) =>
    if (cutSlot? after).isSome then .error (.manySlots text)
    else .ok ⟨String.ofList before, String.ofList after⟩

end Template

end ScriptSearch
