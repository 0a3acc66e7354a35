/-! Terminal styling of a piece of text: a colour and bold print, written as one
escape sequence before the text and a reset after it. Text without either is
written as it is, and so is all text when colour is off. -/

namespace ScriptSearch

inductive Colour
  | black | red | green | yellow | blue | magenta | cyan | white
  deriving DecidableEq, Repr

/-- The digit that selects the colour of the letters. -/
def Colour.digit : Colour → Char
  | black => '0'
  | red => '1'
  | green => '2'
  | yellow => '3'
  | blue => '4'
  | magenta => '5'
  | cyan => '6'
  | white => '7'

/-- How a text looks; without a colour it keeps the terminal's own. -/
structure Style where
  colour : Option Colour := none
  bold : Bool := false
  deriving DecidableEq, Repr

namespace Style

/-- The parameters of the escape sequence, bold first. -/
def codes (s : Style) : List String :=
  (if s.bold then ["1"] else []) ++ (s.colour.map fun c => String.ofList ['3', c.digit]).toList

/-- The styled text; `colorize` says whether styling is on at all. -/
def apply (s : Style) (colorize : Bool) (text : String) : String :=
  if colorize && !s.codes.isEmpty then
    "\x1b[" ++ String.intercalate ";" s.codes ++ "m" ++ text ++ "\x1b[0m"
  else text

@[simp] theorem apply_false (s : Style) (text : String) : s.apply false text = text := rfl

end Style

end ScriptSearch
