import ScriptSearch.Host.Shell.Reader

/-! What shells say about flaws in a script. -/

namespace ScriptSearch.Host.Shell.Flaw

/-- What the plain shell says. -/
def plainMessage : Flaw → String
  | unclosed mark _ =>
    match mark with
    | "\x7b" => "Missing '\x7d'"
    | "((" => "Missing '))'"
    | "(" => "end of file unexpected (expecting \")\")"
    | "\x60" => "EOF in backquote substitution"
    | _ => "Unterminated quoted string"
  | unexpected _ name expected =>
    name ++ " unexpected" ++ (expected.map fun e => " (expecting " ++ e ++ ")").getD ""
  | loopVariable _ _ => "Bad for loop variable"
  | functionName _ => "Bad function name"
  | descriptor => "Bad fd number"
  | test message => message.getD ""
  | element _ | unclosedList | loopHead _ _ => "unexpected"

/-- A token as the large shell shows it; nothing at the end of the script. -/
def shownToken : Token → Option String
  | .word w => some w.source
  | .redirect (.number n) op => if op = "<" ∨ op = ">" then some (toString n) else some op
  | .redirect (.variable name) _ => some name
  | .redirect .standard op => some op
  | .operator text => some text
  | .newline => some "newline"
  | .finish => none

/-- What the large shell says about a token that cannot stand where it does, and whether the
line is shown. -/
def unexpectedMessage (t : Token) : String × Bool :=
  match shownToken t with
  | some text => ("syntax error near unexpected token \x60" ++ text ++ "'", true)
  | none => ("syntax error: unexpected end of file", false)

/-- What the large shell says: a message, and whether the line is shown. -/
def largeMessage : Flaw → String × Bool
  | unclosed mark _ =>
    let closing := match mark with
      | "\x7b" => "\x7d"
      | "[" => "]"
      | "(" | "((" => ")"
      | mark => mark
    ("unexpected EOF while looking for matching \x60" ++ closing ++ "'", false)
  | unclosedList => ("unexpected EOF while looking for matching \x60)'", false)
  | unexpected t _ _ | element t => unexpectedMessage t
  | loopVariable _ source => ("\x60" ++ source ++ "': not a valid identifier", false)
  | functionName name => ("\x60" ++ name ++ "': not a valid identifier", false)
  | descriptor => ("syntax error", false)
  | test message => (message.getD "", false)
  | loopHead message _ => (message, false)

/-- Whether the large shell says nothing more about the rest of the script, and ends with the
status that it has. -/
def endsQuietly : Flaw → Bool
  | test _ => true
  | _ => false

end ScriptSearch.Host.Shell.Flaw
