import ScriptSearch.Text.Split

/-! The commands that a script has read, kept in the order in which they came. A command that was
written on several lines is kept as one text. -/

namespace ScriptSearch.Host.Shell

structure History where
  /-- The commands, the oldest first. -/
  entries : List String := []
  /-- How many of them, at the end, no file has. -/
  fresh : Nat := 0
  /-- How many lines of a file are known. -/
  known : Nat := 0
  deriving Repr

namespace History

def push (h : History) (entry : String) : History :=
  { h with entries := h.entries ++ [entry], fresh := h.fresh + 1 }

/-- Without the entries from one place on, so many of them. -/
def drop (h : History) (start count : Nat) : History :=
  { h with entries := h.entries.take start ++ h.entries.drop (start + count) }

/-! ### One text for several lines -/

/-- Whether a quote or a script in a word is open at the end of a text. `closers` are the marks that
close what is open. -/
def isOpen : (closers : List Char) → List Char → Bool
  | closers, [] => !closers.isEmpty
  | closers, c :: cs =>
    if closers.head? = some '\'' then isOpen (if c = '\'' then closers.tail else closers) cs
    else match c, cs with
      | '\\', _ :: cs => isOpen closers cs
      | '$', '(' :: cs => isOpen (')' :: closers) cs
      | c, cs =>
        if closers.head? = some c then isOpen closers.tail cs
        else if c = '"' ∨ c = '\x60' ∨ (c = '\'' ∧ closers.head? ≠ some '"') then isOpen (c :: closers) cs
        else isOpen closers cs

/-- The last word of a text, and the one before. -/
def lastWords (text : String) : String × String :=
  let words := ((Text.split ' ' text).flatMap (Text.split '\n')).filter (· ≠ "")
  (words.getLastD "", words.dropLast.getLastD "")

/-- Words behind which a command goes on without a semicolon. -/
def openers : List String := ["case", "do", "else", "if", "then", "until", "while", "in", "\x7b"]

/-- What stands between a text and the next line of the same command. -/
def link (text next : String) : String :=
  let (last, previous) := lastWords text
  let ending := text.toList.reverse.dropWhile fun c => c = ' ' || c = '\t'
  if isOpen [] text.toList then "\n"
  else if (text.splitOn "<<").length ≠ (text.splitOn "<<<").length then "\n"
  else if next.toList.all fun c => c = ' ' || c = '\t' then ""
  else match ending with
    | ')' :: '(' :: _ => " "
    | ')' :: _ => if 1 < (text.splitOn "case ").length then " " else "; "
    | c :: _ =>
      if "(;&|".toList.contains c ∨ openers.contains last ∨ previous = "case" ∨ previous = "function" then " "
      else if previous = "for" then
        if (next.toList.dropWhile fun c => c = ' ' || c = '\t').take 2 = ['i', 'n'] then " " else ";"
      else "; "
    | [] => ""

/-- The lines of a command as one text. -/
def joined : List String → String
  | [] => ""
  | line :: rest => goOn line rest
where
  goOn (text : String) : List String → String
    | [] => if 1 < (text.splitOn "<<").length ∧ 1 < (text.splitOn "\n").length ∧ !isOpen [] text.toList
        then text ++ "\n" else text
    | next :: rest =>
      if text.endsWith "\\" ∧ !isOpen [] text.toList then goOn ((text.dropEnd 1).toString ++ next) rest
      else goOn (text ++ link text next ++ next) rest

/-- The entries that the lines of a script make, which were read at once. -/
def entryOf (lines : String) : Option String :=
  let rows := (Text.split '\n' lines).dropWhile (· = "")
  let rows := if rows.getLast? = some "" then rows.dropLast else rows
  if rows.isEmpty then none else some (joined rows)

/-- The history with what has been read, as the words of a control say. -/
def record (h : History) (controls : List String) (lines : String) : History :=
  match entryOf lines with
  | none => h
  | some entry =>
    let has (name : String) : Bool := controls.contains name || controls.contains "ignoreboth"
    if has "ignorespace" ∧ entry.startsWith " " then h
    else if has "ignoredups" ∧ h.entries.getLast? = some entry then h
    else if controls.contains "erasedups" then
      { h with entries := h.entries.filter (· ≠ entry) }.push entry
    else h.push entry

/-! ### Places -/

/-- The place of an entry for a text: counted from the first or from behind the last, or the latest
that begins with the text. -/
def place? (entries : List String) (text : String) : Option Nat :=
  let size := entries.length
  let digits := if text.startsWith "-" then (text.drop 1).toString else text
  match if digits ≠ "" ∧ digits.toList.all Char.isDigit then digits.toNat? else none with
  | some n =>
    if text.startsWith "-" then some (size - n)
    else some (if n = 0 then size - 1 else min (n - 1) (size - 1))
  | none => (List.range size).reverse.find? fun i => (entries.getD i "").startsWith text

/-- A text in which a mark and what follows stand for an earlier entry; nothing if there is none. The
first argument bounds the steps. -/
def expanded? (entries : List String) : Nat → List Char → Option String
  | 0, _ | _, [] => some ""
  | steps + 1, '!' :: cs =>
    let goOn (found : Option String) (rest : List Char) : Option String := do
      return (← found) ++ (← expanded? entries steps rest)
    match cs with
    | '!' :: rest => goOn entries.getLast? rest
    | c :: _ =>
      if c.isWhitespace ∨ c = '=' ∨ c = '(' then goOn (some "!") cs
      else
        let word := cs.takeWhile fun c => !c.isWhitespace && c ≠ ':' && c ≠ '"'
        let signless := if c = '-' then word.drop 1 else word
        let number := !signless.isEmpty && signless.all Char.isDigit
        let place := if number then
            let n := (String.ofList signless).toNat?.getD 0
            if c = '-' then (if 0 < n ∧ n ≤ entries.length then some (entries.length - n) else none)
            else if 0 < n ∧ n ≤ entries.length then some (n - 1) else none
          else place? entries (String.ofList word)
        goOn (place.map fun i => entries.getD i "") (cs.drop word.length)
    | [] => some "!"
  | steps + 1, c :: cs => do return String.singleton c ++ (← expanded? entries steps cs)

end History

end ScriptSearch.Host.Shell
