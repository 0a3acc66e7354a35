import ScriptSearch.Host.Calendar
import ScriptSearch.Host.Quoted
import ScriptSearch.Host.Real

/-! Printing arguments in the places of a format. The format is used again while arguments
are left, and arguments that are missing count as empty. The system's printers share the
rules and differ in the escapes they know, in the places they accept and in their
messages. -/

namespace ScriptSearch.Host.Printf

/-- Why something cannot be printed as asked. -/
inductive Fault
  | noNumber (arg : String)
  | partNumber (arg : String)
  | outOfRange (arg : String)
  | badPlace (source : String) (letter : Char)
  | openPlace (source : String)
  | badEscape (e : Escape)
  /-- An escape with this letter needs digits. -/
  | digitMissing (letter : Char)
  /-- Characters behind one that stands for its number. -/
  | spareCharacters (text : String)
  | spareArguments (first : String)
  /-- The character behind how a moment is to be shown is none that can stand there. -/
  | badMoment (c : Char)
  /-- A text that is to name a variable does not. -/
  | badName (text : String)
  deriving Repr

/-- How precisely fractions are kept. -/
def realWidth : Provider → Real.Width
  | .plain => Real.word
  | _ => Real.extended

/-- The words for a fault; `wide` says how the program quotes. -/
def message (wide : Bool) : Provider → Fault → String
  | .program, .noNumber arg => Quoted.plain wide arg ++ ": expected a numeric value"
  | .program, .partNumber arg => Quoted.plain wide arg ++ ": value not completely converted"
  | .program, .outOfRange arg => Quoted.plain wide arg ++ ": Numerical result out of range"
  | .program, .badPlace source _ | .program, .openPlace source =>
    source ++ ": invalid conversion specification"
  | .plain, .noNumber arg => arg ++ ": expected numeric value"
  | .plain, .partNumber arg => arg ++ ": not completely converted"
  | .plain, .outOfRange arg => arg ++ ": Numerical result out of range"
  | .plain, .badPlace source _ => source ++ ": invalid directive"
  | .plain, .openPlace _ => "missing format character"
  | .bash, .noNumber arg | .bash, .partNumber arg =>
    let kind := match arg.toList with
      | '0' :: 'x' :: _ => "invalid hex number"
      | '0' :: c :: _ => if c.isDigit then "invalid octal number" else "invalid number"
      | _ => "invalid number"
    arg ++ ": " ++ kind
  | .bash, .outOfRange arg => "warning: " ++ arg ++ ": Numerical result out of range"
  | .bash, .badPlace _ letter => "\x60" ++ String.ofList [letter] ++ "': invalid format character"
  | .bash, .openPlace source => "\x60" ++ source ++ "': missing format character"
  | _, .badEscape (.badPoint text) => "invalid universal character name \\" ++ text
  | _, .badEscape _ => "missing hexadecimal number in escape"
  | _, .digitMissing letter =>
    "missing " ++ (if letter = 'x' then "hex" else "unicode") ++ " digit for \\" ++ String.ofList [letter]
  | _, .spareCharacters text =>
    "warning: " ++ text ++ ": character(s) following character constant have been ignored"
  | _, .badMoment c => "warning: \x60" ++ String.ofList [c] ++ "': invalid time format specification"
  | _, .badName text => "\x60" ++ text ++ "': not a valid identifier"
  | _, .spareArguments first =>
    "warning: ignoring excess arguments, starting with " ++ Quoted.plain wide first

/-- Whether printing ends at a fault. -/
def stopsAt : Provider → Fault → Bool
  | .program, .badEscape _ | _, .badPlace _ _ | _, .openPlace _ => true
  | _, _ => false

/-- The status after a fault. -/
def statusOf : Provider → Fault → UInt8
  | _, .spareArguments _ | _, .badMoment _ | .bash, .outOfRange _ | .bash, .badEscape _ | _, .digitMissing _ | _, .spareCharacters _ => 0
  | .plain, .badPlace _ _ | .plain, .openPlace _ => 2
  | _, _ => 1

/-- A place for an argument, as it is written in a format. -/
structure Place where
  source : String
  layout : Numeral.Layout := {}
  widthFromArgument : Bool := false
  precisionFromArgument : Bool := false
  /-- How a moment is to be shown. -/
  time : Option String := none
  /-- What stands behind that where it cannot. -/
  astray : Option Char := none
  letter : Option Char

/-- Reads a place after its `%`. -/
def Place.read (p : Provider) (cs : List Char) : Place × List Char :=
  let flags := cs.takeWhile fun c => "-+ #0".toList.contains c || (c == '\'' && p ≠ .plain)
  let rest := cs.drop flags.length
  let digits := rest.takeWhile Char.isDigit
  let (star, rest) := match rest with
    | '*' :: rest => (true, rest)
    | rest => (false, rest.drop digits.length)
  let number (ds : List Char) : Nat := ((Escape.number 10 ds.length ds).map (·.1)).getD 0
  let (precision, precisionStar, rest) := match rest with
    | '.' :: '*' :: rest => (some 0, true, rest)
    | '.' :: rest =>
      let ds := rest.takeWhile Char.isDigit
      (some (number ds), false, rest.drop ds.length)
    | rest => (none, false, rest)
  let rest := if p = .plain then rest else rest.dropWhile fun c => "hjlLtz".toList.contains c
  let layout : Numeral.Layout :=
    { left := flags.contains '-', plus := flags.contains '+', space := flags.contains ' '
      alternate := flags.contains '#', zero := flags.contains '0'
      width := number digits, precision }
  let length := cs.length - rest.length
  let place (letter : Option Char) : Place :=
    { source := String.ofList ('%' :: cs.take (length + if letter.isSome then 1 else 0))
      layout, widthFromArgument := star, precisionFromArgument := precisionStar, letter }
  let moment : Option (List Char) := match p, rest with
    | .bash, '(' :: rest => some (enclosed 1 rest)
    | _, _ => none
  match moment, rest with
  | some format, _ =>
    let timed : Place := { place (some 'T') with time := some (String.ofList format) }
    match rest.drop (format.length + 2) with
    | 'T' :: rest => (timed, rest)
    | other => ({ timed with astray := some (other.headD '\x00') }, [])
  | none, [] => (place none, [])
  | none, c :: rest => (place (some c), rest)
where
  /-- What stands in front of the parenthesis that closes so many others. -/
  enclosed : Nat → List Char → List Char
    | _, [] => []
    | depth, c :: cs =>
      if c = ')' then if depth ≤ 1 then [] else c :: enclosed (depth - 1) cs
      else c :: enclosed (if c = '(' then depth + 1 else depth) cs

/-- Whether the program accepts a place: not every letter goes with every flag. -/
def Place.suitsProgram (pl : Place) (c : Char) : Bool :=
  let l := pl.layout
  let bare := pl.source.length = 2
  if c = 'b' ∨ c = 'q' then bare
  else
    "aAcdeEfFgGiosuxX".toList.contains c &&
      !(l.alternate && "cdisu".toList.contains c) && !(l.zero && "cs".toList.contains c) &&
      !(l.precision.isSome && c == 'c')

/-- Printing in progress. -/
structure Progress where
  bytes : Array UInt8 := #[]
  faults : List Fault := []
  args : List String
  wide : Bool := false
  stopped : Bool := false
  /-- Whether an escape has ended all output. -/
  ended : Bool := false
  /-- Variables that get the number of bytes so far. -/
  counts : List (String × Nat) := []

namespace Progress

def put (g : Progress) (text : String) : Progress := { g with bytes := g.bytes ++ (Octet.bytes text) }

def fault (p : Provider) (g : Progress) (f : Fault) : Progress :=
  { g with faults := g.faults ++ [f], stopped := g.stopped || stopsAt p f }

def next (g : Progress) : String × Progress := (g.args.headD "", { g with args := g.args.tail })

/-- The number of the first character of a text, or of its first byte, with a note about what
stands behind it. -/
def first (p : Provider) (g : Progress) (text : List Char) : Nat × Progress :=
  let units := Octet.units (g.wide && p ≠ .plain) (String.ofList text)
  let code (c : Char) : Nat := if Octet.isSingle c then c.toNat - Octet.base else c.toNat
  (code (units.headD '\x00'), match units.tail with
    | [] => g
    | rest => if p = .program then g.fault p (.spareCharacters (Octet.join rest)) else g)

/-- A numeric argument. A quote stands for the number of what comes after it. What is no
numeral, or only the start of one, or too large, is a fault and gives what there is. -/
def number (p : Provider) (lo hi : Int) (g : Progress) : Int × Progress :=
  let (arg, g) := g.next
  match arg.toList with
  | [] => (0, g)
  | ['"'] | ['\''] => (0, if p = .program then g.fault p (.noNumber arg) else g)
  | '"' :: rest | '\'' :: rest =>
    let (n, g) := g.first p rest
    (n, g)
  | cs =>
    match Numeral.read cs with
    | none => (0, g.fault p (.noNumber arg))
    | some ⟨n, rest⟩ =>
      let g := if rest ≠ [] then g.fault p (.partNumber arg)
        else if n < lo ∨ hi < n then g.fault p (.outOfRange arg) else g
      (if hi < n then hi else if n < lo then (if lo = -hi then hi else lo) else n, g)

def real (p : Provider) (g : Progress) : Real.Number × Progress :=
  let (arg, g) := g.next
  let zero : Real.Number := ⟨false, .finite 0 1⟩
  match arg.toList with
  | [] => (zero, g)
  | ['"'] | ['\''] => (zero, if p = .program then g.fault p (.noNumber arg) else g)
  | '"' :: rest | '\'' :: rest =>
    let (n, g) := g.first p rest
    (⟨false, .finite n 1⟩, g)
  | cs =>
    match Real.read (realWidth p) cs with
    | none => (zero, g.fault p (.noNumber arg))
    | some r =>
      (r.number, if !r.rest.isEmpty then g.fault p (.partNumber arg)
        else if !r.inRange then g.fault p (.outOfRange arg) else g)

/-- The layout with what arguments give of it. -/
def layout (p : Provider) (pl : Place) (g : Progress) : Numeral.Layout × Progress :=
  let l := pl.layout
  let (l, g) :=
    if pl.widthFromArgument then
      let (n, g) := g.number p (-Numeral.signedMax - 1) Numeral.signedMax
      ({ l with width := n.natAbs, left := l.left || n < 0 }, g)
    else (l, g)
  if pl.precisionFromArgument then
    let (n, g) := g.number p (-Numeral.signedMax - 1) Numeral.signedMax
    ({ l with precision := if n < 0 then none else some n.toNat }, g)
  else (l, g)

/-- A text cut to the precision, in bytes, and filled up to the width. -/
def text (l : Numeral.Layout) (bytes : List UInt8) (g : Progress) : Progress :=
  let bytes := match l.precision with
    | some p => bytes.take p
    | none => bytes
  let blanks := List.replicate (l.width - bytes.length) 32
  { g with bytes := g.bytes ++ if l.left then bytes ++ blanks else blanks ++ bytes }

/-- A character the way the large shell reads it back. -/
def bashQuoted (wide : Bool) (s : String) : String :=
  let special := " !\"$&'()*,;<>?[\\]^\x60\x7b|\x7d".toList
  if s = "" then "''"
  else if Quoted.needsEscapes wide s then Quoted.escapes wide s
  else
    let cs := s.toList
    let isSpecial (c : Char) (before : Option Char) : Bool :=
      special.contains c || (c == '#' && before.isNone) ||
        (c == '~' && (before.isNone || before == some '=' || before == some ':'))
    let befores := none :: cs.map some
    String.ofList ((cs.zip befores).flatMap fun (c, before) =>
      if isSpecial c before then ['\\', c] else [c])

/-- The moment that counts as the present. -/
def now : Int := 1700000000

/-- Fills a place. -/
def fill (p : Provider) (pl : Place) (g : Progress) : Progress :=
  match pl.letter with
  | none => g.fault p (.openPlace pl.source)
  | some c =>
    let (l, g) := g.layout p pl
    let bad := g.fault p (.badPlace pl.source c)
    if p = .program ∧ !pl.suitsProgram c then bad
    else
      let signed := fun (_ : Unit) =>
        let (n, g) := g.number p (-Numeral.signedMax - 1) Numeral.signedMax
        g.put (l.signed n)
      let unsigned := fun base =>
        let (n, g) := g.number p (-Numeral.unsignedMax) Numeral.unsignedMax
        g.put (l.unsigned base (c = 'X') (n % (Numeral.unsignedMax + 1)).toNat)
      match c with
      | 's' => let (arg, g) := g.next; g.text l (Octet.bytes arg)
      | 'b' =>
        let (arg, g) := g.next
        let r := Escape.resolve (p.argumentRule g.wide) arg
        let missing := if p = .bash then r.digitless else []
        let g := missing.foldl (fun g letter => g.fault p (.digitMissing letter)) (g.text l r.bytes)
        match r.ending with
        | none => g
        | some .stop => { g with stopped := true, ended := true }
        | some e => g.fault p (.badEscape e)
      | 'c' =>
        let (arg, g) := g.next
        g.text { l with precision := none } [(Octet.bytes arg).headD 0]
      | 'd' | 'i' => signed ()
      | 'o' => unsigned 8
      | 'u' => unsigned 10
      | 'x' | 'X' => unsigned 16
      | 'a' | 'A' | 'e' | 'E' | 'f' | 'F' | 'g' | 'G' =>
        let (x, g) := g.real p
        g.put (Real.format l c (realWidth p).digits x)
      | 'q' =>
        if p = .plain then bad
        else if p = .program ∧ g.args = [] then g
        else
          let (arg, g) := g.next
          let quoted := if p = .bash then bashQuoted g.wide arg
            else if arg = "" then "''" else Quoted.shell g.wide arg
          g.text l (Octet.bytes quoted)
      | 'Q' =>
        if p ≠ .bash then bad
        else
          let (arg, g) := g.next
          let units := Octet.units g.wide arg
          let taken := match l.precision with
            | some n => Octet.join (units.take n)
            | none => arg
          g.text { l with precision := none } (Octet.bytes (bashQuoted g.wide taken))
      | 'n' =>
        if p ≠ .bash then bad
        else
          let (arg, g) := g.next
          let isName := (arg.toList.head?.any fun c => c.isAlpha || c = '_') &&
            arg.toList.all fun c => c.isAlphanum || c = '_'
          if arg = "" then g
          else if isName then { g with counts := g.counts ++ [(arg, g.bytes.size)] }
          else g.fault p (.badName arg)
      | 'T' =>
        match pl.time with
        | none => bad
        | some format =>
          let (n, g) := if g.args.isEmpty then (-1, g)
            else g.number p (-Numeral.signedMax - 1) Numeral.signedMax
          let moment := Calendar.Date.ofSeconds (if n = -1 ∨ n = -2 then now else n)
          g.text l (Octet.bytes (moment.format (if format = "" then "%X" else format)))
      | _ => bad

/-- Goes through the format once. The first argument bounds the steps. -/
def pass (p : Provider) : Nat → List Char → Progress → Progress
  | 0, _, g | _, [], g => g
  | steps + 1, c :: rest, g =>
    if g.stopped then g
    else if c = '\\' then
      match Escape.read (p.formatRule g.wide) rest with
      | (.bytes bs, rest) => pass p steps rest { g with bytes := g.bytes ++ bs }
      | (.stop, _) => { g with stopped := true, ended := true }
      | (.hexMissing, rest) => pass p steps rest (g.fault p (.badEscape .hexMissing))
      | (.badPoint digits, rest) => pass p steps rest (g.fault p (.badEscape (.badPoint digits)))
      | (.unknown, next :: rest) =>
        let g := g.put "\\"
        let digitless := p = .bash ∧ "xuU".toList.contains next
        let g := if digitless then g.fault p (.digitMissing next) else g
        if p = .program ∨ digitless then pass p steps rest (g.put (String.ofList [next]))
        else pass p steps (next :: rest) g
      | (.unknown, []) => g.put "\\"
    else if c = '%' then
      match rest with
      | '%' :: rest => pass p steps rest (g.put "%")
      | _ =>
        let (pl, behind) := Place.read p rest
        match pl.astray with
        | some c => pass p steps rest ((g.fault p (.badMoment c)).put "%")
        | none => pass p steps behind (g.fill p pl)
    else pass p steps rest (g.put (String.ofList [c]))

/-- Goes through the format again while it takes arguments and some are left. -/
def passes (p : Provider) (format : List Char) : Nat → Progress → Progress
  | 0, g => g
  | more + 1, g =>
    let left := g.args.length
    let g := g.pass p (format.length + 1) format
    if g.stopped ∨ g.args = [] then g
    else if g.args.length < left then passes p format more g
    else if p = .program then g.fault p (.spareArguments (g.args.headD ""))
    else g

end Progress

/-- What printing leaves: the text, messages and a status. -/
structure Result where
  text : String
  messages : List String
  status : UInt8
  /-- Variables that get a number. -/
  counts : List (String × Nat) := []

/-- Prints. The program ends well at an escape that ends all output, whatever was wrong before. -/
def print (p : Provider) (wide : Bool) (format : String) (args : List String) : Result :=
  let g := Progress.passes p format.toList (args.length + 1) { args, wide }
  { text := Octet.text g.bytes.toList
    messages := g.faults.map (message wide p)
    counts := g.counts
    status := if p = .program ∧ g.ended then 0 else (g.faults.map (statusOf p)).foldl max 0 }

end ScriptSearch.Host.Printf
