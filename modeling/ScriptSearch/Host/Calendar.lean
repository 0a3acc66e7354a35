/-! Moments as dates: seconds since the beginning of the year 1970 as a day of a year and a time of
day, and their texts as formats ask for them. -/

namespace ScriptSearch.Host.Calendar

/-- A moment by its parts. -/
structure Date where
  seconds : Int
  year : Int
  month : Nat
  day : Nat
  hour : Nat
  minute : Nat
  second : Nat
  /-- Days since the beginning of the year. -/
  yearDay : Nat
  /-- Days since Sunday. -/
  weekDay : Nat
  deriving Repr

def isLeap (year : Int) : Bool := (year % 4 = 0 && year % 100 ≠ 0) || year % 400 = 0

def monthLengths (year : Int) : List Nat :=
  [31, if isLeap year then 29 else 28, 31, 30, 31, 30, 31, 31, 30, 31, 30, 31]

/-- Days from the beginning of 1970 to that of a year. -/
def daysBefore (year : Int) : Int :=
  let y := year - 1
  let leaps (y : Int) : Int := y / 4 - y / 100 + y / 400
  365 * (year - 1970) + leaps y - leaps 1969

/-- The month, counted from zero, and the day in it for a day of a year. -/
def monthOf : List Nat → Nat → Nat → Nat × Nat
  | [], month, day => (month, day)
  | size :: more, month, day => if day < size then (month, day) else monthOf more (month + 1) (day - size)

def Date.ofSeconds (seconds : Int) : Date :=
  let days := seconds / 86400
  let time := (seconds % 86400).toNat
  let guess := 1970 + days / 366
  let year := (List.range 4000).foldl
    (fun (year : Int) _ => if daysBefore (year + 1) ≤ days then year + 1 else year)
    (if days < daysBefore guess then guess - 1 else guess)
  let yearDay := (days - daysBefore year).toNat
  let (month, day) := monthOf (monthLengths year) 0 yearDay
  { seconds, year, month := month + 1, day := day + 1, hour := time / 3600
    minute := time / 60 % 60, second := time % 60, yearDay, weekDay := ((days + 4) % 7).toNat }

def monthNames : List String :=
  ["January", "February", "March", "April", "May", "June", "July", "August", "September",
    "October", "November", "December"]

def dayNames : List String :=
  ["Sunday", "Monday", "Tuesday", "Wednesday", "Thursday", "Friday", "Saturday"]

/-- A number filled up to a width. -/
def filled (fill : Char) (width : Nat) (n : Int) : String :=
  let digits := toString n.natAbs
  let sign := if n < 0 then "-" else ""
  sign ++ "".pushn fill (width - digits.length - sign.length) ++ digits

def short (name : String) : String := (name.take 3).toString

/-- The week of a year that begins on a day of the week, and the year that the week belongs to. -/
def isoWeek (d : Date) : Int × Nat :=
  let fromMonday := (d.weekDay + 6) % 7
  let week : Int := ((d.yearDay : Int) - fromMonday + 10) / 7
  let weeksOf (year : Int) : Int :=
    let first := (daysBefore year + 4) % 7
    if first = 4 ∨ (first = 3 ∧ isLeap year) then 53 else 52
  if week < 1 then (d.year - 1, (weeksOf (d.year - 1)).toNat)
  else if weeksOf d.year < week then (d.year + 1, 1)
  else (d.year, week.toNat)

/-- What a letter of a format stands for. -/
def Date.part? (d : Date) (letter : Char) : Option String :=
  let two (n : Nat) : String := filled '0' 2 n
  let half := if d.hour % 12 = 0 then 12 else d.hour % 12
  let month := monthNames.getD (d.month - 1) ""
  let day := dayNames.getD d.weekDay ""
  let time := two d.hour ++ ":" ++ two d.minute ++ ":" ++ two d.second
  let slashed := two d.month ++ "/" ++ two d.day ++ "/" ++ filled '0' 2 (d.year % 100)
  match letter with
  | 'Y' => some (toString d.year)
  | 'C' => some (filled '0' 2 (d.year / 100))
  | 'y' => some (filled '0' 2 (d.year % 100))
  | 'm' => some (two d.month)
  | 'd' => some (two d.day)
  | 'e' => some (filled ' ' 2 d.day)
  | 'H' => some (two d.hour)
  | 'I' => some (two half)
  | 'k' => some (filled ' ' 2 d.hour)
  | 'l' => some (filled ' ' 2 half)
  | 'M' => some (two d.minute)
  | 'S' => some (two d.second)
  | 'p' => some (if d.hour < 12 then "AM" else "PM")
  | 'P' => some (if d.hour < 12 then "am" else "pm")
  | 'j' => some (filled '0' 3 (d.yearDay + 1))
  | 'a' => some (short day)
  | 'A' => some day
  | 'b' | 'h' => some (short month)
  | 'B' => some month
  | 'u' => some (toString (if d.weekDay = 0 then 7 else d.weekDay))
  | 'w' => some (toString d.weekDay)
  | 'U' => some (two ((d.yearDay + 7 - d.weekDay) / 7))
  | 'W' => some (two ((d.yearDay + 7 - (d.weekDay + 6) % 7) / 7))
  | 'V' => some (two (isoWeek d).2)
  | 'G' => some (toString (isoWeek d).1)
  | 'g' => some (filled '0' 2 ((isoWeek d).1 % 100))
  | 's' => some (toString d.seconds)
  | 'N' => some "000000000"
  | 'F' => some (filled '0' 4 d.year ++ "-" ++ two d.month ++ "-" ++ two d.day)
  | 'T' | 'X' => some time
  | 'D' | 'x' => some slashed
  | 'R' => some (two d.hour ++ ":" ++ two d.minute)
  | 'r' => some (two half ++ ":" ++ two d.minute ++ ":" ++ two d.second ++ if d.hour < 12 then " AM" else " PM")
  | 'c' => some (short day ++ " " ++ short month ++ " " ++ filled ' ' 2 d.day ++ " " ++ time ++ " " ++ toString d.year)
  | 'Z' => some "UTC"
  | 'z' => some "+0000"
  | 'n' => some "\n"
  | 't' => some "\t"
  | '%' => some "%"
  | _ => none

/-- The text that a format asks for. A flag keeps numbers from being filled. -/
def Date.formatted (d : Date) : List Char → List Char
  | '%' :: '-' :: c :: rest =>
    match d.part? c with
    | some s =>
      let cs := s.toList.dropWhile fun c => c = '0' || c = ' '
      (if cs.isEmpty then ['0'] else cs) ++ d.formatted rest
    | none => '%' :: '-' :: c :: d.formatted rest
  | '%' :: c :: rest =>
    match d.part? c with
    | some s => s.toList ++ d.formatted rest
    | none => '%' :: c :: d.formatted rest
  | c :: rest => c :: d.formatted rest
  | [] => []

def Date.format (d : Date) (text : String) : String := String.ofList (d.formatted text.toList)

end ScriptSearch.Host.Calendar
