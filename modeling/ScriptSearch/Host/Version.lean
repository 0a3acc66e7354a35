/-! The order of names with version numbers in them: runs of digits are compared as numbers, and what
lies between them by its characters, letters first. -/

namespace ScriptSearch.Host.Version

def isDigit (b : UInt8) : Bool := 48 ≤ b && b ≤ 57

def isAlpha (b : UInt8) : Bool := (65 ≤ b && b ≤ 90) || (97 ≤ b && b ≤ 122)

/-- The rank of what comes next outside of digits. -/
def rank : List UInt8 → Int
  | [] => -1
  | b :: _ =>
    if isDigit b then 0
    else if isAlpha b then b.toNat
    else if b = 126 then -2
    else b.toNat + 256

/-- Compares up to digits on both sides, and gives what is left. -/
def compareText : Nat → List UInt8 → List UInt8 → Except Ordering (List UInt8 × List UInt8)
  | 0, a, b => .ok (a, b)
  | steps + 1, a, b =>
    if (a.head?.all isDigit) && (b.head?.all isDigit) then .ok (a, b)
    else
      match compare (rank a) (rank b) with
      | .eq => compareText steps a.tail b.tail
      | o => .error o

/-- Compares rows of bytes part by part. The first argument bounds the steps. -/
def compareParts : Nat → List UInt8 → List UInt8 → Ordering
  | 0, _, _ => .eq
  | steps + 1, a, b =>
    if a.isEmpty && b.isEmpty then .eq
    else
      match compareText (a.length + b.length + 1) a b with
      | .error o => o
      | .ok (a, b) =>
        let a := a.dropWhile (· = 48)
        let b := b.dropWhile (· = 48)
        let da := a.takeWhile isDigit
        let db := b.takeWhile isDigit
        let order := (compare da.length db.length).then (compare da db)
        if order = .eq then compareParts steps (a.drop da.length) (b.drop db.length) else order

/-- The name without endings of letters and digits behind points. -/
def stem (s : List UInt8) : List UInt8 :=
  let rec go : Nat → List UInt8 → List UInt8
    | 0, r => r
    | steps + 1, r =>
      let ending := r.takeWhile fun b => isAlpha b || isDigit b || b = 126
      match ending.getLast?, r.drop ending.length with
      | some first, 46 :: more =>
        if (isAlpha first || first = 126) && !more.isEmpty then go steps more else r
      | _, _ => r
  (go s.length s.reverse).reverse

/-- The order of two names. -/
def compareNames (a b : List UInt8) : Ordering :=
  if a = b then .eq
  else
    match a, b with
    | [], _ => .lt
    | _, [] => .gt
    | 46 :: _, c :: _ => if c ≠ 46 then .lt else dotted a b
    | _ :: _, 46 :: _ => .gt
    | a, b => bare a b
where
  bare (a b : List UInt8) : Ordering :=
    let steps := a.length + b.length + 1
    match compareParts steps (stem a) (stem b) with
    | .eq => compareParts steps a b
    | o => o
  dotted (a b : List UInt8) : Ordering :=
    if a = [46] then .lt
    else if b = [46] then .gt
    else if a = [46, 46] then .lt
    else if b = [46, 46] then .gt
    else bare a b

end ScriptSearch.Host.Version
