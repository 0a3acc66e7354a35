import ScriptSearch.Host.Process

/-! Which program runs a file. A file that is not a program of the system is a script: its first
line names the interpreter, which gets the script's path among its arguments. -/

namespace ScriptSearch.Host.Interpreter

/-! ### First lines -/

/-- How much of a file's start is looked at. -/
def headSize : Nat := 256

/-- How many interpreters can stand between a script and a program. -/
def interpreterLimit : Nat := 5

def isBlank (b : UInt8) : Bool := b == 32 || b == 9

def isEnd (b : UInt8) : Bool := isBlank b || b == 0

/-- The interpreter that a script's first line names, and the argument for it, if there is
one. Without an end of the line in the part that is looked at, the name has to end there,
and the argument is cut. -/
def interpreter (script : String) : Except OsError (String × Option String) :=
  let bytes := ((Octet.bytes script).take headSize) ++ List.replicate headSize 0
  let head := bytes.take headSize
  match head with
  | 35 :: 33 :: rest =>
    let line := rest.takeWhile (· ≠ 10)
    let ended := decide (line.length < rest.length) && !line.contains 0
    let body := (if ended then line else rest).dropWhile isBlank
    let name := body.takeWhile (!isEnd ·)
    if !ended ∧ (body.isEmpty ∨ name.length = body.length) then .error .badFormat
    else
      let body := ((if ended then body else body.dropLast).reverse.dropWhile isBlank).reverse
      let name := body.takeWhile (!isEnd ·)
      if ended ∧ name.isEmpty then .error .badFormat
      else
        let behind := body.drop name.length
        let arg := behind.dropWhile isBlank
        let arg := arg.takeWhile (· ≠ 0)
        let hasArgument := (behind.head?.map isBlank).getD false
        .ok (Octet.text name, if hasArgument then some (Octet.text arg) else none)
  | _ => .error .badFormat

/-! ### Running a file -/

/-- The longest text among the arguments and the variables, and the most for all. -/
def argumentLimit : Nat := 131072

def argumentsLimit : Nat := 2097152

/-- Whether arguments and variables can be handed over. -/
def fits (p : Process) : Bool :=
  let sizes := (p.name :: p.args ++ p.environment).map fun s => Octet.size s + 1
  sizes.all (· ≤ argumentLimit) && sizes.foldl (fun n size => n + size + 8) 0 ≤ argumentsLimit

/-- The program that the file at a path leads to through interpreters, and the process with
their arguments. -/
def follow (m : Machine) : (interpreters : Nat) → (path : String) → Process →
    Except OsError (Tool × Process)
  | interpreters, path, p => do
    let d ← m.tree.locate p.here path
    let e ← m.tree.entry d
    let runnable := m.tree.permits .execute d.location e
    match e with
    | .tool t => .ok (t, p)
    | .file node =>
      if !runnable then .error .accessDenied
      else
        let (name, arg) ← interpreter (m.tree.node node).text
        match interpreters with
        | 0 => .error .tooManyLinks
        | interpreters + 1 =>
          if name = "" then .error .accessDenied
          else follow m interpreters name { p with name, args := arg.toList ++ path :: p.args }
    | _ => .error .accessDenied

/-- The program that runs the file at a path, and the process with its arguments. -/
def resolve (m : Machine) (path : String) (p : Process) : Except OsError (Tool × Process) :=
  if !fits p then .error .argumentsTooLong else follow m interpreterLimit path p

end ScriptSearch.Host.Interpreter
