/-! Commands that are run as child processes: what is run, how a run ends, and what the
system can refuse on the way there. -/

namespace ScriptSearch

/-- A program and its arguments, without the program's own name. -/
structure Command where
  program : String
  args : List String
  deriving DecidableEq, Repr

/-- The words with a blank between neighbours; nothing is quoted. -/
def Command.line (c : Command) : String := String.intercalate " " (c.program :: c.args)

/-- Why the system refuses something. -/
inductive OsError
  | noEntry
  | accessDenied
  | notDirectory
  | isDirectory
  | nameTooLong
  | tooManyLinks
  | badFormat
  | argumentsTooLong
  | alreadyThere
  | notEmpty
  | invalid
  | badDescriptor
  | noSpace
  | brokenPipe
  | notPermitted
  | busy
  | noDevice
  | tryAgain
  | noMemory
  | noChild
  deriving DecidableEq, Repr

/-- The system's wording. -/
def OsError.message : OsError → String
  | noEntry => "No such file or directory"
  | accessDenied => "Permission denied"
  | notDirectory => "Not a directory"
  | isDirectory => "Is a directory"
  | nameTooLong => "File name too long"
  | tooManyLinks => "Too many levels of symbolic links"
  | badFormat => "Exec format error"
  | argumentsTooLong => "Argument list too long"
  | alreadyThere => "File exists"
  | notEmpty => "Directory not empty"
  | invalid => "Invalid argument"
  | badDescriptor => "Bad file descriptor"
  | noSpace => "No space left on device"
  | brokenPipe => "Broken pipe"
  | notPermitted => "Operation not permitted"
  | busy => "Device or resource busy"
  | noDevice => "No such device or address"
  | tryAgain => "Resource temporarily unavailable"
  | noMemory => "Cannot allocate memory"
  | noChild => "No child processes"

/-- How a process ends. -/
inductive Termination
  | exited (code : UInt8)
  | killed (signal : Fin 128)
  deriving DecidableEq, Repr

/-- One number for both: a signal counts from 128. -/
def Termination.status : Termination → Nat
  | exited code => code.toNat
  | killed signal => 128 + signal.val

theorem Termination.status_lt (t : Termination) : t.status < 256 := by
  cases t with
  | exited code => exact code.toNat_lt
  | killed signal => simp only [status]; omega

/-- The status with which a process ends that cannot become its program. -/
def notStartedStatus : UInt8 := 127

/-- The status that stands for a process that the system does not make or does not wait for. -/
def lostStatus : Nat := 1

/-- What a finished program leaves behind. -/
structure Run where
  out : String := ""
  err : String := ""
  ending : Termination := .exited 0
  deriving DecidableEq, Repr

/-- What becomes of a child process. -/
structure Child where
  /-- What its program leaves behind, or why it cannot become that program. -/
  invoked : Except OsError Run
  /-- Why it cannot be waited for. A wait that is only interrupted goes on. -/
  lost? : Option OsError := none

end ScriptSearch
