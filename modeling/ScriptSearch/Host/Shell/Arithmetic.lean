import ScriptSearch.Host.Shell.Arithmetic.Large
import ScriptSearch.Host.Shell.Arithmetic.Plain

/-! Calculations in a script: expressions over whole numbers of 64 bits and variables. The large shell
knows more operators and other bases, and takes the value of a variable for an expression again. -/

namespace ScriptSearch.Host.Shell.Arithmetic

/-- The result of a text, and what has become of the variables. -/
def evaluate : Dialect → Values → String → Except Fault Int × Values
  | .plain => Plain.evaluate
  | .bash => Large.evaluate

end ScriptSearch.Host.Shell.Arithmetic
