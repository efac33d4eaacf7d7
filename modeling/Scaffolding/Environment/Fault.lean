import Scaffolding.Disk.Fault
import Scaffolding.Failure

/-!
# Faults in a file of assignments

A fault is a problem like others, and can be told with its causes.  Loading a file can also come to
no answer at all.
-/

namespace Scaffolding.Environment

/-- Why a file of assignments could not be loaded. -/
inductive Fault where
  /-- A line makes no sense from the given index on. -/
  | line (text : String) (index : Nat)
  /-- The file could not be read. -/
  | unreadable (fault : SystemFault)
  deriving DecidableEq, Repr

namespace Fault

/-- A fault in one line. -/
def message : Fault → String
  | .line text index =>
    "Error parsing line: '" ++ text ++ "', error at line index: " ++ toString index
  | .unreadable fault => fault.message

/-- What brought a fault about. -/
def causes : Fault → List String
  | .line .. => []
  | .unreadable fault => [fault.message]

end Fault

/-- Why loading a file of assignments comes to no end. -/
inductive Halt where
  /-- The file makes no sense or cannot be read. -/
  | fault (fault : Fault)
  /-- Whoever loads it breaks off. -/
  | crash (crash : Crash)
  deriving DecidableEq, Repr

end Scaffolding.Environment
