import Relational.Calendar
import Relational.Rejection

/-!
# What can go wrong

Every way in which an operation can fail. A refusal says what is wrong with a request, a rejection which rule a
change would break. A fault is a condition that nothing in the program looks for, such as a number too large to
convert; at the edge of the program it is reported as an internal error.
-/

namespace Relational

open Text

/-- Values that cannot be read or converted. -/
inductive ValueFault where
  | integer (text : String)
  | notANumber
  | places
  | action (text : String)
  | moment (error : Calendar.ReadError)
  | request
  deriving Repr, DecidableEq

/-- A value fault in words. -/
def ValueFault.message : ValueFault → String
  | .integer text => "not an integer: " ++ display text
  | .notANumber => "not a number"
  | .places => "too many decimal places"
  | .action text => display text ++ " is not a valid CascadeAction"
  | .moment error => error.message
  | .request => "not a request that can be sent"

/-- Conditions that nothing in the program looks for: a value that cannot be read, a number beyond the range, a
document without an entry it has to have or with one of the wrong shape, a position outside a list. -/
inductive Fault where
  | value (fault : ValueFault)
  | overflow
  | missingKey (key : String)
  | position
  | malformed
  deriving Repr, DecidableEq

/-- A fault in words. -/
def Fault.message : Fault → String
  | .value fault => fault.message
  | .overflow => "number out of range"
  | .missingKey key => display key
  | .position => "position out of range"
  | .malformed => "malformed document"

/-- Why an operation failed. -/
inductive Failure where
  | refusal (cause : Refusal)
  | rejection (cause : Rejection)
  | fault (cause : Fault)
  deriving Repr, DecidableEq

/-- A failure in words. -/
def Failure.message : Failure → String
  | .refusal cause => cause.message
  | .rejection cause => cause.message
  | .fault cause => cause.message

/-- Refuses. -/
def refuse {α : Type} (cause : Refusal) : Except Failure α :=
  .error (.refusal cause)

/-- Rejects. -/
def reject {α : Type} (cause : Rejection) : Except Failure α :=
  .error (.rejection cause)

/-- Fails with a fault. -/
def fail {α : Type} (cause : Fault) : Except Failure α :=
  .error (.fault cause)

/-- Succeeds on the names of tables, columns, constraints and indexes. -/
def checkName (name : String) : Except Failure Unit :=
  match Name.fault? name with
  | some fault => refuse (.name name fault)
  | none => .ok ()

end Relational
