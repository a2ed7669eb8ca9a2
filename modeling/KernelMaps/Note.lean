import KernelMaps.Call
import KernelMaps.HandleError

/-!
# Notes

What is worth telling beside the answers: refused calls, opened maps, grown batches and maps that
had to be left out.
-/

namespace KernelMaps

/-- Something worth telling. -/
inductive Note
  /-- The kernel refused a command. -/
  | refused (command : UInt32) (failure : Failure)
  /-- The kernel did not take a descriptor back. -/
  | closeRefused (descriptor : Descriptor) (failure : Failure)
  /-- A map was opened and its metadata were read. -/
  | opened (id : UInt32) (descriptor : Descriptor) (mapType : UInt32)
  /-- A batch is asked for again, with more room. -/
  | retrying (chunk : UInt32)
  /-- A map was left out of a list. -/
  | skipped (id : UInt32) (error : HandleError)
  deriving DecidableEq, Repr

namespace Note

/-- How urgent a note is. -/
inductive Level
  | debug
  | warning
  deriving DecidableEq, Repr

/-- The written form of a level. -/
def Level.label : Level → String
  | debug => "DEBUG"
  | warning => "WARN"

/-- How urgent each note is. -/
def level : Note → Level
  | refused .. | opened .. | retrying _ => .debug
  | closeRefused .. | skipped .. => .warning

/-- The number a failing call returned, and the wording of its error. -/
def failureText (failure : Failure) : String :=
  toString failure.code ++ ": " ++ failure.error.message

/-- The wording of a note. -/
def message : Note → String
  | refused command failure =>
      "bpf command " ++ toString command ++ " returned " ++ failureText failure
  | closeRefused descriptor failure =>
      "close of descriptor " ++ toString descriptor ++ " returned " ++ failureText failure
  | opened id descriptor mapType =>
      "opened map " ++ toString id ++ " (valid: " ++ toString descriptor ++ ") type " ++
        toString mapType
  | retrying chunk => "bucket exceeds batch chunk, retrying with " ++ toString chunk
  | skipped id error => "skipping map id " ++ toString id ++ ": " ++ error.detail

/-- A note with its level. -/
def toText (note : Note) : String :=
  note.level.label ++ " " ++ note.message

end Note
end KernelMaps
