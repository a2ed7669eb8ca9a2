import KernelMaps.Panic
import KernelMaps.SystemError

/-!
# Statuses

A status holds the outcome of one call in a signed 32-bit word: a success as the number returned,
a failure as the negated number of the system error.
-/

namespace KernelMaps

/-- A failing call: the number it returned, and the error. -/
structure Failure where
  code : Int64
  error : SystemError
  deriving DecidableEq, Repr

/-- A call that failed with a system error, in the usual way. -/
def Failure.ofErrno (errno : Errno) : Failure :=
  ⟨-1, .os errno⟩

/-- What a call returned: a 64-bit number, or a failure. -/
abbrev Outcome := Except Failure Int64

/-- The outcome of one call in one word. -/
inductive Status
  | word (value : Int32)
  /-- The negated error number is no word, and the program stops before there is a status. -/
  | overflowed
  deriving DecidableEq, Repr

namespace Status

/-- Success with nothing to tell. -/
def ok : Status :=
  word 0

/-- The status of a failure with the given error number, of either sign. -/
def ofErrno (errno : Errno) : Status :=
  if errno = Int32.minValue then word (-Int32.maxValue)
  else if 0 ≤ errno then word (-errno)
  else word errno

/--
The status of an outcome: the low half of the number returned, or the negated error number, which
is that of an input/output error when there is none.
-/
def ofOutcome : Outcome → Status
  | .ok returned => word returned.toInt32
  | .error failure =>
      match Checked.negate (failure.error.errno?.getD Errno.inputOutput) with
      | .ok value => word value
      | .error _ => overflowed

/-- The word of a status. -/
def value : Status → Checked Int32
  | word value => .ok value
  | overflowed => .error .overflow

/-- Whether the call succeeded. -/
def isOk : Status → Bool
  | word value => 0 ≤ value
  | overflowed => false

/-- The error number of a failure. -/
def errno? (status : Status) : Checked (Option Errno) := do
  let value ← status.value
  if value < 0 then
    let errno ← Checked.negate value
    pure (some errno)
  else pure none

/-- Whether the call failed with the given error number. -/
def isErrno (status : Status) (errno : Errno) : Checked Bool := do
  let failed ← status.errno?
  pure (failed == some errno)

/-- The number of a success, or the error number of a failure. -/
def toResult (status : Status) : Checked (Except Errno UInt32) := do
  match ← status.errno? with
  | some errno => pure (.error errno)
  | none => do
      let value ← status.value
      pure (.ok value.toUInt32)

/-- The written form: the number, and the wording of a failure. -/
def toText (status : Status) : Checked String := do
  let value ← status.value
  match ← status.errno? with
  | some errno => pure (toString value ++ " (" ++ (SystemError.os errno).message ++ ")")
  | none => pure (toString value)

end Status
end KernelMaps
