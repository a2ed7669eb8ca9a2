/-!
# Panics

Where the program stops instead of going on: a number leaves the word that it is kept in, a
buffer is longer than memory can be, or a buffer is cut into pieces of no size.
-/

namespace KernelMaps

/-- Why the program stops. -/
inductive Panic
  /-- A number leaves its word. -/
  | overflow
  /-- A buffer is longer than memory can be. -/
  | capacity
  /-- A buffer is cut into pieces of no size. -/
  | indivisible
  deriving DecidableEq, Repr

/-- The wording of a panic. -/
def Panic.message : Panic → String
  | overflow => "arithmetic overflow"
  | capacity => "capacity overflow"
  | indivisible => "chunk size must be non-zero"

/-- A value, unless the program stops before it has one. -/
abbrev Checked (α : Type) := Except Panic α

namespace Checked

/-- A number as a 64-bit word. -/
def word (number : Nat) : Checked UInt64 :=
  if number < UInt64.size then .ok (UInt64.ofNat number) else .error .overflow

/-- The negation of a word, which the least word does not have. -/
def negate (value : Int32) : Checked Int32 :=
  if value = Int32.minValue then .error .overflow else .ok (-value)

/-- The greatest length of a buffer. -/
def longestBuffer : Nat :=
  Int64.maxValue.toNatClampNeg

/-- Make a buffer of some length. -/
def buffer (length : Nat) : Checked Unit :=
  if length ≤ longestBuffer then .ok () else .error .capacity

end Checked
end KernelMaps
