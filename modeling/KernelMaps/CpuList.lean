import KernelMaps.Panic
import KernelMaps.Text.Blank
import KernelMaps.Text.Numeral
import KernelMaps.Text.Quoted

/-!
# Lists of processors

A list such as `0-3,8`: numbers and ranges between commas, of which empty ones are passed over.
The count adds up the sizes of the ranges as 64-bit words, and stops the program when it leaves
them.
-/

namespace KernelMaps
namespace CpuList

/-- Why a text is no list of processors. -/
inductive Error
  /-- A range is no pair of numerals in order; a faulty numeral is the cause. -/
  | badRange (range : String) (cause : Option Text.NumeralError)
  | empty
  deriving DecidableEq, Repr

/-- The wording of a fault, followed by that of its cause. -/
def Error.chain : Error → List String
  | badRange range cause =>
      ("invalid cpu range " ++ Text.quote range) :: (cause.map Text.NumeralError.message).toList
  | empty => ["empty cpu list"]

/-- The two ends of a range; a single number is both. -/
def ends (range : List Char) : List Char × List Char :=
  match range.span (· != '-') with
  | (first, '-' :: last) => (first, last)
  | _ => (range, range)

/-- The greatest number of a 64-bit word. -/
def wordLimit : Nat :=
  UInt64.size - 1

/-- Read one end of a range. -/
def readEnd (range numeral : List Char) : Except Error UInt64 :=
  match Text.Numeral.read wordLimit numeral with
  | .ok number => .ok (UInt64.ofNat number)
  | .error cause => .error (.badRange (String.ofList range) (some cause))

/-- The number of processors in a range, as a 64-bit word. -/
def rangeSize (range : List Char) : ExceptT Error Checked UInt64 := do
  let first ← ofExcept (readEnd range (ends range).1)
  let last ← ofExcept (readEnd range (ends range).2)
  if first ≤ last then Checked.word (last.toNat - first.toNat + 1)
  else throw (.badRange (String.ofList range) none)

/-- The ranges of a list that are not empty. -/
def ranges (text : List Char) : List (List Char) :=
  ((Text.trim text).splitOn ',').filter fun range => !range.isEmpty

/-- Add the sizes of ranges to a number, as 64-bit words. -/
def addSizes : UInt64 → List (List Char) → ExceptT Error Checked UInt64
  | total, [] => pure total
  | total, range :: rest => do
      let size ← rangeSize range
      let total ← Checked.word (total.toNat + size.toNat)
      addSizes total rest

/-- The number of processors in a list, which is not zero. -/
def count (text : String) : Checked (Except Error UInt64) :=
  ExceptT.run do
    let total ← addSizes 0 (ranges text.toList)
    if 0 < total then pure total else throw .empty

end CpuList
end KernelMaps
