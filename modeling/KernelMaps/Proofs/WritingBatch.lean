import KernelMaps.Kernel.Basic
import Mathlib.Data.List.Basic

/-!
# Writing batches

A writing batch stops at the first element that is refused, and the count that
it leaves is the number of elements before that one.
-/

namespace KernelMaps
namespace Table

/-- A batch of `count` elements can end like this. -/
structure BatchEnd.Of (stop : BatchEnd) (count : Nat) : Prop where
  done_le : stop.done ≤ count
  /-- A batch that nothing stopped is done. -/
  done_eq : stop.error = none → stop.done = count

theorem BatchEnd.Of.succ
    {stop : BatchEnd}
    {count : Nat}
    (ends : stop.Of count) :
    stop.succ.Of (count + 1) where
  done_le := Nat.succ_le_succ ends.done_le
  done_eq := fun finished => congrArg Nat.succ (ends.done_eq finished)

/-- A batch whose first element is refused. -/
theorem BatchEnd.of_refused (errno : Errno) (count : Nat) :
    BatchEnd.Of ⟨some errno, 0⟩ count where
  done_le := Nat.zero_le count
  done_eq := by simp

theorem updateBatch_ends
    (flags : UInt64)
    (count : Nat)
    (keys values : Bytes)
    (table : Table) :
    (updateBatch flags count keys values table).1.Of count := by
  induction count generalizing keys values table with
  | zero => exact ⟨Nat.le_refl 0, fun _ => rfl⟩
  | succ count inductionHypothesis =>
      unfold updateBatch
      split
      · exact BatchEnd.of_refused _ _
      · exact (inductionHypothesis _ _ _).succ

theorem deleteBatch_ends
    (count : Nat)
    (keys : Bytes)
    (table : Table) :
    (deleteBatch count keys table).1.Of count := by
  induction count generalizing keys table with
  | zero => exact ⟨Nat.le_refl 0, fun _ => rfl⟩
  | succ count inductionHypothesis =>
      unfold deleteBatch
      split
      · exact BatchEnd.of_refused _ _
      · exact (inductionHypothesis _ _).succ

end Table

namespace Kernel

/-- The count that is left is the number of elements that were done. -/
theorem leftCount_toNat
    {count : UInt32}
    {stop : Table.BatchEnd}
    (ends : stop.Of count.toNat) :
    (leftCount count stop).toNat = stop.done := by
  unfold leftCount
  split
  · rename_i finished
    exact (ends.done_eq finished).symm
  · exact UInt32.toNat_ofNat_of_lt
      (Nat.lt_of_le_of_lt ends.done_le count.toNat_lt)

end Kernel
end KernelMaps
