import KernelMaps.Proofs.BatchLoop
import KernelMaps.Proofs.Drains
import KernelMaps.Proofs.Freezing

/-!
# The counts of batches

A batch call says how many elements it got through, also when it fails on the way. Only a
call that is turned away before its first element leaves the count that was asked for:
one through a descriptor that is not open, and one that would take entries out of a map
that is read-only. All this holds as long as the offsets of the elements in their packed
arrays are 32-bit words; at the first that is none the kernel stops.
-/

namespace KernelMaps

namespace Table

/-! ## Writing batches -/

/-- The first elements of a batch are written one after the other, up to its end or to
one that is refused: how many there are, and the table after them. -/
inductive Writes (write : α → Table → Except Errno Table) :
    List α → Table → Nat → Table → Prop
  | finished (table : Table) : Writes write [] table 0 table
  | refused
      {element : α}
      {table : Table}
      {errno : Errno}
      (refused : write element table = .error errno)
      (later : List α) :
      Writes write (element :: later) table 0 table
  | accepted
      {element : α}
      {later : List α}
      {table next last : Table}
      {done : Nat}
      (accepted : write element table = .ok next)
      (rest : Writes write later next done last) :
      Writes write (element :: later) table (done + 1) last

end Table

namespace Kernel

/-! ## Batches on a kernel -/

/-- What a writing batch gets through: nothing if its descriptor is not open, or else
the first of the elements for the map behind it. -/
inductive Writes
    (kernel : Kernel)
    (descriptor : Descriptor)
    (write : α → Table → Except Errno Table)
    (elements : Table → List α) : Nat → Kernel → Prop
  | unopened
      {errno : Errno}
      (unresolved : kernel.resolve descriptor = .error errno) :
      kernel.Writes descriptor write elements 0 kernel
  | opened
      {place done : Nat}
      {table next : Table}
      (resolved : kernel.resolve descriptor = .ok (place, table))
      (writes : Table.Writes write (elements table) table done next) :
      kernel.Writes descriptor write elements done (kernel.replace place next)

/-- What the kernel leaves for a reading batch, and what becomes of it. -/
theorem run_lookupBatch
    (kernel : Kernel)
    (query : BatchQuery)
    (token keys values : Bytes) :
    (Kernel.host.lookupBatch query token keys values).run kernel =
      let read := kernel.lookupBatch query
      (batchReplyOf read.1 read.2.1 token keys values, read.2.2) := by
  rw [Host.lookupBatch, Action.run_bind, run_issue]
  rfl

end Kernel
end KernelMaps
