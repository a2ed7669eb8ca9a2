import KernelMaps.Proofs.Interleavings
import KernelMaps.Proofs.OpenBatches

/-!
# Read-only maps

A map that was made read-only stays as it was at that moment. Whatever would
change it is refused before anything is changed, through whichever descriptor,
and what it shows is what it showed before.
-/

namespace KernelMaps

namespace Table

/-! ## A table that is read-only -/

/-- The table, made read-only. -/
def sealed (table : Table) : Table :=
  { table with frozen := true }

/-- Only a table that is not read-only can be edited. -/
theorem Edit.writable
    {table next : Table}
    (edit : table.Edit next) :
    table.frozen = false := by
  cases edit <;> assumption

/-- No series of edits leads away from a read-only table. -/
theorem Edits.eq_of_frozen
    {table next : Table}
    (edits : table.Edits next)
    (frozen : table.frozen = true) :
    next = table := by
  rcases edits.cases_head with same | ⟨between, edit, _⟩
  · exact same.symm
  · rw [edit.writable] at frozen
    cases frozen

section Refusals

variable {table : Table} (frozen : table.frozen = true)

include frozen

theorem update_of_frozen (key value : Bytes) (flags : UInt64) :
    table.update key value flags = .error Errno.notPermitted := by
  rw [update, if_pos frozen]

theorem delete_of_frozen (key : Bytes) :
    table.delete key = .error Errno.notPermitted := by
  rw [delete, if_pos frozen]

theorem freeze_of_frozen : table.freeze = .error Errno.busy := by
  rw [freeze, if_pos frozen]

/-- A batch of writes is refused with its first element. -/
theorem updateBatch_of_frozen
    (flags : UInt64)
    {count : Nat}
    (asks : 0 < count)
    (keys values : Bytes) :
    updateBatch flags count keys values table =
      (⟨some Errno.notPermitted, 0⟩, table) := by
  obtain ⟨count, rfl⟩ := Nat.exists_eq_succ_of_ne_zero (Nat.pos_iff_ne_zero.1 asks)
  rw [updateBatch, update_of_frozen frozen]

/-- A batch of removals is refused with its first element. -/
theorem deleteBatch_of_frozen
    {count : Nat}
    (asks : 0 < count)
    (keys : Bytes) :
    deleteBatch count keys table = (⟨some Errno.notPermitted, 0⟩, table) := by
  obtain ⟨count, rfl⟩ := Nat.exists_eq_succ_of_ne_zero (Nat.pos_iff_ne_zero.1 asks)
  rw [deleteBatch, delete_of_frozen frozen]

/-- A batch that takes entries out is refused as a whole. -/
theorem lookupBatch_of_frozen
    (bucketSize : Option UInt32)
    {query : BatchQuery}
    (removes : query.remove = true) :
    table.lookupBatch bucketSize query =
      (some Errno.notPermitted, ⟨query.count, [], [], []⟩, table) := by
  rw [lookupBatch, if_pos (by simp [removes, frozen])]

end Refusals

/-- A batch that takes nothing out does not depend on the mark of the table. -/
theorem lookupBatch_sealed
    (table : Table)
    (bucketSize : Option UInt32)
    (query : BatchQuery)
    (reads : query.remove = false) :
    let read := table.lookupBatch bucketSize query
    table.sealed.lookupBatch bucketSize query = (read.1, read.2.1, table.sealed) := by
  have entries : table.sealed.entries = table.entries := rfl
  have position : table.sealed.position query.token = table.position query.token := rfl
  simp only [lookupBatch, reads, entries, position, Bool.false_and, Bool.false_eq_true,
    if_false]
  split
  · rfl
  · split
    · rfl
    · split <;> rfl

end Table

namespace Kernel

/-! ## A map that is read-only -/

/-- A step leaves a read-only map as it is. -/
theorem Step.frozen_kept
    {kernel next : Kernel}
    (step : kernel.Step next)
    {place : Nat}
    {table : Table}
    (present : kernel.tables[place]? = some table)
    (frozen : table.frozen = true) :
    next.tables[place]? = some table := by
  cases step with
  | naming naming => exact naming.tables_kept present
  | @edit other edited changed found edits =>
      obtain ⟨bound, _⟩ := List.getElem?_eq_some_iff.1 present
      rw [replace, List.getElem?_set]
      by_cases same : other = place
      · subst same
        cases Option.some.inj (present.symm.trans found)
        rw [if_pos rfl, if_pos bound, edits.eq_of_frozen frozen]
      · rw [if_neg same, present]
  | limitInfo | sizeBuckets => exact present

/-- Whatever happens later, a read-only map stays as it is. -/
theorem Valid.run_frozen
    {kernel : Kernel}
    (valid : kernel.Valid)
    (moves : List Move)
    {place : Nat}
    {table : Table}
    (present : kernel.tables[place]? = some table)
    (frozen : table.frozen = true) :
    (kernel.run moves).tables[place]? = some table := by
  induction moves generalizing kernel with
  | nil => exact present
  | cons move moves inductionHypothesis =>
      have step := after_step valid move
      exact inductionHypothesis (step.valid valid) (step.frozen_kept present frozen)

/-- Through a descriptor, everything that would change the map is refused before
anything is changed. -/
structure RefusesChanges (kernel : Kernel) (descriptor : Descriptor) : Prop where
  update : ∀ key value flags,
    (Kernel.host.update descriptor key value flags).run kernel =
      (.ofErrno Errno.notPermitted, kernel)
  delete : ∀ key,
    (Kernel.host.delete descriptor key).run kernel =
      (.ofErrno Errno.notPermitted, kernel)
  lookupAndDelete : ∀ key buffer,
    (Kernel.host.lookupAndDelete descriptor key buffer).run kernel =
      (⟨.ofErrno Errno.notPermitted, buffer⟩, kernel)
  /-- No element of a batch of writes is done. -/
  updateBatch : ∀ keys values count options, 0 < count →
    (Kernel.host.updateBatch descriptor keys values count options).run kernel =
      ((.ofErrno Errno.notPermitted, 0), kernel)
  /-- No element of a batch of removals is done. -/
  deleteBatch : ∀ keys count options, 0 < count →
    (Kernel.host.deleteBatch descriptor keys count options).run kernel =
      ((.ofErrno Errno.notPermitted, 0), kernel)
  lookupAndDeleteBatch : ∀ (query : BatchQuery) (token keys values : Bytes),
    query.descriptor = descriptor → query.remove = true →
      (Kernel.host.lookupBatch query token keys values).run kernel =
        (⟨.ofErrno Errno.notPermitted, query.count, token, keys, values⟩, kernel)
  freeze : (Kernel.host.freeze descriptor).run kernel = (.ofErrno Errno.busy, kernel)

/-- Through a descriptor, a kernel shows the entries that another kernel shows
through another descriptor. -/
structure ShowsLike
    (kernel : Kernel)
    (descriptor : Descriptor)
    (other : Kernel)
    (otherDescriptor : Descriptor) : Prop where
  lookup : ∀ key buffer flags,
    ((Kernel.host.lookup descriptor key buffer flags).run kernel).1 =
      ((Kernel.host.lookup otherDescriptor key buffer flags).run other).1
  nextKey : ∀ key buffer,
    ((Kernel.host.nextKey descriptor key buffer).run kernel).1 =
      ((Kernel.host.nextKey otherDescriptor key buffer).run other).1
  /-- Batches depend on the size of the buckets, too. -/
  lookupBatch : kernel.bucketSize = other.bucketSize →
    ∀ (query : BatchQuery) (token keys values : Bytes), query.remove = false →
      ((Kernel.host.lookupBatch { query with descriptor } token keys values).run
          kernel).1 =
        ((Kernel.host.lookupBatch { query with descriptor := otherDescriptor }
          token keys values).run other).1

section Open

variable
  {kernel : Kernel}
  {descriptor : Descriptor}
  {place : Nat}
  {table : Table}

theorem refusesChanges_of_frozen
    (opened : kernel.resolve descriptor = .ok (place, table))
    (frozen : table.frozen = true) :
    kernel.RefusesChanges descriptor where
  update := by
    intro key value flags
    rw [run_update_resolved opened, Table.update_of_frozen frozen]
    rfl
  delete := by
    intro key
    rw [run_delete_resolved opened, Table.delete_of_frozen frozen]
    rfl
  lookupAndDelete := by
    intro key buffer
    rw [run_lookupAndDelete_resolved opened, Table.delete_of_frozen frozen]
    rfl
  updateBatch := by
    intro keys values count options asks
    have counts : 0 < count.toNat := UInt32.lt_iff_toNat_lt.1 asks
    rw [run_updateBatch_resolved opened, Table.updateBatch_of_frozen frozen _ counts]
    exact congrArg (Prod.mk _) (replace_self opened)
  deleteBatch := by
    intro keys count options asks
    have counts : 0 < count.toNat := UInt32.lt_iff_toNat_lt.1 asks
    rw [run_deleteBatch_resolved opened, Table.deleteBatch_of_frozen frozen counts]
    exact congrArg (Prod.mk _) (replace_self opened)
  lookupAndDeleteBatch := by
    intro query token keys values through removes
    subst through
    rw [run_lookupBatch_resolved query opened,
      Table.lookupBatch_of_frozen frozen _ removes]
    exact congrArg (Prod.mk _) (replace_self opened)
  freeze := by
    rw [run_freeze_resolved opened, Table.freeze_of_frozen frozen]
    rfl

/-- A map shows the same after it was made read-only. -/
theorem showsLike_of_sealed
    {other : Kernel}
    {otherDescriptor : Descriptor}
    {otherPlace : Nat}
    (opened : kernel.resolve descriptor = .ok (place, table.sealed))
    (otherOpened : other.resolve otherDescriptor = .ok (otherPlace, table)) :
    kernel.ShowsLike descriptor other otherDescriptor where
  lookup := by
    intro key buffer flags
    have same : table.sealed.find? (key.fit table.sealed.keySize) =
        table.find? (key.fit table.keySize) := rfl
    rw [run_lookup_fit opened, run_lookup_fit otherOpened, same]
    cases table.find? (key.fit table.keySize) <;> rfl
  nextKey := by
    intro key buffer
    have same : table.sealed.nextKey (key.map fun key => key.fit table.sealed.keySize) =
        table.nextKey (key.map fun key => key.fit table.keySize) := rfl
    rw [run_nextKey_resolved opened, run_nextKey_resolved otherOpened, same]
    cases table.nextKey (key.map fun key => key.fit table.keySize) <;> rfl
  lookupBatch := by
    intro sameSize query token keys values reads
    have through : table.lookupBatch other.bucketSize { query with descriptor } =
        table.lookupBatch other.bucketSize
          { query with descriptor := otherDescriptor } := rfl
    have unmarked := table.lookupBatch_sealed other.bucketSize
      { query with descriptor } reads
    rw [run_lookupBatch_resolved _ opened, run_lookupBatch_resolved _ otherOpened,
      sameSize, unmarked, through]

/-- Only a map that is not read-only can be made so. -/
theorem run_freeze_accepted
    (opened : kernel.resolve descriptor = .ok (place, table))
    (freezes : ((Kernel.host.freeze descriptor).run kernel).1 = .ok) :
    table.frozen = false ∧
      ((Kernel.host.freeze descriptor).run kernel).2 =
        kernel.replace place table.sealed := by
  rw [run_freeze_resolved opened] at freezes ⊢
  cases frozen : table.frozen with
  | true =>
      rw [Table.freeze_of_frozen frozen] at freezes
      have busy : Status.ofOutcome (outcomeOf (some Errno.busy)) = .ok := freezes
      exact absurd busy (by decide)
  | false =>
      rw [Table.freeze, if_neg (by simp [frozen])]
      exact ⟨rfl, rfl⟩

end Open

/-- A map that was made read-only is so for good. Whatever happens later, its
entries stay as they are. Through every descriptor that is open for it, changes
are refused, and reads give what they gave just before. -/
theorem freeze_is_final
    {kernel : Kernel}
    (valid : kernel.Valid)
    {descriptor : Descriptor}
    {place : Nat}
    {table : Table}
    (opened : kernel.resolve descriptor = .ok (place, table))
    (freezes : ((Kernel.host.freeze descriptor).run kernel).1 = .ok)
    (moves : List Move) :
    let later := ((Kernel.host.freeze descriptor).run kernel).2.run moves
    later.tables[place]? = some { table with frozen := true } ∧
      ∀ other, later.descriptors.lookup other = some place →
        later.RefusesChanges other ∧ later.ShowsLike other kernel descriptor := by
  obtain ⟨writable, frozenKernel⟩ := run_freeze_accepted opened freezes
  rw [frozenKernel]
  intro later
  have present := (resolve_eq_ok_iff.1 opened).2
  have sealedValid : (kernel.replace place table.sealed).Valid :=
    valid.replace present ((Table.Edit.freeze writable).valid (valid.tableAt present)) rfl
  have sealedPresent := (resolve_eq_ok_iff.1 (resolve_replace opened table.sealed)).2
  have kept : later.tables[place]? = some table.sealed :=
    sealedValid.run_frozen moves sealedPresent rfl
  refine ⟨kept, ?_⟩
  intro other through
  have resolved : later.resolve other = .ok (place, table.sealed) :=
    resolve_eq_ok_iff.2 ⟨through, kept⟩
  exact ⟨refusesChanges_of_frozen resolved rfl, showsLike_of_sealed resolved opened⟩

/-- After a map with three entries was made read-only: two attempts to change it,
and two more ways to it, while the first descriptor is closed. -/
def movesAfterFreeze : List Move :=
  [.call (.update 101 [4] [14] 0),
    .call (.pin 101 "/sys/fs/bpf/sealed"),
    .call (.openId 1000),
    .call (.close 101),
    .call (.lookupBatch { remove := true, descriptor := 102, token := none, count := 2 }),
    .call (.openPath "/sys/fs/bpf/sealed")]

theorem freeze_is_final_threeEntries :
    let later := ((Kernel.host.freeze 101).run threeEntries).2.run movesAfterFreeze
    threeEntries.resolve 101 = .ok (0, threeEntriesTable) ∧
      ((Kernel.host.freeze 101).run threeEntries).1 = .ok ∧
      later.descriptors.map Prod.fst = [103, 102] ∧
      later.tables[0]? = some { threeEntriesTable with frozen := true } ∧
      later.RefusesChanges 103 ∧ later.ShowsLike 103 threeEntries 101 := by
  intro later
  have opened : threeEntries.resolve 101 = .ok (0, threeEntriesTable) := by
    decide +kernel
  have freezes : ((Kernel.host.freeze 101).run threeEntries).1 = .ok := by
    decide +kernel
  obtain ⟨kept, throughAll⟩ :=
    freeze_is_final (valid_empty.run _) opened freezes movesAfterFreeze
  obtain ⟨refuses, shows⟩ := throughAll 103 (by decide +kernel)
  exact ⟨opened, freezes, by decide +kernel, kept, refuses, shows⟩

end Kernel
end KernelMaps
