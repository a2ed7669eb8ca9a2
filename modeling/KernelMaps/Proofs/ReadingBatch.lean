import KernelMaps.Kernel.Batch
import Mathlib.Data.List.Basic

/-!
# Reading batches

A reading batch is either served or it reads nothing. Whether it is served
depends on the request, on the mark of the table and on the size of a bucket;
a served batch is a range of the entries.
-/

namespace KernelMaps
namespace Table

/-- The entries that a reading batch asks for. -/
def batchOf (table : Table) (query : BatchQuery) : Entries :=
  (table.entries.drop (table.position query.token)).take query.count.toNat

/-- A reading batch is served. -/
structure Serves
    (table : Table)
    (bucketSize : Option UInt32)
    (query : BatchQuery) : Prop where
  /-- Entries are taken out only of a table that is not read-only. -/
  writable : query.remove = true → table.frozen = false
  asks : query.count ≠ 0
  lends : query.lendsToken = true
  /-- The batch holds a bucket, or there is nothing left to read. -/
  fits : overflowsBatch bucketSize query.count = true →
    table.entries.length ≤ table.position query.token

/-- The position at which the batch after this one starts. -/
def resumeAt (table : Table) (query : BatchQuery) : Nat :=
  if query.remove then table.position query.token
  else table.position query.token + (table.batchOf query).length

/-- What a served batch leaves in the client's memory. -/
def batchLeft (table : Table) (query : BatchQuery) : BatchLeft where
  count := UInt32.ofNat (table.batchOf query).length
  token := Bytes.littleEndian tokenWidth (table.resumeAt query)
  keys := (table.batchOf query).flatMap Prod.fst
  values := (table.batchOf query).flatMap Prod.snd

/-- The error of a served batch: the end of the table, if it was reached. -/
def batchError (table : Table) (query : BatchQuery) : Option Errno :=
  if table.position query.token + (table.batchOf query).length =
      table.entries.length then some Errno.noEntry
  else none

/-- What a served batch makes of the table. -/
def afterBatch (table : Table) (query : BatchQuery) : Table :=
  if query.remove then
    { table with
      entries := dropRange (table.position query.token)
        (table.position query.token + (table.batchOf query).length)
        table.entries }
  else table

theorem position_le (table : Table) (token : Option Bytes) :
    table.position token ≤ table.entries.length :=
  Nat.min_le_right _ _

theorem length_batchOf (table : Table) (query : BatchQuery) :
    (table.batchOf query).length =
      min (table.entries.length - table.position query.token)
        query.count.toNat := by
  rw [batchOf, List.length_take, List.length_drop, Nat.min_comm]

theorem take_length_batchOf (table : Table) (query : BatchQuery) :
    (table.entries.drop (table.position query.token)).take
      (table.batchOf query).length = table.batchOf query := by
  rw [length_batchOf, ← List.length_drop, batchOf, List.take_eq_take_iff]
  omega

theorem batchOf_sublist (table : Table) (query : BatchQuery) :
    (table.batchOf query).Sublist table.entries :=
  (List.take_sublist _ _).trans (List.drop_sublist _ _)

theorem lookupBatch_of_serves
    {table : Table}
    {bucketSize : Option UInt32}
    {query : BatchQuery}
    (serves : table.Serves bucketSize query) :
    table.lookupBatch bucketSize query =
      (table.batchError query, table.batchLeft query, table.afterBatch query) := by
  have start := table.position_le query.token
  have number := table.length_batchOf query
  have writable : (query.remove && table.frozen) = false := by
    cases removes : query.remove with
    | false => rfl
    | true => simpa using serves.writable removes
  have fits : (overflowsBatch bucketSize query.count &&
      decide (0 < table.entries.length - table.position query.token)) = false := by
    cases overflows : overflowsBatch bucketSize query.count with
    | false => rfl
    | true =>
        have nothing := serves.fits overflows
        simp only [Bool.true_and, decide_eq_false_iff_not]
        omega
  unfold lookupBatch
  rw [if_neg (by simp [writable]), if_neg serves.asks,
    if_neg (by simp [serves.lends])]
  simp only [fits, Bool.false_eq_true, if_false, ← number, take_length_batchOf]
  refine congrArg₂ Prod.mk ?_ rfl
  unfold batchError
  refine if_congr ?_ rfl rfl
  omega

/-- A batch that is not served reads nothing and changes nothing. -/
theorem lookupBatch_of_not_serves
    {table : Table}
    {bucketSize : Option UInt32}
    {query : BatchQuery}
    (refused : ¬table.Serves bucketSize query) :
    ∃ error count, table.lookupBatch bucketSize query =
      (error, ⟨count, [], [], []⟩, table) := by
  unfold lookupBatch
  split
  · exact ⟨_, _, rfl⟩
  · rename_i writable
    split
    · exact ⟨_, _, rfl⟩
    · rename_i asks
      split
      · exact ⟨_, _, rfl⟩
      · rename_i lends
        simp only
        split
        · exact ⟨_, _, rfl⟩
        · rename_i fits
          refine absurd ?_ refused
          refine ⟨?_, asks, by simpa using lends, ?_⟩
          · intro removes
            simpa [removes] using writable
          · intro overflows
            simp only [overflows, Bool.true_and, decide_eq_true_eq] at fits
            omega

/-- What a reading batch comes to: it copied the entries from the position of its token up
to some place, of which neither lies past the end, and the entries that are left are all
of them or all but these. -/
def ReadsRange
    (table : Table)
    (query : BatchQuery)
    (read : Option Errno × BatchLeft × Table) : Prop :=
  let start := table.position query.token
  ∃ stop, start ≤ stop ∧ stop ≤ table.entries.length ∧ stop - start ≤ query.count.toNat ∧
    read.2.1.keys = ((table.entries.drop start).take (stop - start)).flatMap Prod.fst ∧
    read.2.1.values = ((table.entries.drop start).take (stop - start)).flatMap Prod.snd ∧
    read.2.2.entries =
      if query.remove then dropRange start stop table.entries else table.entries

theorem lookupBatch_readsRange
    (table : Table)
    (bucketSize : Option UInt32)
    (query : BatchQuery) :
    table.ReadsRange query (table.lookupBatch bucketSize query) := by
  have within := table.position_le query.token
  have number := table.length_batchOf query
  by_cases serves : table.Serves bucketSize query
  · rw [lookupBatch_of_serves serves]
    refine ⟨table.position query.token + (table.batchOf query).length,
      Nat.le_add_right _ _, by omega, by omega, ?keys, ?values, ?left⟩
    case keys =>
      rw [Nat.add_sub_cancel_left, take_length_batchOf]
      rfl
    case values =>
      rw [Nat.add_sub_cancel_left, take_length_batchOf]
      rfl
    case left =>
      simp only [afterBatch]
      split <;> rfl
  · obtain ⟨error, count, read⟩ := lookupBatch_of_not_serves serves
    rw [read]
    refine ⟨table.position query.token, Nat.le_refl _, within, ?_⟩
    rw [Nat.sub_self, dropRange, List.take_append_drop, ite_self]
    exact ⟨Nat.zero_le _, rfl, rfl, rfl⟩

end Table
end KernelMaps
