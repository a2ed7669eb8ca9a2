import KernelMaps.Proofs.Cursors
import KernelMaps.Proofs.Edits
import KernelMaps.Proofs.Operations

/-!
# Reading batches through open descriptors

A batch that asks for entries is served, unless it is smaller than the bucket that
comes next, or would take entries out of a map that is read-only. A served batch
leaves its entries at the start of the lent buffers, from which a client can cut
them.
-/

namespace KernelMaps

namespace Table

/-- A batch that is too small for the bucket that comes next. -/
theorem lookupBatch_of_overflows
    {table : Table}
    {bucketSize : Option UInt32}
    {query : BatchQuery}
    (writable : query.remove = true → table.frozen = false)
    (asks : query.count ≠ 0)
    (lends : query.lendsToken = true)
    (overflows : overflowsBatch bucketSize query.count = true)
    (remains : table.position query.token < table.entries.length) :
    table.lookupBatch bucketSize query =
      (some Errno.noSpace, ⟨0, [], [], []⟩, table) := by
  have available : 0 < table.entries.length - table.position query.token := by
    omega
  unfold lookupBatch
  rw [if_neg (by simpa using writable), if_neg asks, if_neg (by simp [lends])]
  simp [overflows, available]

/-- A batch that asks for no entries is given none, and no token. -/
theorem lookupBatch_of_empty
    {table : Table}
    {query : BatchQuery}
    (writable : query.remove = true → table.frozen = false)
    (empty : query.count = 0)
    (bucketSize : Option UInt32) :
    table.lookupBatch bucketSize query = (none, ⟨0, [], [], []⟩, table) := by
  rw [lookupBatch, if_neg (by simpa using writable), if_pos empty, empty]

/-- A batch that asks for entries is served, or it is too small. -/
theorem serves_or_overflows
    (table : Table)
    (bucketSize : Option UInt32)
    (query : BatchQuery)
    (writable : query.remove = true → table.frozen = false)
    (asks : query.count ≠ 0)
    (lends : query.lendsToken = true) :
    table.Serves bucketSize query ∨
      overflowsBatch bucketSize query.count = true ∧
        table.position query.token < table.entries.length ∧
        table.lookupBatch bucketSize query =
          (some Errno.noSpace, ⟨0, [], [], []⟩, table) := by
  by_cases fits : overflowsBatch bucketSize query.count = true →
      table.entries.length ≤ table.position query.token
  · exact Or.inl ⟨writable, asks, lends, fits⟩
  · obtain ⟨overflows, notEnded⟩ := Classical.not_imp.1 fits
    have remains := Nat.lt_of_not_le notEnded
    exact Or.inr ⟨overflows, remains,
      lookupBatch_of_overflows writable asks lends overflows remains⟩

theorem batchError_eq_none_or (table : Table) (query : BatchQuery) :
    table.batchError query = none ∨ table.batchError query = some Errno.noEntry := by
  unfold batchError
  split
  · exact Or.inr rfl
  · exact Or.inl rfl

/-- A batch that takes nothing out leaves the table as it is. -/
theorem afterBatch_of_reads
    (table : Table)
    {query : BatchQuery}
    (reads : query.remove = false) :
    table.afterBatch query = table := by
  rw [afterBatch, if_neg (by simp [reads])]

/-- The token for a position leads there, as far as a token can count. -/
theorem position_littleEndian
    {table : Table}
    {position : Nat}
    (within : position ≤ table.entries.length)
    (small : position < Bytes.capacity tokenWidth)
    (width : Nat) :
    table.position
      (some (Bytes.padded width (Bytes.littleEndian tokenWidth position))) =
      position := by
  rw [position_eq_min, tokenPosition_littleEndian small]
  exact Nat.min_eq_left within

/-- No table holds more entries than a token can count. -/
theorem Valid.length_lt_tokens
    {table : Table}
    (valid : table.Valid) :
    table.entries.length < Bytes.capacity tokenWidth :=
  Nat.lt_of_le_of_lt valid.bounded table.spec.maxEntries.toNat_lt

/-- The count that a served batch leaves is the number of its entries. -/
theorem toNat_count_batchLeft (table : Table) (query : BatchQuery) :
    (table.batchLeft query).count.toNat = (table.batchOf query).length := by
  have short : (table.batchOf query).length ≤ query.count.toNat := by
    rw [length_batchOf]
    exact Nat.min_le_right _ _
  exact UInt32.toNat_ofNat_of_lt (Nat.lt_of_le_of_lt short query.count.toNat_lt)

/-- The entries of a batch are cut from the buffers that start with them. -/
theorem Valid.cut_batch
    {table : Table}
    (valid : table.Valid)
    (query : BatchQuery)
    (keysRest valuesRest : Bytes) :
    (Bytes.pieces table.keySize (table.batchOf query).length
        ((table.batchLeft query).keys ++ keysRest)).zip
      (Bytes.pieces table.valueSize (table.batchOf query).length
        ((table.batchLeft query).values ++ valuesRest)) =
      table.batchOf query := by
  have member : ∀ entry ∈ table.batchOf query, entry ∈ table.entries :=
    fun entry present => (table.batchOf_sublist query).subset present
  have keyWidths : ∀ entry ∈ table.batchOf query, entry.1.length = table.keySize :=
    fun entry present => valid.keyWidth entry (member entry present)
  have valueWidths : ∀ entry ∈ table.batchOf query,
      entry.2.length = table.valueSize :=
    fun entry present => valid.valueWidth entry (member entry present)
  have parts := List.zip_unzip (table.batchOf query)
  rw [List.unzip_eq_map] at parts
  rw [batchLeft, Bytes.pieces_packed_append keyWidths,
    Bytes.pieces_packed_append valueWidths]
  exact parts

end Table

namespace Cursor

/-- A cursor after a batch: it takes over the token of a success. -/
def adopt (cursor : Cursor) (reply : BatchReply) : Cursor :=
  if reply.status.isOk then (cursor.advance? reply.token).getD cursor else cursor

theorem run_read_of_replied
    {host : Host σ}
    {cursor : Cursor}
    {remove : Bool}
    {descriptor : Descriptor}
    {count : UInt32}
    {options : BatchOptions}
    {keys values : Bytes}
    {state after : σ}
    {reply : BatchReply}
    (replied : (host.lookupBatch (cursor.query remove descriptor count options)
      cursor.scratch keys values).run state = (reply, after)) :
    (cursor.read host remove descriptor count options keys values).run state =
      ((reply, cursor.adopt reply), after) := by
  rw [read, Action.run_bind, replied, adopt]
  split <;> rfl

/-- Whatever it is given, a cursor stays as wide as it is. -/
theorem width_adopt (cursor : Cursor) (reply : BatchReply) :
    (cursor.adopt reply).width = cursor.width := by
  rw [adopt, advance?]
  split
  · split <;> rfl
  · rfl

end Cursor

namespace Kernel

/-- A reading batch through an open descriptor. -/
theorem run_issue_lookupBatch
    {kernel : Kernel}
    (query : BatchQuery)
    {place : Nat}
    {table : Table}
    (opened : kernel.resolve query.descriptor = .ok (place, table)) :
    (Kernel.host.issue (.lookupBatch query)).run kernel =
      let read := table.lookupBatch kernel.bucketSize query
      (⟨outcomeOf read.1, read.2.1⟩, kernel.replace place read.2.2) := by
  rw [run_issue, answer_resolved rfl opened]
  rfl

/-- What a client is given for a reading batch that ended like this, with its
buffers. -/
def batchReplyOf
    (error : Option Errno)
    (left : BatchLeft)
    (token keys values : Bytes) : BatchReply where
  status := .ofOutcome (outcomeOf error)
  count := left.count
  token := Bytes.overlay left.token token
  keys := Bytes.overlay left.keys keys
  values := Bytes.overlay left.values values

theorem run_lookupBatch_resolved
    {kernel : Kernel}
    (query : BatchQuery)
    {place : Nat}
    {table : Table}
    (opened : kernel.resolve query.descriptor = .ok (place, table))
    (token keys values : Bytes) :
    (Kernel.host.lookupBatch query token keys values).run kernel =
      let read := table.lookupBatch kernel.bucketSize query
      (batchReplyOf read.1 read.2.1 token keys values,
        kernel.replace place read.2.2) := by
  rw [Host.lookupBatch, Action.run_bind, run_issue_lookupBatch query opened]
  rfl

end Kernel
end KernelMaps
