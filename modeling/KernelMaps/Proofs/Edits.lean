import KernelMaps.Proofs.Entries
import KernelMaps.Proofs.ReadingBatch
import KernelMaps.Proofs.Response
import Mathlib.Logic.Relation

/-!
# Edits of a table

Whatever a call makes of a table is a series of four kinds of edits, each of
which needs a table that is not read-only. A table is valid when its sizes are
positive and its entries fit them, and every edit keeps it valid.
-/

namespace KernelMaps

/-- A success of a mapped computation is the image of a success. -/
theorem Except.map_eq_ok
    {computation : Except ε α}
    {function : α → β}
    {image : β}
    (mapped : computation.map function = .ok image) :
    ∃ value, computation = .ok value ∧ function value = image := by
  cases computation with
  | error failure => cases mapped
  | ok value => exact ⟨value, rfl, Except.ok.inj mapped⟩

namespace Table

/-! ## Accepted changes -/

/-- A key is there already, or there is room for one more entry. -/
def HasRoom (table : Table) (key : Bytes) : Prop :=
  (table.find? key).isSome ∨ table.entries.length < table.spec.maxEntries.toNat

/-- What an accepted insertion tells about the table, and what it makes of it. -/
theorem update_accepted
    {table next : Table}
    {key value : Bytes}
    {flags : UInt64}
    (accepted : table.update key value flags = .ok next) :
    table.frozen = false ∧ table.HasRoom key ∧
      next = { table with entries := table.entries.put key value } := by
  unfold update at accepted
  split at accepted
  · cases accepted
  · rename_i writable
    refine ⟨by simpa using writable, ?_⟩
    split at accepted
    · cases accepted
    · simp only at accepted
      split at accepted
      · rename_i found
        split at accepted
        · cases accepted
        · exact ⟨Or.inl found, (Except.ok.inj accepted).symm⟩
      · split at accepted
        · cases accepted
        · split at accepted
          · cases accepted
          · exact ⟨Or.inr (by omega), (Except.ok.inj accepted).symm⟩

/-- What an accepted removal tells about the table, and what it makes of it. -/
theorem delete_accepted
    {table next : Table}
    {key value : Bytes}
    (accepted : table.delete key = .ok (value, next)) :
    table.frozen = false ∧ table.find? key = some value ∧
      next = { table with entries := table.entries.erase key } := by
  unfold delete at accepted
  split at accepted
  · cases accepted
  · rename_i writable
    split at accepted
    · cases accepted
    · rename_i found
      simp only [Except.ok.injEq, Prod.mk.injEq] at accepted
      obtain ⟨rfl, rfl⟩ := accepted
      exact ⟨by simpa using writable, found, rfl⟩

theorem freeze_accepted
    {table next : Table}
    (accepted : table.freeze = .ok next) :
    table.frozen = false ∧ next = { table with frozen := true } := by
  unfold freeze at accepted
  split at accepted
  · cases accepted
  · rename_i writable
    exact ⟨by simpa using writable, (Except.ok.inj accepted).symm⟩

/-! ## Refusals -/

theorem update_error_pos
    {table : Table}
    {key value : Bytes}
    {flags : UInt64}
    {errno : Errno}
    (refused : table.update key value flags = .error errno) :
    0 < errno := by
  simp only [update] at refused
  repeat' split at refused
  all_goals cases refused
  all_goals decide

theorem delete_error_pos
    {table : Table}
    {key : Bytes}
    {errno : Errno}
    (refused : table.delete key = .error errno) :
    0 < errno := by
  simp only [delete] at refused
  repeat' split at refused
  all_goals cases refused
  all_goals decide

/-! ## Edits -/

/-- One change to a table that is not read-only. -/
inductive Edit (table : Table) : Table → Prop
  /-- An entry is inserted or overwritten. -/
  | put
      {key value : Bytes}
      (writable : table.frozen = false)
      (keyWidth : key.length = table.keySize)
      (valueWidth : value.length = table.valueSize)
      (room : table.HasRoom key) :
      Edit table { table with entries := table.entries.put key value }
  /-- An entry is taken out. -/
  | erase
      (key : Bytes)
      (writable : table.frozen = false) :
      Edit table { table with entries := table.entries.erase key }
  /-- A range of entries is taken out. -/
  | drain
      {start stop : Nat}
      (writable : table.frozen = false)
      (ordered : start ≤ stop) :
      Edit table { table with entries := dropRange start stop table.entries }
  /-- The table becomes read-only. -/
  | freeze (writable : table.frozen = false) :
      Edit table { table with frozen := true }

/-- Any number of edits. -/
abbrev Edits : Table → Table → Prop :=
  Relation.ReflTransGen Edit

theorem Edit.spec_eq
    {table next : Table}
    (edit : table.Edit next) :
    next.spec = table.spec := by
  cases edit <;> rfl

theorem Edit.id_eq
    {table next : Table}
    (edit : table.Edit next) :
    next.id = table.id := by
  cases edit <;> rfl

theorem Edit.keySize_eq
    {table next : Table}
    (edit : table.Edit next) :
    next.keySize = table.keySize := by
  rw [keySize, keySize, edit.spec_eq]

theorem Edit.valueSize_eq
    {table next : Table}
    (edit : table.Edit next) :
    next.valueSize = table.valueSize := by
  rw [valueSize, valueSize, edit.spec_eq]

/-- Edits keep what was fixed at the creation of a map. -/
theorem Edits.fixed
    {table next : Table}
    (edits : table.Edits next) :
    next.spec = table.spec ∧ next.id = table.id := by
  induction edits with
  | refl => exact ⟨rfl, rfl⟩
  | tail _ edit inductionHypothesis =>
      exact ⟨edit.spec_eq.trans inductionHypothesis.1,
        edit.id_eq.trans inductionHypothesis.2⟩

theorem edit_of_update
    {table next : Table}
    {key value : Bytes}
    {flags : UInt64}
    (accepted : table.update (key.fit table.keySize)
      (value.fit table.valueSize) flags = .ok next) :
    table.Edit next := by
  obtain ⟨writable, room, rfl⟩ := update_accepted accepted
  exact .put writable (Bytes.fit_length _ _) (Bytes.fit_length _ _) room

theorem edit_of_delete
    {table next : Table}
    {key value : Bytes}
    (accepted : table.delete key = .ok (value, next)) :
    table.Edit next := by
  obtain ⟨writable, _, rfl⟩ := delete_accepted accepted
  exact .erase key writable

theorem updateBatch_edits
    (flags : UInt64)
    (count : Nat)
    (keys values : Bytes)
    (table : Table) :
    table.Edits (updateBatch flags count keys values table).2 := by
  induction count generalizing keys values table with
  | zero => exact .refl
  | succ count inductionHypothesis =>
      unfold updateBatch
      split
      · exact .refl
      · rename_i next accepted
        exact .head (edit_of_update accepted) (inductionHypothesis _ _ next)

theorem deleteBatch_edits
    (count : Nat)
    (keys : Bytes)
    (table : Table) :
    table.Edits (deleteBatch count keys table).2 := by
  induction count generalizing keys table with
  | zero => exact .refl
  | succ count inductionHypothesis =>
      unfold deleteBatch
      split
      · exact .refl
      · rename_i next accepted
        exact .head (edit_of_delete accepted) (inductionHypothesis _ next)

theorem lookupBatch_edits
    (bucketSize : Option UInt32)
    (query : BatchQuery)
    (table : Table) :
    table.Edits (table.lookupBatch bucketSize query).2.2 := by
  by_cases serves : table.Serves bucketSize query
  · rw [lookupBatch_of_serves serves]
    simp only [afterBatch]
    split
    · rename_i removes
      exact .single (.drain (serves.writable removes) (Nat.le_add_right _ _))
    · exact .refl
  · obtain ⟨error, count, equal⟩ := lookupBatch_of_not_serves serves
    rw [equal]

theorem attempt_edits
    {limits : Limits}
    {table next : Table}
    {call : Call}
    {left : call.Left}
    (accepted : table.attempt limits call = .ok (left, next)) :
    table.Edits next := by
  cases call
  all_goals simp only [attempt] at accepted
  case lookup descriptor key flags =>
      split at accepted
      · cases accepted
      · cases accepted
        exact .refl
  case update descriptor key value flags =>
      obtain ⟨_, updated, equal⟩ := Except.map_eq_ok accepted
      cases equal
      exact .single (edit_of_update updated)
  case delete descriptor key =>
      obtain ⟨_, deleted, equal⟩ := Except.map_eq_ok accepted
      cases equal
      exact .single (edit_of_delete deleted)
  case nextKey descriptor key =>
      obtain ⟨_, _, equal⟩ := Except.map_eq_ok accepted
      cases equal
      exact .refl
  case info descriptor asked =>
      cases accepted
      exact .refl
  case lookupAndDelete descriptor key =>
      exact .single (edit_of_delete accepted)
  case freeze descriptor =>
      obtain ⟨_, frozen, equal⟩ := Except.map_eq_ok accepted
      cases equal
      obtain ⟨writable, rfl⟩ := freeze_accepted frozen
      exact .single (.freeze writable)
  all_goals cases accepted

/-- Whatever a call makes of a table is a series of edits. -/
theorem respond_edits
    (limits : Limits)
    (table : Table)
    (call : Call) :
    table.Edits (table.respond limits call).2 := by
  cases call
  case lookupBatch query => exact lookupBatch_edits limits.bucket query table
  case updateBatch descriptor keys values count options =>
      exact updateBatch_edits options.elementFlags count.toNat keys values table
  case deleteBatch descriptor keys count options =>
      exact deleteBatch_edits count.toNat keys table
  all_goals
    simp only [respond]
    split
    · exact .refl
    · exact attempt_edits ‹_›

/-! ## Validity -/

/-- The sizes of a table are positive and its entries fit them. -/
structure Valid (table : Table) : Prop where
  isHash : table.spec.mapType = Abi.MapType.hash
  keySize_pos : 0 < table.keySize
  valueSize_pos : 0 < table.valueSize
  maxEntries_pos : 0 < table.spec.maxEntries.toNat
  /-- No key occurs twice. -/
  distinct : table.entries.Distinct
  keyWidth : ∀ entry ∈ table.entries, entry.1.length = table.keySize
  valueWidth : ∀ entry ∈ table.entries, entry.2.length = table.valueSize
  /-- There are no more entries than the map was created for. -/
  bounded : table.entries.length ≤ table.spec.maxEntries.toNat

/-- Taking entries out keeps a table valid. -/
theorem Valid.sublist
    {table : Table}
    (valid : table.Valid)
    {entries : Entries}
    (sublist : entries.Sublist table.entries) :
    Valid { table with entries } where
  isHash := valid.isHash
  keySize_pos := valid.keySize_pos
  valueSize_pos := valid.valueSize_pos
  maxEntries_pos := valid.maxEntries_pos
  distinct := valid.distinct.sublist sublist
  keyWidth := fun entry present => valid.keyWidth entry (sublist.subset present)
  valueWidth := fun entry present => valid.valueWidth entry (sublist.subset present)
  bounded := Nat.le_trans sublist.length_le valid.bounded

/-- Inserting an entry of the right widths keeps a table with room valid. -/
theorem Valid.put
    {table : Table}
    (valid : table.Valid)
    {key value : Bytes}
    (keyWidth : key.length = table.keySize)
    (valueWidth : value.length = table.valueSize)
    (room : table.HasRoom key) :
    Valid { table with entries := table.entries.put key value } where
  isHash := valid.isHash
  keySize_pos := valid.keySize_pos
  valueSize_pos := valid.valueSize_pos
  maxEntries_pos := valid.maxEntries_pos
  distinct := valid.distinct.put key value
  keyWidth := by
    intro entry present
    rcases Entries.mem_put present with rfl | old
    · exact keyWidth
    · exact valid.keyWidth entry old
  valueWidth := by
    intro entry present
    rcases Entries.mem_put present with rfl | old
    · exact valueWidth
    · exact valid.valueWidth entry old
  bounded := by
    have bounded := valid.bounded
    rw [Entries.length_put]
    rcases room with found | room
    · unfold find? at found
      rw [if_pos found]
      exact bounded
    · split
      · exact bounded
      · exact room

theorem Edit.valid
    {table next : Table}
    (edit : table.Edit next)
    (valid : table.Valid) :
    next.Valid := by
  cases edit with
  | put writable keyWidth valueWidth room =>
      exact valid.put keyWidth valueWidth room
  | erase key writable => exact valid.sublist (Entries.erase_sublist key _)
  | drain writable ordered => exact valid.sublist (Entries.dropRange_sublist ordered _)
  | freeze writable =>
      exact ⟨valid.isHash, valid.keySize_pos, valid.valueSize_pos,
        valid.maxEntries_pos, valid.distinct, valid.keyWidth, valid.valueWidth,
        valid.bounded⟩

/-- Every series of edits keeps a table valid. -/
theorem Edits.valid
    {table next : Table}
    (edits : table.Edits next)
    (valid : table.Valid) :
    next.Valid := by
  induction edits with
  | refl => exact valid
  | tail _ edit inductionHypothesis => exact edit.valid inductionHypothesis

end Table
end KernelMaps
