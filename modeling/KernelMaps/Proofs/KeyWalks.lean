import KernelMaps.Inspect.Dump
import KernelMaps.Proofs.KeySteps
import KernelMaps.Proofs.Tasks

/-!
# Walks over the keys of a table

A walk over a table that nobody changes takes the entries one after the other.
It stands behind the entries that it has passed, and it gives the first of those
that are left.
-/

namespace KernelMaps

namespace Entries

/-- Before a walk that has passed some entries lie the keys of the rest. -/
theorem ahead_lastKey?
    {passed rest : Entries}
    (distinct : (passed ++ rest).Distinct) :
    ahead passed.lastKey? (passed ++ rest).keys = rest.keys := by
  rcases List.eq_nil_or_concat passed with rfl | ⟨earlier, entry, rfl⟩
  · rfl
  · rw [List.concat_eq_append, lastKey?_append_singleton, List.append_assoc,
      List.singleton_append, keys_append, keys_cons]
    rw [Distinct, List.concat_eq_append, List.append_assoc, List.singleton_append,
      keys_append, keys_cons] at distinct
    apply ahead_append_cons
    intro present
    exact (List.nodup_append.1 distinct).2.2 entry.1 present entry.1
      List.mem_cons_self rfl

end Entries

namespace KeyWalk

/-- The walk that stands behind the entries it has passed. -/
def behind (descriptor : Descriptor) (table : Table) (passed : Entries) : KeyWalk :=
  { descriptor, keySize := table.spec.keySize, current := passed.lastKey? }

section OpenTable

variable
  {kernel : Kernel}
  {descriptor : Descriptor}
  {place : Nat}
  {table : Table}
  {passed rest : Entries}
  {entry : Bytes × Bytes}

/-- The keys that were passed have the width of keys. -/
theorem over_behind
    (valid : table.Valid)
    (split : table.entries = passed ++ rest) :
    (behind descriptor table passed).Over descriptor table where
  descriptor_eq := rfl
  keySize_eq := rfl
  width := by
    intro key last
    obtain ⟨entry, isLast, rfl⟩ := Option.map_eq_some_iff.1 last
    apply valid.keyWidth
    rw [split]
    exact List.mem_append_left rest (List.mem_of_getLast? isLast)
  active := rfl

/-- Before the walk lie the entries that it has not passed. -/
theorem ahead_behind
    (valid : table.Valid)
    (split : table.entries = passed ++ rest) :
    ahead (behind descriptor table passed).current table.entries.keys =
      rest.keys := by
  have distinct := valid.distinct
  rw [split] at distinct ⊢
  exact Entries.ahead_lastKey? distinct

/-- Behind all entries, the walk is finished. -/
theorem run_next_of_end
    (opened : kernel.resolve descriptor = .ok (place, table))
    (valid : table.Valid)
    (split : table.entries = passed ++ []) :
    ((behind descriptor table passed).next Kernel.host).run kernel =
      ((.finished, { behind descriptor table passed with done := true }), kernel) := by
  rw [run_next opened valid (over_behind valid split), ahead_behind valid split]
  rfl

/-- The walk gives the key of the entry it stands before, and passes it. -/
theorem run_next_of_entry
    (opened : kernel.resolve descriptor = .ok (place, table))
    (valid : table.Valid)
    (split : table.entries = passed ++ entry :: rest) :
    ((behind descriptor table passed).next Kernel.host).run kernel =
      ((.item entry.1, behind descriptor table (passed ++ [entry])), kernel) := by
  rw [run_next opened valid (over_behind valid split), ahead_behind valid split,
    behind, behind, Entries.lastKey?_append_singleton]
  rfl

end OpenTable

end KeyWalk

/-! ## What walks collect -/

namespace Dump

variable
  {kernel : Kernel}
  {descriptor : Descriptor}
  {place : Nat}
  {table : Table}

/-- Counting from behind some entries counts the entries that are left. -/
theorem run_countKeys
    (opened : kernel.resolve descriptor = .ok (place, table))
    (valid : table.Valid)
    {passed rest : Entries}
    (split : table.entries = passed ++ rest)
    {patience : Nat}
    (enough : rest.length < patience) :
    (countKeys Kernel.host patience (.behind descriptor table passed)).run.run kernel =
      (.ok rest.length, kernel) := by
  induction rest generalizing passed patience with
  | nil =>
      obtain ⟨spare, rfl⟩ := Nat.exists_eq_succ_of_ne_zero (Nat.ne_of_gt enough)
      have stepped := KeyWalk.run_next_of_end opened valid split
      rw [countKeys, Task.run_bind, Task.run_lift, stepped]
      rfl
  | cons entry rest inductionHypothesis =>
      obtain ⟨spare, rfl⟩ := Nat.exists_eq_succ_of_ne_zero
        (Nat.ne_of_gt (Nat.zero_lt_of_lt enough))
      have stepped := KeyWalk.run_next_of_entry opened valid split
      have restSplit : table.entries = (passed ++ [entry]) ++ rest := by
        rw [split, List.append_assoc, List.singleton_append]
      have counted := inductionHypothesis restSplit (Nat.lt_of_succ_lt_succ enough)
      rw [countKeys, Task.run_bind, Task.run_lift, stepped]
      simp only
      rw [Task.run_bind_of_ok counted]
      rfl

/-- Looking up from behind some entries gives the entries that are left. The
lent buffer may hold a part of a value from an earlier lookup. -/
theorem run_lookupAll
    (opened : kernel.resolve descriptor = .ok (place, table))
    (valid : table.Valid)
    {passed rest : Entries}
    (split : table.entries = passed ++ rest)
    {patience : Nat}
    (enough : rest.length < patience)
    {buffer : Bytes}
    (short : buffer.length ≤ table.valueSize) :
    (lookupAll Kernel.host descriptor table.valueSize patience
      (.behind descriptor table passed) buffer).run.run kernel =
      (.ok rest, kernel) := by
  induction rest generalizing passed patience buffer with
  | nil =>
      obtain ⟨spare, rfl⟩ := Nat.exists_eq_succ_of_ne_zero (Nat.ne_of_gt enough)
      have stepped := KeyWalk.run_next_of_end opened valid split
      rw [lookupAll, Task.run_bind, Task.run_lift, stepped]
      rfl
  | cons entry rest inductionHypothesis =>
      obtain ⟨spare, rfl⟩ := Nat.exists_eq_succ_of_ne_zero
        (Nat.ne_of_gt (Nat.zero_lt_of_lt enough))
      have present : entry ∈ table.entries := by simp [split]
      have keyWidth := valid.keyWidth entry present
      have valueWidth := valid.valueWidth entry present
      have found : table.find? entry.1 = some entry.2 :=
        valid.distinct.lookup_of_mem present
      have stepped := KeyWalk.run_next_of_entry opened valid split
      have lookedUp := Kernel.run_lookup_resolved opened keyWidth buffer 0
      have overwritten : Bytes.overlay entry.2 buffer = entry.2 := by
        rw [Bytes.overlay, List.drop_eq_nil_of_le (by omega), List.append_nil]
      have restSplit : table.entries = (passed ++ [entry]) ++ rest := by
        rw [split, List.append_assoc, List.singleton_append]
      have others := inductionHypothesis restSplit (Nat.lt_of_succ_lt_succ enough)
        (Nat.le_of_eq valueWidth)
      simp only [found, overwritten] at lookedUp
      rw [lookupAll, Task.run_bind, Task.run_lift, stepped]
      simp only
      rw [Task.run_bind, Task.run_lift, lookedUp]
      have present : Status.ok.isErrno Errno.noEntry = .ok false := rfl
      simp only [present]
      rw [Task.run_bind_of_ok (Task.run_attempt_ok _ _), if_neg Bool.false_ne_true,
        Task.run_bind_of_ok (Task.run_check_ok _ _), Task.run_bind_of_ok others, Task.run_pure,
        Bytes.padded_of_length valueWidth]

theorem length_lt_size
    {kernel : Kernel}
    {table : Table}
    (present : table ∈ kernel.tables) :
    table.entries.length < kernel.size := by
  unfold Kernel.size
  generalize kernel.tables = tables at present
  induction present with
  | head rest =>
      rw [List.foldr_cons]
      omega
  | tail other _ inductionHypothesis =>
      rw [List.foldr_cons]
      omega

/-- There is more patience than there are entries in one table. -/
theorem length_lt_patience
    (opened : kernel.resolve descriptor = .ok (place, table)) :
    table.entries.length + 1 < Kernel.host.patience kernel := by
  have present := (Kernel.resolve_eq_ok_iff.1 opened).2
  have bounded := length_lt_size (List.mem_of_getElem? present)
  show table.entries.length + 1 < kernel.size + 2
  omega

theorem run_patience (kernel : Kernel) :
    (patience Kernel.host).run.run kernel =
      (.ok (Kernel.host.patience kernel), kernel) := rfl

/-- Counting the keys of an open map counts its entries. -/
theorem run_count
    (opened : kernel.resolve descriptor = .ok (place, table))
    (valid : table.Valid) :
    (count Kernel.host descriptor table.spec.keySize).run.run kernel =
      (.ok table.entries.length, kernel) := by
  have enough : table.entries.length < Kernel.host.patience kernel :=
    Nat.lt_of_succ_lt (length_lt_patience opened)
  rw [count, Task.run_bind_of_ok (run_patience kernel)]
  exact run_countKeys opened valid (List.nil_append table.entries).symm enough

end Dump
end KernelMaps
