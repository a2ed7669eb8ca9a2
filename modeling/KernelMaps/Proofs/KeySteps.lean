import KernelMaps.Proofs.Edits
import KernelMaps.Proofs.Operations
import KernelMaps.Walk.Keys
import Mathlib.Data.List.TakeWhile

/-!
# Steps of walks over keys

A walk remembers the key of its last step. Before it lie the keys that come
after this one, or all keys if there is none such, and a step gives the first of
them.
-/

namespace KernelMaps

/-- The keys that lie before a walk: those after the key of its last step, or
all of them if that key is not there. -/
def ahead (current : Option Bytes) (keys : List Bytes) : List Bytes :=
  current.elim keys fun key =>
    if keys.contains key then (keys.dropWhile fun other => other != key).tail else keys

@[simp] theorem ahead_none (keys : List Bytes) : ahead none keys = keys := rfl

theorem ahead_of_not_mem
    {key : Bytes}
    {keys : List Bytes}
    (absent : key ∉ keys) :
    ahead (some key) keys = keys :=
  if_neg fun contained => absent (List.contains_iff_mem.1 contained)

/-- What lies before a walk comes after the first place of its key. -/
theorem ahead_append_cons
    {passed : List Bytes}
    {key : Bytes}
    (absent : key ∉ passed)
    (rest : List Bytes) :
    ahead (some key) (passed ++ key :: rest) = rest := by
  have others : ∀ other ∈ passed, (other != key) = true := by
    intro other member
    apply bne_iff_ne.2
    rintro rfl
    exact absent member
  have contained : (passed ++ key :: rest).contains key = true :=
    List.contains_iff_mem.2 (List.mem_append_right passed List.mem_cons_self)
  rw [ahead, Option.elim_some, if_pos contained, List.dropWhile_append_of_pos others]
  simp

/-- All keys lie before a walk, or those after its key. -/
theorem ahead_cases (current : Option Bytes) (keys : List Bytes) :
    (∀ key, current = some key → key ∉ keys) ∧ ahead current keys = keys ∨
      ∃ passed key, current = some key ∧ key ∉ passed ∧
        keys = passed ++ key :: ahead current keys := by
  cases current with
  | none => exact Or.inl ⟨nofun, rfl⟩
  | some key =>
      by_cases present : key ∈ keys
      · obtain ⟨passed, rest, rfl, absent⟩ := List.eq_append_cons_of_mem present
        exact Or.inr ⟨passed, key, rfl, absent, by rw [ahead_append_cons absent]⟩
      · refine Or.inl ⟨?_, ahead_of_not_mem present⟩
        rintro _ ⟨⟩
        exact present

theorem ahead_suffix (current : Option Bytes) (keys : List Bytes) :
    ahead current keys <:+ keys := by
  obtain ⟨_, all⟩ | ⟨passed, key, _, _, split⟩ := ahead_cases current keys
  · exact ⟨[], by rw [List.nil_append, all]⟩
  · exact ⟨passed ++ [key], by rw [List.append_assoc]; exact split.symm⟩

theorem mem_of_ahead
    {current : Option Bytes}
    {keys rest : List Bytes}
    {key : Bytes}
    (first : ahead current keys = key :: rest) :
    key ∈ keys := by
  apply (ahead_suffix current keys).subset
  rw [first]
  exact List.mem_cons_self

/-- A step passes the key that it gives. -/
theorem ahead_of_step
    {current : Option Bytes}
    {keys rest : List Bytes}
    {key : Bytes}
    (distinct : keys.Nodup)
    (first : ahead current keys = key :: rest) :
    ahead (some key) keys = rest := by
  obtain ⟨passed, split⟩ := ahead_suffix current keys
  rw [first] at split
  subst split
  apply ahead_append_cons
  intro member
  exact (List.nodup_append.1 distinct).2.2 key member key List.mem_cons_self rfl

namespace Entries

/-- The entries after a key hold the keys that lie before a walk at that key. -/
theorem keys_after (key : Bytes) (entries : Entries) :
    (entries.after key).keys = ahead (some key) entries.keys := by
  by_cases present : key ∈ entries.keys
  · obtain ⟨passed, rest, split, absent⟩ := List.eq_append_cons_of_mem present
    obtain ⟨earlier, others, rfl, rfl, second⟩ := List.map_eq_append_iff.1 split
    obtain ⟨entry, later, rfl, rfl, rfl⟩ := List.map_eq_cons_iff.1 second
    have before : ahead (some entry.1) (keys (earlier ++ entry :: later)) =
        keys later := by
      rw [split]
      exact ahead_append_cons absent _
    rw [before, after_append_cons absent]
  · have others : ∀ entry ∈ entries, (entry.1 != key) = true := by
      intro entry member
      apply bne_iff_ne.2
      rintro rfl
      exact present (List.mem_map_of_mem member)
    rw [ahead_of_not_mem present, after, List.dropWhile_eq_nil_iff.2 others]

end Entries

namespace Table

/-- The next key is the first one that lies before a walk. -/
theorem nextKey_eq_ahead (table : Table) (current : Option Bytes) :
    table.nextKey current =
      match ahead current table.entries.keys with
      | [] => .error Errno.noEntry
      | key :: _ => .ok key := by
  have keys : (current.elim table.entries fun key => table.entries.after key).keys =
      ahead current table.entries.keys := by
    cases current with
    | none => rfl
    | some key => exact Entries.keys_after key table.entries
  rw [nextKey, ← keys]
  cases current.elim table.entries fun key => table.entries.after key <;> rfl

/-- Every key has the width of keys. -/
theorem Valid.length_of_mem_keys
    {table : Table}
    (valid : table.Valid)
    {key : Bytes}
    (present : key ∈ table.entries.keys) :
    key.length = table.keySize := by
  obtain ⟨entry, member, rfl⟩ := List.mem_map.1 present
  exact valid.keyWidth entry member

/-- What lies before a walk has the width of keys. -/
theorem Valid.length_of_ahead
    {table : Table}
    (valid : table.Valid)
    {current : Option Bytes}
    {key : Bytes}
    {rest : List Bytes}
    (first : ahead current table.entries.keys = key :: rest) :
    key.length = table.keySize :=
  valid.length_of_mem_keys (mem_of_ahead first)

end Table

namespace KeyWalk

/-- A walk over the keys of a table that has not ended. -/
structure Over (walk : KeyWalk) (descriptor : Descriptor) (table : Table) : Prop where
  descriptor_eq : walk.descriptor = descriptor
  keySize_eq : walk.keySize = table.spec.keySize
  /-- The key of the last step has the width of keys. -/
  width : ∀ key, walk.current = some key → key.length = table.keySize
  active : walk.done = false

theorem over_new (descriptor : Descriptor) (table : Table) :
    (new descriptor table.spec.keySize).Over descriptor table :=
  ⟨rfl, rfl, nofun, rfl⟩

/-- A step gives the first key that lies before the walk, or ends it. -/
theorem run_next
    {kernel : Kernel}
    {descriptor : Descriptor}
    {place : Nat}
    {table : Table}
    (opened : kernel.resolve descriptor = .ok (place, table))
    (valid : table.Valid)
    {walk : KeyWalk}
    (walksOver : walk.Over descriptor table) :
    (walk.next Kernel.host).run kernel =
      match ahead walk.current table.entries.keys with
      | [] => ((.finished, { walk with done := true }), kernel)
      | key :: _ => ((.item key, { walk with current := some key }), kernel) := by
  have fits : walk.current.map (fun key => key.fit table.keySize) = walk.current := by
    cases current : walk.current with
    | none => rfl
    | some key => rw [Option.map_some, Bytes.fit_of_length (walksOver.width key current)]
  have asked := Kernel.run_nextKey_resolved opened walk.current []
  rw [fits, Table.nextKey_eq_ahead] at asked
  simp only [next, walksOver.active, Bool.false_eq_true, if_false, Action.run_bind,
    walksOver.descriptor_eq]
  cases before : ahead walk.current table.entries.keys with
  | nil =>
      rw [before] at asked
      simp only [asked]
      rfl
  | cons key rest =>
      rw [before] at asked
      have width : key.length = walk.keySize.toNat := by
        rw [walksOver.keySize_eq]
        exact valid.length_of_ahead before
      have whole : Bytes.padded walk.keySize.toNat (Bytes.overlay key []) = key := by
        rw [Bytes.overlay, List.drop_nil, List.append_nil]
        exact Bytes.padded_of_length width
      simp only [asked]
      rw [if_pos (by rfl), whole]
      rfl

/-- A walk is over whatever others make of the table. -/
theorem Over.of_spec_eq
    {walk : KeyWalk}
    {descriptor : Descriptor}
    {table later : Table}
    (walksOver : walk.Over descriptor table)
    (spec : later.spec = table.spec) :
    walk.Over descriptor later where
  descriptor_eq := walksOver.descriptor_eq
  keySize_eq := by rw [spec, walksOver.keySize_eq]
  width := by
    rw [Table.keySize, spec]
    exact walksOver.width
  active := walksOver.active

/-- The walk that a step leaves is over the same table. -/
theorem Over.step
    {walk : KeyWalk}
    {descriptor : Descriptor}
    {table : Table}
    (walksOver : walk.Over descriptor table)
    {key : Bytes}
    (width : key.length = table.keySize) :
    Over { walk with current := some key } descriptor table where
  descriptor_eq := walksOver.descriptor_eq
  keySize_eq := walksOver.keySize_eq
  width := by
    rintro _ ⟨⟩
    exact width
  active := walksOver.active

end KeyWalk
end KernelMaps
