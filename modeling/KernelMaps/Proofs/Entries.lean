import KernelMaps.Kernel.Batch
import Mathlib.Data.List.Basic
import Mathlib.Data.List.Nodup

/-!
# Entries as a finite map

The entries of a table form a finite map whenever no key occurs twice. This
module says what each operation on entries does to the lookups, to the keys
and to their order.
-/

namespace KernelMaps
namespace Entries

/-- The keys in the order of a walk. -/
def keys (entries : Entries) : List Bytes :=
  entries.map Prod.fst

/-- No key occurs twice. -/
def Distinct (entries : Entries) : Prop :=
  entries.keys.Nodup

@[simp] theorem keys_nil : keys [] = [] := rfl

@[simp] theorem keys_cons (entry : Bytes × Bytes) (entries : Entries) :
    keys (entry :: entries) = entry.1 :: entries.keys := rfl

@[simp] theorem keys_append (left right : Entries) :
    keys (left ++ right) = left.keys ++ right.keys :=
  List.map_append

@[simp] theorem length_keys (entries : Entries) :
    entries.keys.length = entries.length := by
  simp [keys]

theorem lookup_cons_eq_ite
    (key : Bytes)
    (entry : Bytes × Bytes)
    (rest : Entries) :
    List.lookup key (entry :: rest) =
      if key = entry.1 then some entry.2 else rest.lookup key := by
  rw [List.lookup_cons]
  by_cases equal : key = entry.1
  · simp [equal]
  · rw [beq_eq_false_iff_ne.2 equal, if_neg equal]

theorem lookup_eq_none_iff_not_mem (entries : Entries) (key : Bytes) :
    entries.lookup key = none ↔ key ∉ entries.keys := by
  induction entries with
  | nil => simp
  | cons entry rest inductionHypothesis =>
      by_cases equal : key = entry.1 <;>
        simp [lookup_cons_eq_ite, equal, inductionHypothesis]

theorem lookup_isSome_iff_mem (entries : Entries) (key : Bytes) :
    (entries.lookup key).isSome ↔ key ∈ entries.keys := by
  rw [Option.isSome_iff_ne_none, ne_eq, lookup_eq_none_iff_not_mem, not_not]

/-- Every entry is found by its key. -/
theorem Distinct.lookup_of_mem
    {entries : Entries}
    (distinct : entries.Distinct)
    {entry : Bytes × Bytes}
    (present : entry ∈ entries) :
    entries.lookup entry.1 = some entry.2 := by
  induction entries with
  | nil => cases present
  | cons first rest inductionHypothesis =>
      obtain ⟨absent, restDistinct⟩ := List.nodup_cons.1 distinct
      rw [lookup_cons_eq_ite]
      rcases List.mem_cons.1 present with rfl | later
      · rw [if_pos rfl]
      · have other : entry.1 ≠ first.1 := by
          intro equal
          apply absent
          rw [← equal]
          exact List.mem_map_of_mem later
        rw [if_neg other]
        exact inductionHypothesis restDistinct later

/-- Sublists of entries with distinct keys have distinct keys. -/
theorem Distinct.sublist
    {part entries : Entries}
    (distinct : entries.Distinct)
    (sublist : part.Sublist entries) :
    part.Distinct :=
  List.Nodup.sublist (sublist.map Prod.fst) distinct

/-! ## Insertion -/

theorem lookup_put
    (key value other : Bytes)
    (entries : Entries) :
    (entries.put key value).lookup other =
      if other = key then some value else entries.lookup other := by
  induction entries with
  | nil => simp [put]
  | cons entry rest inductionHypothesis =>
      by_cases found : entry.1 = key
      · rw [put, if_pos found, lookup_cons_eq_ite, lookup_cons_eq_ite, found]
        by_cases equal : other = key <;> simp [equal]
      · rw [put, if_neg found, lookup_cons_eq_ite, inductionHypothesis,
          lookup_cons_eq_ite]
        by_cases equal : other = key
        · have different : key ≠ entry.1 := fun same => found same.symm
          simp [equal, different]
        · simp [equal]

/-- An overwritten key keeps its place, and a new one comes last. -/
theorem keys_put
    (key value : Bytes)
    (entries : Entries) :
    (entries.put key value).keys =
      if key ∈ entries.keys then entries.keys
      else entries.keys ++ [key] := by
  induction entries with
  | nil => simp [put]
  | cons entry rest inductionHypothesis =>
      by_cases found : entry.1 = key
      · simp [put, found]
      · have other : key ≠ entry.1 := fun same => found same.symm
        rw [put, if_neg found, keys_cons, inductionHypothesis, keys_cons]
        by_cases present : key ∈ keys rest <;> simp [present, other]

theorem Distinct.put
    {entries : Entries}
    (distinct : entries.Distinct)
    (key value : Bytes) :
    (entries.put key value).Distinct := by
  unfold Distinct at distinct ⊢
  rw [keys_put]
  split
  · exact distinct
  · rename_i absent
    refine List.nodup_append.2 ⟨distinct, List.nodup_singleton key, ?_⟩
    intro other present last member equal
    apply absent
    rw [← List.mem_singleton.1 member, ← equal]
    exact present

theorem length_put
    (key value : Bytes)
    (entries : Entries) :
    (entries.put key value).length =
      if (entries.lookup key).isSome then entries.length
      else entries.length + 1 := by
  simp only [lookup_isSome_iff_mem]
  rw [← length_keys (entries.put key value), keys_put]
  split <;> simp

theorem mem_put
    {key value : Bytes}
    {entries : Entries}
    {entry : Bytes × Bytes}
    (present : entry ∈ entries.put key value) :
    entry = (key, value) ∨ entry ∈ entries := by
  induction entries with
  | nil => simpa [put] using present
  | cons first rest inductionHypothesis =>
      by_cases found : first.1 = key
      · rw [put, if_pos found] at present
        rcases List.mem_cons.1 present with equal | inRest
        · exact Or.inl equal
        · exact Or.inr (List.mem_cons_of_mem first inRest)
      · rw [put, if_neg found] at present
        rcases List.mem_cons.1 present with equal | inRest
        · exact Or.inr (equal ▸ List.mem_cons_self)
        · exact (inductionHypothesis inRest).imp_right (List.mem_cons_of_mem first)

/-! ## Removal -/

theorem erase_sublist (key : Bytes) (entries : Entries) :
    (entries.erase key).Sublist entries :=
  List.eraseP_sublist

theorem erase_cons_of_eq
    {entry : Bytes × Bytes}
    {key : Bytes}
    (found : entry.1 = key)
    (rest : Entries) :
    erase key (entry :: rest) = rest :=
  List.eraseP_cons_of_pos (beq_iff_eq.2 found)

theorem erase_cons_of_ne
    {entry : Bytes × Bytes}
    {key : Bytes}
    (other : entry.1 ≠ key)
    (rest : Entries) :
    erase key (entry :: rest) = entry :: erase key rest :=
  List.eraseP_cons_of_neg (beq_iff_eq.not.2 other)

/-- The entry of a key goes, and the entries around it stay. -/
theorem erase_append_cons
    {earlier later : Entries}
    {entry : Bytes × Bytes}
    (distinct : (earlier ++ entry :: later).Distinct) :
    erase entry.1 (earlier ++ entry :: later) = earlier ++ later := by
  rw [Distinct, keys_append, keys_cons, List.nodup_append] at distinct
  have absent : ∀ other ∈ earlier, ¬(other.1 == entry.1) = true := by
    intro other present same
    exact distinct.2.2 other.1 (List.mem_map_of_mem present) entry.1
      List.mem_cons_self (eq_of_beq same)
  have head : List.eraseP (fun other => other.1 == entry.1) (entry :: later) = later :=
    erase_cons_of_eq rfl later
  rw [erase, List.eraseP_append_right _ absent, head]

/-- In a map that has no key twice, the entry of a key is the only one to go. -/
theorem erase_eq_filter
    {entries : Entries}
    (distinct : entries.Distinct)
    (key : Bytes) :
    entries.erase key = entries.filter fun entry => entry.1 != key := by
  induction entries with
  | nil => rfl
  | cons entry rest inductionHypothesis =>
      obtain ⟨absent, restDistinct⟩ := List.nodup_cons.1 distinct
      by_cases found : entry.1 = key
      · have kept : rest.filter (fun other => other.1 != key) = rest := by
          rw [List.filter_eq_self]
          intro other present
          rw [bne_iff_ne, ← found]
          intro same
          exact absent (same ▸ List.mem_map_of_mem present)
        rw [erase_cons_of_eq found, List.filter_cons_of_neg (by simpa using found), kept]
      · rw [erase_cons_of_ne found, List.filter_cons_of_pos (by simpa using found),
          inductionHypothesis restDistinct]

theorem lookup_erase
    {entries : Entries}
    (distinct : entries.Distinct)
    (key other : Bytes) :
    (entries.erase key).lookup other =
      if other = key then none else entries.lookup other := by
  induction entries with
  | nil => simp [erase]
  | cons entry rest inductionHypothesis =>
      obtain ⟨absent, restDistinct⟩ := List.nodup_cons.1 distinct
      by_cases found : entry.1 = key
      · rw [erase_cons_of_eq found, lookup_cons_eq_ite, found]
        by_cases equal : other = key
        · rw [if_pos equal, lookup_eq_none_iff_not_mem, equal, ← found]
          exact absent
        · simp [equal]
      · rw [erase_cons_of_ne found, lookup_cons_eq_ite, lookup_cons_eq_ite,
          inductionHypothesis restDistinct]
        by_cases equal : other = key
        · have different : key ≠ entry.1 := fun same => found same.symm
          simp [equal, different]
        · simp [equal]

theorem dropRange_sublist
    {start stop : Nat}
    (ordered : start ≤ stop)
    (entries : Entries) :
    (Table.dropRange start stop entries).Sublist entries := by
  have split := List.take_append_drop start entries
  calc
    (entries.take start ++ entries.drop stop).Sublist
        (entries.take start ++ entries.drop start) :=
      (List.Sublist.refl _).append (List.drop_sublist_drop_left entries ordered)
    _ = entries := split

/-! ## Walks -/

/-- The key of the last entry. -/
def lastKey? (entries : Entries) : Option Bytes :=
  entries.getLast?.map Prod.fst

@[simp] theorem lastKey?_append_singleton
    (entries : Entries)
    (entry : Bytes × Bytes) :
    lastKey? (entries ++ [entry]) = some entry.1 := by
  simp [lastKey?]

/-- What comes after a key that does not occur before it. -/
theorem after_append_cons
    {earlier : Entries}
    {key : Bytes}
    (absent : key ∉ earlier.keys)
    (value : Bytes)
    (rest : Entries) :
    after key (earlier ++ (key, value) :: rest) = rest := by
  have passed : ∀ entry ∈ earlier, (entry.1 != key) = true := by
    intro entry present
    apply bne_iff_ne.2
    rintro rfl
    exact absent (List.mem_map_of_mem present)
  rw [after, List.dropWhile_append_of_pos passed]
  simp

end Entries
end KernelMaps
