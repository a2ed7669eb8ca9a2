import KernelMaps.Proofs.Effects

/-!
# The order of keys

Walks follow the order of the keys, so a walk depends on what others do to the
map as far as that moves keys. A new key comes last, an overwritten key stays
where it is, and a removal closes the gap that it makes. Following the history
of a map in this way gives its keys in their order.
-/

namespace KernelMaps

/-- The keys of a map in their order after an effect. -/
def Effect.reorder (keys : List Bytes) : Effect → List Bytes
  | written key _ => if key ∈ keys then keys else keys ++ [key]
  | removed key => keys.erase key

/-- The keys of a map in their order after a history. -/
def keysAfter (keys : List Bytes) (history : List Effect) : List Bytes :=
  history.foldl Effect.reorder keys

@[simp] theorem keysAfter_nil (keys : List Bytes) :
    keysAfter keys [] = keys := rfl

@[simp] theorem keysAfter_cons
    (keys : List Bytes)
    (effect : Effect)
    (history : List Effect) :
    keysAfter keys (effect :: history) = keysAfter (effect.reorder keys) history :=
  rfl

theorem keysAfter_append
    (keys : List Bytes)
    (earlier later : List Effect) :
    keysAfter keys (earlier ++ later) = keysAfter (keysAfter keys earlier) later :=
  List.foldl_append

theorem nodup_reorder
    {keys : List Bytes}
    (distinct : keys.Nodup)
    (effect : Effect) :
    (effect.reorder keys).Nodup := by
  cases effect with
  | written key value =>
      rw [Effect.reorder]
      split
      · exact distinct
      · rename_i absent
        rw [← List.concat_eq_append]
        exact distinct.concat absent
  | removed key => exact distinct.erase key

theorem nodup_keysAfter
    {keys : List Bytes}
    (distinct : keys.Nodup)
    (history : List Effect) :
    (keysAfter keys history).Nodup := by
  induction history generalizing keys with
  | nil => exact distinct
  | cons effect history inductionHypothesis =>
      exact inductionHypothesis (nodup_reorder distinct effect)

/-! ## Where keys go -/

/-- Only its removal takes a key out of the first positions. -/
theorem mem_take_reorder
    {keys : List Bytes}
    {key : Bytes}
    {position : Nat}
    (present : key ∈ keys.take position)
    {effect : Effect}
    (kept : effect ≠ .removed key) :
    key ∈ (effect.reorder keys).take position := by
  cases effect with
  | written other value =>
      rw [Effect.reorder]
      split
      · exact present
      · rw [List.take_append]
        exact List.mem_append_left _ present
  | removed other =>
      have different : key ≠ other := fun same => kept (congrArg _ same.symm)
      have split := List.take_append_drop position keys
      rw [Effect.reorder, ← split, List.erase_append]
      split
      · have shorter : ((keys.take position).erase other).length ≤ position :=
          Nat.le_trans List.length_erase_le (List.length_take_le _ _)
        rw [List.take_append, List.take_of_length_le shorter]
        exact List.mem_append_left _ ((List.mem_erase_of_ne different).2 present)
      · rw [List.take_append, List.take_take, Nat.min_self]
        exact List.mem_append_left _ present

/-- Only its removal takes a key out. -/
theorem mem_reorder
    {keys : List Bytes}
    {key : Bytes}
    (present : key ∈ keys)
    {effect : Effect}
    (kept : effect ≠ .removed key) :
    key ∈ effect.reorder keys := by
  rw [← List.take_of_length_le (Nat.le_refl keys.length)] at present
  exact List.mem_of_mem_take (mem_take_reorder present kept)

/-- Only a write brings a key in. -/
theorem not_mem_reorder
    {keys : List Bytes}
    {key : Bytes}
    (absent : key ∉ keys)
    {effect : Effect}
    (unwritten : ∀ value, effect ≠ .written key value) :
    key ∉ effect.reorder keys := by
  cases effect with
  | written other value =>
      have different : key ≠ other := by
        rintro rfl
        exact unwritten value rfl
      rw [Effect.reorder]
      split
      · exact absent
      · simp [absent, different]
  | removed other => exact fun present => absent (List.mem_of_mem_erase present)

/-- A removed key is gone. -/
theorem not_mem_reorder_removed
    {keys : List Bytes}
    (distinct : keys.Nodup)
    (key : Bytes) :
    key ∉ Effect.reorder keys (.removed key) :=
  distinct.not_mem_erase

/-- As long as nothing is removed, keys come only behind the others. -/
theorem prefix_keysAfter
    {history : List Effect}
    (kept : ∀ key, Effect.removed key ∉ history)
    (keys : List Bytes) :
    keys <+: keysAfter keys history := by
  induction history generalizing keys with
  | nil => exact List.prefix_rfl
  | cons effect history inductionHypothesis =>
      have later := inductionHypothesis fun key present =>
        kept key (List.mem_cons_of_mem effect present)
      cases effect with
      | removed key => exact absurd List.mem_cons_self (kept key)
      | written key value =>
          refine List.IsPrefix.trans ?_ (later _)
          rw [Effect.reorder]
          split
          · exact List.prefix_rfl
          · exact List.prefix_append keys [key]

/-! ## Keys that come back -/

/-- In a history a key is removed and later written again. -/
def Reinserted (key : Bytes) (history : List Effect) : Prop :=
  ∃ earlier between later value,
    history = earlier ++ .removed key :: (between ++ .written key value :: later)

theorem Reinserted.append
    {key : Bytes}
    {history : List Effect}
    (again : Reinserted key history)
    (more : List Effect) :
    Reinserted key (history ++ more) := by
  obtain ⟨earlier, between, later, value, rfl⟩ := again
  exact ⟨earlier, between, later ++ more, value, by simp⟩

theorem reinserted_of_written
    {key : Bytes}
    {history : List Effect}
    (gone : Effect.removed key ∈ history)
    (value : Bytes) :
    Reinserted key (history ++ [.written key value]) := by
  obtain ⟨earlier, between, rfl⟩ := List.append_of_mem gone
  exact ⟨earlier, between, [], value, by simp⟩

/-! ## The keys of a table -/

theorem Entries.keys_erase (key : Bytes) (entries : Entries) :
    (entries.erase key).keys = entries.keys.erase key := by
  rw [Entries.keys, Entries.keys, List.erase_eq_eraseP', List.eraseP_map]
  rfl

theorem Effect.keys_change (effect : Effect) (entries : Entries) :
    (effect.change entries).keys = effect.reorder entries.keys := by
  cases effect with
  | written key value => exact Entries.keys_put key value entries
  | removed key => exact Entries.keys_erase key entries

theorem Entries.keys_along (entries : Entries) (history : List Effect) :
    (entries.along history).keys = keysAfter entries.keys history := by
  induction history generalizing entries with
  | nil => rfl
  | cons effect history inductionHypothesis =>
      rw [along_cons, inductionHypothesis, Effect.keys_change, keysAfter_cons]

end KernelMaps
