import KernelMaps.Proofs.Edits
import KernelMaps.Proofs.Operations
import KernelMaps.Proofs.Packed
import KernelMaps.Proofs.WritingBatch

/-!
# Effects of answered calls

What a client can tell from the answer to its call: which entries were written
and which keys were removed, in what order. Following the effects gives the
entries that a table holds, and following them for one key gives its value.
-/

namespace KernelMaps

/-- What happened to one key. -/
inductive Effect
  | written (key value : Bytes)
  | removed (key : Bytes)
  deriving DecidableEq, Repr

namespace Effect

/-- The key that an effect is about. -/
def key : Effect → Bytes
  | written key _ => key
  | removed key => key

/-- The value of a key after an effect, if it had the given one before. -/
def act (key : Bytes) (current : Option Bytes) : Effect → Option Bytes
  | written other value => if key = other then some value else current
  | removed other => if key = other then none else current

theorem act_of_ne
    {key : Bytes}
    {effect : Effect}
    (other : effect.key ≠ key)
    (current : Option Bytes) :
    effect.act key current = current := by
  cases effect
  all_goals
    apply if_neg
    intro same
    exact other same.symm

theorem foldl_act_of_ne
    {key : Bytes}
    {effects : List Effect}
    (others : ∀ effect ∈ effects, effect.key ≠ key)
    (current : Option Bytes) :
    effects.foldl (act key) current = current := by
  induction effects with
  | nil => rfl
  | cons effect rest inductionHypothesis =>
      obtain ⟨other, restOthers⟩ := List.forall_mem_cons.1 others
      rw [List.foldl_cons, act_of_ne other]
      exact inductionHypothesis restOthers

/-- The entries of a map after an effect. -/
def change (entries : Entries) : Effect → Entries
  | written key value => entries.put key value
  | removed key => entries.erase key

theorem distinct_change
    {entries : Entries}
    (distinct : entries.Distinct)
    (effect : Effect) :
    (effect.change entries).Distinct := by
  cases effect with
  | written key value => exact distinct.put key value
  | removed key => exact distinct.sublist (Entries.erase_sublist key entries)

theorem lookup_change
    {entries : Entries}
    (distinct : entries.Distinct)
    (effect : Effect)
    (key : Bytes) :
    (effect.change entries).lookup key = effect.act key (entries.lookup key) := by
  cases effect with
  | written other value => exact Entries.lookup_put other value key entries
  | removed other => exact Entries.lookup_erase distinct other key

end Effect

namespace Entries

/-- The entries of a map after a series of effects. -/
def along (entries : Entries) (effects : List Effect) : Entries :=
  effects.foldl Effect.change entries

@[simp] theorem along_nil (entries : Entries) : entries.along [] = entries := rfl

@[simp] theorem along_cons
    (entries : Entries)
    (effect : Effect)
    (effects : List Effect) :
    entries.along (effect :: effects) = along (effect.change entries) effects := rfl

theorem distinct_along
    {entries : Entries}
    (distinct : entries.Distinct)
    (effects : List Effect) :
    (entries.along effects).Distinct := by
  induction effects generalizing entries with
  | nil => exact distinct
  | cons effect effects inductionHypothesis =>
      exact inductionHypothesis (Effect.distinct_change distinct effect)

theorem lookup_along
    {entries : Entries}
    (distinct : entries.Distinct)
    (effects : List Effect)
    (key : Bytes) :
    (entries.along effects).lookup key =
      effects.foldl (Effect.act key) (entries.lookup key) := by
  induction effects generalizing entries with
  | nil => rfl
  | cons effect effects inductionHypothesis =>
      rw [along_cons, inductionHypothesis (Effect.distinct_change distinct effect),
        Effect.lookup_change distinct, List.foldl_cons]

/-- Taking out entries that follow one another joins what is before and behind. -/
theorem along_removed
    {earlier taken rest : Entries}
    (distinct : (earlier ++ (taken ++ rest)).Distinct) :
    along (earlier ++ (taken ++ rest)) (taken.keys.map Effect.removed) =
      earlier ++ rest := by
  induction taken with
  | nil => rfl
  | cons entry taken inductionHypothesis =>
      have first : erase entry.1 (earlier ++ (entry :: taken ++ rest)) =
          earlier ++ (taken ++ rest) :=
        erase_append_cons distinct
      rw [keys_cons, List.map_cons, along_cons, Effect.change, first]
      apply inductionHypothesis
      rw [← first]
      exact distinct.sublist (erase_sublist _ _)

end Entries

/--
The effects that the answer to a call tells of, on a map with the given widths
of keys and values: a successful call on one key, the elements that a writing
batch counted, and the keys that a removing batch returned.
-/
def Call.effects (keySize valueSize : Nat) : (call : Call) → Answer call → List Effect
  | .update _ key value _, answer =>
      if answer.status.isOk then
        [.written (key.fit keySize) (value.fit valueSize)]
      else []
  | .delete _ key, answer | .lookupAndDelete _ key, answer =>
      if answer.status.isOk then [.removed (key.fit keySize)] else []
  | .updateBatch _ keys values _ _, answer =>
      List.zipWith Effect.written
        (Bytes.pieces keySize answer.left.toNat keys)
        (Bytes.pieces valueSize answer.left.toNat values)
  | .deleteBatch _ keys _ _, answer =>
      (Bytes.pieces keySize answer.left.toNat keys).map Effect.removed
  | .lookupBatch query, answer =>
      if query.remove then
        (Bytes.pieces keySize (answer.left.keys.length / keySize)
          answer.left.keys).map Effect.removed
      else []
  | _, _ => []

namespace Table

/-! ## One element -/

theorem entries_updated
    {table next : Table}
    {key value : Bytes}
    {flags : UInt64}
    (accepted : table.update key value flags = .ok next) :
    next.entries = (Effect.written key value).change table.entries := by
  obtain ⟨_, _, rfl⟩ := update_accepted accepted
  rfl

theorem entries_deleted
    {table next : Table}
    {key value : Bytes}
    (accepted : table.delete key = .ok (value, next)) :
    next.entries = (Effect.removed key).change table.entries := by
  obtain ⟨_, _, rfl⟩ := delete_accepted accepted
  rfl

/-! ## Batches -/

theorem entries_updateBatch
    (flags : UInt64)
    (count : Nat)
    (keys values : Bytes)
    (table : Table) :
    (updateBatch flags count keys values table).2.entries =
      table.entries.along (List.zipWith Effect.written
        (Bytes.pieces table.keySize
          (updateBatch flags count keys values table).1.done keys)
        (Bytes.pieces table.valueSize
          (updateBatch flags count keys values table).1.done values)) := by
  induction count generalizing keys values table with
  | zero => rfl
  | succ count inductionHypothesis =>
      unfold updateBatch
      split
      · rfl
      · rename_i next accepted
        have edit := edit_of_update accepted
        have rest := inductionHypothesis (keys.drop table.keySize)
          (values.drop table.valueSize) next
        rw [entries_updated accepted, edit.keySize_eq, edit.valueSize_eq] at rest
        exact rest

theorem entries_deleteBatch
    (count : Nat)
    (keys : Bytes)
    (table : Table) :
    (deleteBatch count keys table).2.entries =
      table.entries.along ((Bytes.pieces table.keySize
        (deleteBatch count keys table).1.done keys).map Effect.removed) := by
  induction count generalizing keys table with
  | zero => rfl
  | succ count inductionHypothesis =>
      unfold deleteBatch
      split
      · rfl
      · rename_i next accepted
        have edit := edit_of_delete accepted
        have rest := inductionHypothesis (keys.drop table.keySize) next
        rw [entries_deleted accepted, edit.keySize_eq] at rest
        exact rest

theorem entries_afterBatch
    {table : Table}
    (distinct : table.entries.Distinct)
    {query : BatchQuery}
    (removes : query.remove = true) :
    (table.afterBatch query).entries =
      table.entries.along ((table.batchOf query).keys.map Effect.removed) := by
  have split := List.take_append_drop (table.position query.token) table.entries
  rw [← List.take_append_drop (table.batchOf query).length
    (table.entries.drop (table.position query.token)), List.drop_drop,
    take_length_batchOf] at split
  have removed := Entries.along_removed (split ▸ distinct)
  rw [split] at removed
  rw [afterBatch, if_pos removes, removed, dropRange]

theorem entries_lookupBatch
    (bucketSize : Option UInt32)
    (query : BatchQuery)
    {table : Table}
    (valid : table.Valid) :
    let left := (table.lookupBatch bucketSize query).2.1
    (table.lookupBatch bucketSize query).2.2.entries =
      table.entries.along (if query.remove then
        (Bytes.pieces table.keySize (left.keys.length / table.keySize)
          left.keys).map Effect.removed
      else []) := by
  by_cases serves : table.Serves bucketSize query
  · rw [lookupBatch_of_serves serves]
    cases removes : query.remove with
    | false => simp [afterBatch, removes]
    | true =>
        have widths : ∀ entry ∈ table.batchOf query,
            entry.1.length = table.keySize := by
          intro entry present
          exact valid.keyWidth entry ((table.batchOf_sublist query).subset present)
        simp only [batchLeft, if_true]
        rw [Bytes.length_packed widths, Nat.mul_div_cancel _ valid.keySize_pos,
          Bytes.pieces_packed widths]
        exact entries_afterBatch valid.distinct removes
  · obtain ⟨error, count, equal⟩ := lookupBatch_of_not_serves serves
    rw [equal]
    split <;> simp

/-! ## Any call -/

/-- Following the effects that an answer tells of gives the entries. -/
theorem entries_respond
    (limits : Limits)
    {table : Table}
    (valid : table.Valid)
    (call : Call) :
    (table.respond limits call).2.entries =
      table.entries.along (call.effects table.keySize table.valueSize
        (table.respond limits call).1) := by
  cases call
  case update descriptor written value flags =>
      simp only [respond, attempt]
      cases accepted : table.update (written.fit table.keySize)
          (value.fit table.valueSize) flags with
      | error errno =>
          have refused := Answer.isOk_refuse (.update descriptor written value flags)
            (update_error_pos accepted)
          simp [Except.map, Call.effects, refused]
      | ok next =>
          have updated := entries_updated accepted
          simpa [Except.map, Call.effects, Status.isOk, Status.ok] using updated
  case delete descriptor removed =>
      simp only [respond, attempt]
      cases accepted : table.delete (removed.fit table.keySize) with
      | error errno =>
          have refused := Answer.isOk_refuse (.delete descriptor removed)
            (delete_error_pos accepted)
          simp [Except.map, Call.effects, refused]
      | ok taken =>
          have deleted := entries_deleted accepted
          simpa [Except.map, Call.effects, Status.isOk, Status.ok] using deleted
  case lookupAndDelete descriptor removed =>
      simp only [respond, attempt]
      cases accepted : table.delete (removed.fit table.keySize) with
      | error errno =>
          have refused := Answer.isOk_refuse (.lookupAndDelete descriptor removed)
            (delete_error_pos accepted)
          simp [Call.effects, refused]
      | ok taken =>
          have deleted := entries_deleted accepted
          simpa [Call.effects, Status.isOk, Status.ok] using deleted
  case updateBatch descriptor keys values count options =>
      have counted := Kernel.leftCount_toNat
        (updateBatch_ends options.elementFlags count.toNat keys values table)
      simp only [respond, Call.effects, counted]
      exact entries_updateBatch options.elementFlags count.toNat keys values table
  case deleteBatch descriptor keys count options =>
      have counted := Kernel.leftCount_toNat (deleteBatch_ends count.toNat keys table)
      simp only [respond, Call.effects, counted]
      exact entries_deleteBatch count.toNat keys table
  case lookupBatch query => exact entries_lookupBatch limits.bucket query valid
  case lookup descriptor read flags =>
      simp only [respond, attempt]
      cases table.find? (read.fit table.keySize) <;> rfl
  case nextKey descriptor current =>
      simp only [respond, attempt]
      cases table.nextKey (current.map fun key => key.fit table.keySize) <;> rfl
  case freeze descriptor =>
      simp only [respond, attempt]
      cases frozen : table.freeze with
      | error errno => rfl
      | ok next =>
          obtain ⟨_, rfl⟩ := freeze_accepted frozen
          rfl
  all_goals rfl

end Table
end KernelMaps
