import KernelMaps.Proofs.Edits
import KernelMaps.Proofs.Operations
import KernelMaps.Proofs.Packed
import KernelMaps.Proofs.Steps
import KernelMaps.Proofs.WritingBatch

/-!
# Writing batches are loops

A writing batch does to the kernel what single writes of its elements do, one
after the other, up to the first that fails. Its status is the status of that
write, and its count is the number of the writes before.
-/

namespace KernelMaps

/-- Take a step for each item, up to the first that fails: the status of that
step, and the number of the steps before it. -/
def Action.untilFailure
    (step : α → Action σ Status) : List α → Action σ (Status × Nat)
  | [] => pure (.ok, 0)
  | item :: rest => do
      let status ← step item
      if status.isOk then
        let (last, done) ← untilFailure step rest
        pure (last, done + 1)
      else pure (status, 0)

namespace Action

theorem run_untilFailure_cons
    (step : α → Action σ Status)
    (item : α)
    (rest : List α)
    (state : σ) :
    (untilFailure step (item :: rest)).run state =
      let stepped := (step item).run state
      if stepped.1.isOk then
        let ended := (untilFailure step rest).run stepped.2
        ((ended.1.1, ended.1.2 + 1), ended.2)
      else ((stepped.1, 0), stepped.2) := by
  rw [untilFailure, StateT.run_bind]
  simp only [bind]
  split <;> rfl

end Action

namespace Kernel

/-- Single writes of the elements of packed arrays, in their order. -/
def updateEach
    (descriptor : Descriptor)
    (flags : UInt64)
    (elements : List (Bytes × Bytes)) : Action Kernel (Status × Nat) :=
  Action.untilFailure
    (fun element => Kernel.host.update descriptor element.1 element.2 flags)
    elements

/-- Single removals of the keys of a packed array, in their order. -/
def deleteEach
    (descriptor : Descriptor)
    (keys : List Bytes) : Action Kernel (Status × Nat) :=
  Action.untilFailure (fun key => Kernel.host.delete descriptor key) keys

theorem run_updateEach
    {kernel : Kernel}
    {descriptor : Descriptor}
    {place : Nat}
    {table : Table}
    (opened : kernel.resolve descriptor = .ok (place, table))
    (flags : UInt64)
    (count : Nat)
    (keys values : Bytes) :
    (updateEach descriptor flags
        ((Bytes.pieces table.keySize count keys).zip
          (Bytes.pieces table.valueSize count values))).run kernel =
      let ended := table.updateBatch flags count keys values
      ((.ofOutcome (outcomeOf ended.1.error), ended.1.done),
        kernel.replace place ended.2) := by
  induction count generalizing kernel table keys values with
  | zero => exact congrArg (Prod.mk _) (replace_self opened).symm
  | succ count inductionHypothesis =>
      have stepped := run_update_resolved opened
        (keys.fit table.keySize) (values.fit table.valueSize) flags
      rw [Bytes.fit_fit, Bytes.fit_fit] at stepped
      rw [updateEach, Bytes.pieces, Bytes.pieces, List.zip_cons_cons, Table.updateBatch]
      cases updated : table.update (keys.fit table.keySize)
          (values.fit table.valueSize) flags with
      | error errno =>
          have positive := Table.update_error_pos updated
          have failed : (Status.ofOutcome (outcomeOf (some errno))).isOk = false :=
            Answer.isOk_refuse (.update descriptor keys values flags) positive
          simp only [updated] at stepped
          simp only [Action.run_untilFailure_cons, stepped, failed,
            replace_self opened]
          rfl
      | ok next =>
          simp only [updated] at stepped
          have edit := Table.edit_of_update updated
          have rest := inductionHypothesis (resolve_replace opened next)
            (keys.drop table.keySize) (values.drop table.valueSize)
          simp only [updateEach, edit.keySize_eq, edit.valueSize_eq,
            replace_replace] at rest
          simp only [Action.run_untilFailure_cons, stepped, rest]
          rfl

theorem run_deleteEach
    {kernel : Kernel}
    {descriptor : Descriptor}
    {place : Nat}
    {table : Table}
    (opened : kernel.resolve descriptor = .ok (place, table))
    (count : Nat)
    (keys : Bytes) :
    (deleteEach descriptor (Bytes.pieces table.keySize count keys)).run kernel =
      let ended := table.deleteBatch count keys
      ((.ofOutcome (outcomeOf ended.1.error), ended.1.done),
        kernel.replace place ended.2) := by
  induction count generalizing kernel table keys with
  | zero => exact congrArg (Prod.mk _) (replace_self opened).symm
  | succ count inductionHypothesis =>
      have stepped := run_delete_resolved opened (keys.fit table.keySize)
      rw [Bytes.fit_fit] at stepped
      rw [deleteEach, Bytes.pieces, Table.deleteBatch]
      cases deleted : table.delete (keys.fit table.keySize) with
      | error errno =>
          have positive := Table.delete_error_pos deleted
          have failed : (Status.ofOutcome (outcomeOf (some errno))).isOk = false :=
            Answer.isOk_refuse (.delete descriptor keys) positive
          simp only [deleted] at stepped
          simp only [Action.run_untilFailure_cons, stepped, failed,
            replace_self opened]
          rfl
      | ok taken =>
          obtain ⟨value, next⟩ := taken
          simp only [deleted] at stepped
          have edit := Table.edit_of_delete deleted
          have rest := inductionHypothesis (resolve_replace opened next)
            (keys.drop table.keySize)
          simp only [deleteEach, edit.keySize_eq, replace_replace] at rest
          simp only [Action.run_untilFailure_cons, stepped, rest]
          rfl

/-! ## Batches and loops -/

/-- A writing batch ended like a loop: with the same status, after the same
number of elements, in the same state. -/
structure EndedLike
    (batch : (Status × UInt32) × Kernel)
    (loop : (Status × Nat) × Kernel) : Prop where
  status : batch.1.1 = loop.1.1
  count : batch.1.2.toNat = loop.1.2
  state : batch.2 = loop.2

/-- A batch of insertions ends like the loop of single insertions under the
flags for each element, whatever the flags for the whole call, and a batch of
removals ends like the loop of single removals, whatever the options. -/
theorem writingBatch_endedLike_loop
    {kernel : Kernel}
    {descriptor : Descriptor}
    {place : Nat}
    {table : Table}
    (opened : kernel.resolve descriptor = .ok (place, table))
    (keys values : Bytes)
    (count : UInt32)
    (elementFlags : UInt64) :
    let keyPieces := Bytes.pieces table.keySize count.toNat keys
    let valuePieces := Bytes.pieces table.valueSize count.toNat values
    (∀ flags, EndedLike
      ((Kernel.host.updateBatch descriptor keys values count
        { elementFlags, flags }).run kernel)
      ((updateEach descriptor elementFlags (keyPieces.zip valuePieces)).run
        kernel)) ∧
    ∀ options, EndedLike
      ((Kernel.host.deleteBatch descriptor keys count options).run kernel)
      ((deleteEach descriptor keyPieces).run kernel) := by
  intro keyPieces valuePieces
  constructor
  · intro flags
    have ends := table.updateBatch_ends elementFlags count.toNat keys values
    rw [run_updateBatch_resolved opened, run_updateEach opened]
    exact ⟨rfl, leftCount_toNat ends, rfl⟩
  · intro options
    have ends := table.deleteBatch_ends count.toNat keys
    rw [run_deleteBatch_resolved opened, run_deleteEach opened]
    exact ⟨rfl, leftCount_toNat ends, rfl⟩

/-- A map that holds one entry of at most two. -/
def halfFull : Kernel :=
  ({} : Kernel).run
    [.call (.create { mapType := 1, keySize := 1, valueSize := 2, maxEntries := 2 }),
      .call (.update 101 [1] [1, 1] 0)]

/-- The batch writes one key twice and stops at the next, for which there is no room. -/
theorem writingBatch_endedLike_loop_halfFull :
    let table : Table :=
      { id := 1000
        spec := { mapType := 1, keySize := 1, valueSize := 2, maxEntries := 2 }
        entries := [([1], [1, 1])] }
    let batch := (Kernel.host.updateBatch 101 [2, 2, 3, 1]
      [2, 0, 2, 2, 3, 3, 4, 4] 4 { flags := 7 }).run halfFull
    halfFull.resolve 101 = .ok (0, table) ∧
      batch.1 = (.ofErrno Errno.tooBig, 2) ∧
      EndedLike batch ((updateEach 101 0
        [([2], [2, 0]), ([2], [2, 2]), ([3], [3, 3]), ([1], [4, 4])]).run
          halfFull) := by
  intro table batch
  have opened : halfFull.resolve 101 = .ok (0, table) := by decide +kernel
  have law := writingBatch_endedLike_loop opened [2, 2, 3, 1]
    [2, 0, 2, 2, 3, 3, 4, 4] 4 0
  exact ⟨opened, by decide +kernel, law.1 7⟩

end Kernel
end KernelMaps
