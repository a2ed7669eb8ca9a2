import KernelMaps.Cursor
import KernelMaps.Walk.Keys

/-!
# Walks over batches

A walk that reads one batch per step. When a bucket of the map holds more entries than the batch
has room for, the batch grows and the step asks again from the same place.
-/

namespace KernelMaps

/-- A walk over a map, one batch of entries at a time. -/
structure BatchWalk where
  descriptor : Descriptor
  keySize : UInt32
  valueSize : UInt32
  /-- The number of entries asked for. -/
  chunk : UInt32
  cursor : Cursor
  options : BatchOptions := {}
  done : Bool := false
  chunk_pos : 0 < chunk
  deriving DecidableEq, Repr

/-- What one step of a walk over batches gives. -/
inductive BatchStep
  | entries (entries : Entries)
  | failed (status : Status)
  | finished
  /-- The program stops in the step. -/
  | panicked (panic : Panic)
  deriving DecidableEq, Repr

namespace BatchWalk

/-- The size that a batch grows to at most. -/
def maxChunk : UInt32 :=
  65536

/-- The walk from the start; a chunk of zero counts as one. -/
def new (descriptor : Descriptor) (keySize valueSize chunk : UInt32)
    (options : BatchOptions) : BatchWalk :=
  { descriptor, keySize, valueSize, options
    chunk := if chunk = 0 then 1 else chunk
    cursor := Cursor.new keySize
    chunk_pos := by
      split
      · decide
      · rename_i nonzero
        rw [UInt32.lt_iff_toNat_lt]
        exact Nat.pos_of_ne_zero fun zero =>
          nonzero (UInt32.toNat_inj.1 zero) }

/-- Twice the chunk, but not above the greatest. -/
def grownChunk (chunk : UInt32) : UInt32 :=
  if chunk < maxChunk / 2 then 2 * chunk else maxChunk

theorem lt_grownChunk {chunk : UInt32} (positive : 0 < chunk) (small : chunk < maxChunk) :
    chunk < grownChunk chunk := by
  unfold grownChunk
  split
  · rename_i half
    rw [UInt32.lt_iff_toNat_lt] at positive half ⊢
    have limit : (maxChunk / 2).toNat = 32768 := rfl
    have two : (2 : UInt32).toNat = 2 := rfl
    have zero : (0 : UInt32).toNat = 0 := rfl
    rw [UInt32.toNat_mul, two, Nat.mod_eq_of_lt] <;> omega
  · exact small

/-- The walk with a greater chunk. -/
def grow (walk : BatchWalk) (small : walk.chunk < maxChunk) : BatchWalk :=
  { walk with
    chunk := grownChunk walk.chunk
    chunk_pos := UInt32.lt_trans walk.chunk_pos (lt_grownChunk walk.chunk_pos small) }

/-- A walk can grow only so often. -/
theorem grow_decreases (walk : BatchWalk) (small : walk.chunk < maxChunk) :
    maxChunk.toNat - (walk.grow small).chunk.toNat < maxChunk.toNat - walk.chunk.toNat := by
  have grown : walk.chunk < (walk.grow small).chunk := lt_grownChunk walk.chunk_pos small
  rw [UInt32.lt_iff_toNat_lt] at small grown
  omega

/-- The request for the next batch. -/
def query (walk : BatchWalk) : BatchQuery :=
  walk.cursor.query false walk.descriptor walk.chunk walk.options

/-- Make the buffers for the keys and for the values of a batch. -/
def buffers (walk : BatchWalk) : Checked Unit := do
  Checked.buffer (walk.keySize.toNat * walk.chunk.toNat)
  Checked.buffer (walk.valueSize.toNat * walk.chunk.toNat)

/-- Whether an answer says that a bucket did not fit. -/
def bucketOverflows (answer : Answer call) (count : UInt32) : Checked Bool := do
  let crowded ← answer.status.isErrno Errno.noSpace
  pure (crowded && count == 0)

/-- Ask for the next batch, growing it until a bucket fits or it cannot grow. -/
def fetch (host : Host σ) (walk : BatchWalk) :
    Action σ (Checked (Status × BatchLeft) × BatchWalk) :=
  match walk.buffers with
  | .error panic => pure (.error panic, walk)
  | .ok () => do
      let answer ← host.issue (.lookupBatch walk.query)
      match bucketOverflows answer answer.left.count with
      | .error panic => pure (.error panic, walk)
      | .ok overflows =>
          if grows : overflows = true ∧ walk.chunk < maxChunk then
            host.tell (.retrying (grownChunk walk.chunk))
            fetch host (walk.grow grows.2)
          else pure (.ok (answer.status, answer.left), walk)
termination_by maxChunk.toNat - walk.chunk.toNat
decreasing_by exact walk.grow_decreases grows.2

/-- The entries in the buffers that a call left. -/
def cut (walk : BatchWalk) (left : BatchLeft) : Entries :=
  let number := min left.count.toNat walk.chunk.toNat
  (Bytes.pieces walk.keySize.toNat number left.keys).zip
    (Bytes.pieces walk.valueSize.toNat number left.values)

/-- The step that a batch gives, when it was the last one or another follows. -/
def stepOf (walk : BatchWalk) (left : BatchLeft) : BatchStep :=
  if left.count = 0 ∧ walk.done then .finished
  else if walk.keySize = 0 ∨ walk.valueSize = 0 then .panicked .indivisible
  else .entries (walk.cut left)

/-- One step, and the walk after it. -/
def next (host : Host σ) (walk : BatchWalk) : Action σ (BatchStep × BatchWalk) := do
  if walk.done then pure (.finished, walk)
  else
    let (fetched, walk) ← walk.fetch host
    match fetched with
    | .error panic => pure (.panicked panic, walk)
    | .ok (status, left) =>
        if status.isOk then
          let out := Bytes.padded walk.cursor.width left.token
          let walk := { walk with cursor := (walk.cursor.advance? out).getD walk.cursor }
          pure (walk.stepOf left, walk)
        else
          match status.isErrno Errno.noEntry with
          | .error panic => pure (.panicked panic, walk)
          | .ok ends =>
              let walk := { walk with done := true }
              if ends then pure (walk.stepOf left, walk) else pure (.failed status, walk)

/-- The steps up to the end, at most `limit` of them, and the walk after them. -/
def steps (host : Host σ) : Nat → BatchWalk → Action σ (List BatchStep × BatchWalk)
  | 0, walk => pure ([], walk)
  | limit + 1, walk => do
      let (step, walk) ← walk.next host
      match step with
      | .finished => pure ([], walk)
      | .panicked panic => pure ([.panicked panic], walk)
      | step =>
          let (rest, walk) ← steps host limit walk
          pure (step :: rest, walk)

end BatchWalk
end KernelMaps
