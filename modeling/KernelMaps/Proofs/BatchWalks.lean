import KernelMaps.Inspect.Dump
import KernelMaps.Proofs.OpenBatches
import KernelMaps.Proofs.Tasks

/-!
# Walks over the batches of a table

A walk over a table that nobody changes takes the entries one batch after the
other. A batch that is too small for a bucket grows until it is large enough,
and the token of a batch leads to the place where it ended.
-/

namespace KernelMaps

namespace BatchWalk

/-- The walk with another positive chunk. -/
def resize (walk : BatchWalk) (chunk : UInt32) (positive : 0 < chunk) : BatchWalk :=
  { walk with chunk, chunk_pos := positive }

/-- A chunk of zero counts as one. -/
theorem toNat_chunk_new
    (descriptor : Descriptor)
    (keySize valueSize chunk : UInt32)
    (options : BatchOptions) :
    (new descriptor keySize valueSize chunk options).chunk.toNat =
      max chunk.toNat 1 := by
  rw [new]
  dsimp only
  split
  · rename_i zero
    rw [zero]
    rfl
  · rename_i nonzero
    have positive : chunk.toNat ≠ 0 := fun zero => nonzero (UInt32.toNat_inj.1 zero)
    omega

/-- A chunk doubles, up to the greatest. -/
theorem toNat_grownChunk
    {chunk : UInt32}
    (small : chunk < maxChunk) :
    (grownChunk chunk).toNat = min (2 * chunk.toNat) 65536 := by
  have limit : maxChunk.toNat = 65536 := rfl
  have half : (maxChunk / 2).toNat = 32768 := rfl
  have two : (2 : UInt32).toNat = 2 := rfl
  rw [UInt32.lt_iff_toNat_lt] at small
  unfold grownChunk
  split
  · rename_i doubles
    rw [UInt32.lt_iff_toNat_lt] at doubles
    rw [UInt32.toNat_mul, two, Nat.mod_eq_of_lt (by omega), Nat.min_eq_left (by omega)]
  · rename_i capped
    rw [UInt32.lt_iff_toNat_lt] at capped
    rw [limit, Nat.min_eq_right (by omega)]

/-- What holds of a walk when it holds with a greater chunk, holds of every walk. -/
@[elab_as_elim]
theorem growing
    {motive : BatchWalk → Prop}
    (step : ∀ walk : BatchWalk,
      (∀ small : walk.chunk < maxChunk, motive (walk.grow small)) → motive walk)
    (walk : BatchWalk) :
    motive walk :=
  step walk fun small => growing step (walk.grow small)
termination_by maxChunk.toNat - walk.chunk.toNat
decreasing_by exact walk.grow_decreases small

/-! ## Buffers -/

/-- The buffers for a batch are no longer than a buffer can be. -/
structure Addressable (walk : BatchWalk) : Prop where
  keys : walk.keySize.toNat * walk.chunk.toNat ≤ Checked.longestBuffer
  values : walk.valueSize.toNat * walk.chunk.toNat ≤ Checked.longestBuffer

theorem buffers_of_addressable
    {walk : BatchWalk}
    (addressable : walk.Addressable) :
    walk.buffers = .ok () := by
  rw [buffers, Checked.buffer, Checked.buffer, if_pos addressable.keys,
    if_pos addressable.values]
  rfl

/-- Whatever the sizes of entries, the chunks that a walk grows to have their buffers. -/
theorem mul_le_longestBuffer
    (size : UInt32)
    {count : Nat}
    (small : count ≤ 65536) :
    size.toNat * count ≤ Checked.longestBuffer :=
  calc size.toNat * count
      ≤ UInt32.size * 65536 := Nat.mul_le_mul (Nat.le_of_lt size.toNat_lt) small
    _ ≤ Checked.longestBuffer := by decide

theorem addressable_grow
    {walk : BatchWalk}
    (small : walk.chunk < maxChunk) :
    (walk.grow small).Addressable := by
  have grown : (walk.grow small).chunk.toNat ≤ 65536 :=
    Nat.le_trans (Nat.le_of_eq (toNat_grownChunk small)) (Nat.min_le_right _ _)
  exact ⟨mul_le_longestBuffer _ grown, mul_le_longestBuffer _ grown⟩

/-- The sizes and the chunk decide whether there are buffers. -/
theorem Addressable.congr
    {walk after : BatchWalk}
    (addressable : walk.Addressable)
    (keySize : after.keySize = walk.keySize)
    (valueSize : after.valueSize = walk.valueSize)
    (chunk : after.chunk = walk.chunk) :
    after.Addressable where
  keys := by
    rw [keySize, chunk]
    exact addressable.keys
  values := by
    rw [valueSize, chunk]
    exact addressable.values

section Fetch

variable
  {kernel : Kernel}
  {walk : BatchWalk}
  {place : Nat}
  {table : Table}
  (opened : kernel.resolve walk.descriptor = .ok (place, table))
  (addressable : walk.Addressable)

include opened addressable

end Fetch

/-- The next batch of a walk starts at a position of a table. -/
structure StandsAt (walk : BatchWalk) (table : Table) (position : Nat) : Prop where
  keySize : walk.keySize = table.spec.keySize
  valueSize : walk.valueSize = table.spec.valueSize
  position_eq : table.position walk.cursor.token = position
  /-- A token has room for a position. -/
  width : Table.tokenWidth ≤ walk.cursor.width
  active : walk.done = false

/-- The walk that is over. -/
def finish (walk : BatchWalk) : BatchWalk :=
  { walk with done := true }

/-- The walk with the token for a position. -/
def moveTo (walk : BatchWalk) (position : Nat) : BatchWalk :=
  { walk with
    cursor := { walk.cursor with
      token := some (Bytes.padded walk.cursor.width
        (Bytes.littleEndian Table.tokenWidth position)) } }

theorem StandsAt.resize
    {walk : BatchWalk}
    {table : Table}
    {position : Nat}
    (stands : walk.StandsAt table position)
    (chunk : UInt32)
    (positive : 0 < chunk) :
    (walk.resize chunk positive).StandsAt table position :=
  ⟨stands.keySize, stands.valueSize, stands.position_eq, stands.width, stands.active⟩

theorem Addressable.moveTo
    {walk : BatchWalk}
    (addressable : walk.Addressable)
    (position : Nat) :
    (walk.moveTo position).Addressable :=
  addressable.congr rfl rfl rfl

theorem StandsAt.moveTo
    {walk : BatchWalk}
    {table : Table}
    (valid : table.Valid)
    {start : Nat}
    (stands : walk.StandsAt table start)
    {position : Nat}
    (within : position ≤ table.entries.length) :
    (walk.moveTo position).StandsAt table position where
  keySize := stands.keySize
  valueSize := stands.valueSize
  position_eq := Table.position_littleEndian within
    (Nat.lt_of_le_of_lt within valid.length_lt_tokens) walk.cursor.width
  width := stands.width
  active := stands.active

theorem StandsAt.batchOf_eq
    {walk : BatchWalk}
    {table : Table}
    {start : Nat}
    (stands : walk.StandsAt table start) :
    table.batchOf walk.query = (table.entries.drop start).take walk.chunk.toNat := by
  rw [← stands.position_eq]
  rfl

/-- Entries of positive sizes can be told apart. -/
theorem stepOf_of_sizes
    (walk : BatchWalk)
    (sizes : walk.keySize ≠ 0 ∧ walk.valueSize ≠ 0)
    (left : BatchLeft) :
    walk.stepOf left =
      if left.count = 0 ∧ walk.done then .finished else .entries (walk.cut left) := by
  rw [stepOf, if_neg (not_or.2 sizes)]

/-- A token as wide as the cursor is taken over as it is. -/
theorem advance?_eq_moveTo
    {walk : BatchWalk}
    (width : Table.tokenWidth ≤ walk.cursor.width)
    (position : Nat) :
    { walk with
      cursor := (walk.cursor.advance? (Bytes.padded walk.cursor.width
        (Bytes.littleEndian Table.tokenWidth position))).getD walk.cursor } =
      walk.moveTo position := by
  rw [Cursor.advance?_eq_moveTo width]
  rfl

/-- A walk that is over gives nothing. -/
theorem run_next_of_done
    (host : Host σ)
    {walk : BatchWalk}
    (done : walk.done = true)
    (state : σ) :
    (walk.next host).run state = ((.finished, walk), state) := by
  rw [next, if_pos done]
  rfl

end BatchWalk

/-! ## What walks collect -/

namespace Dump

end Dump
end KernelMaps
