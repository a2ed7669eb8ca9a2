import KernelMaps.Operation.Metadata
import KernelMaps.Proofs.Operations

/-!
# The leading metadata

The kernel may write less than the whole record of a map. The six leading words
take up 24 bytes; as long as these are written, the client reads them all.
-/

namespace KernelMaps
namespace Bytes

/-- What lies within the bytes that are kept is read as before. -/
theorem take_drop_take
    {offset width length : Nat}
    (fits : offset + width ≤ length)
    (bytes : Bytes) :
    ((bytes.take length).drop offset).take width = (bytes.drop offset).take width := by
  have room : min width (length - offset) = width := by omega
  rw [List.drop_take, List.take_take, room]

end Bytes

namespace MapRecord

/-- A word that lies within the bytes that are kept is kept. -/
theorem wordAt_take
    {offset length : Nat}
    (fits : offset + 4 ≤ length)
    (bytes : Bytes) :
    wordAt offset (bytes.take length) = wordAt offset bytes := by
  rw [wordAt, wordAt, Bytes.take_drop_take fits]

theorem wordAt_word_append (value : UInt32) (rest : Bytes) :
    wordAt 0 (word value ++ rest) = value := by
  have small : value.toNat < Bytes.capacity 4 := value.toNat_lt
  have width : (word value).length = 4 := Bytes.littleEndian_length 4 value.toNat
  have first : (word value ++ rest).take 4 = word value := List.take_left' width
  rw [wordAt, List.drop_zero, first, word, Bytes.ofLittleEndian_littleEndian,
    Nat.mod_eq_of_lt small, UInt32.ofNat_toNat]

/-- A word does not move what follows it. -/
theorem wordAt_skip (offset : Nat) (value : UInt32) (rest : Bytes) :
    wordAt (offset + 4) (word value ++ rest) = wordAt offset rest := by
  have width : (word value).length = 4 := Bytes.littleEndian_length 4 value.toNat
  have after : (word value ++ rest).drop 4 = rest := List.drop_left' width
  rw [wordAt, wordAt, Nat.add_comm, ← List.drop_drop, after]

end MapRecord

/-- The metadata give the leading words of a table. -/
structure MapInfo.Describes (info : MapInfo) (table : Table) : Prop where
  mapType : info.mapType = table.spec.mapType
  id : info.id = table.id
  keySize : info.keySize = table.spec.keySize
  valueSize : info.valueSize = table.spec.valueSize
  maxEntries : info.maxEntries = table.spec.maxEntries
  mapFlags : info.mapFlags = table.spec.mapFlags

namespace Table

/-- The metadata of a table as a client sees them under a limit. -/
def infoWithin (table : Table) (limit : Option UInt32) : MapInfo :=
  let length := Kernel.infoLength { infoLimit := limit } (UInt32.ofNat MapRecord.size)
  .ofRecord (.decode (table.record.encode.take length.toNat)) length

/-- A limit leaves room for the leading words. -/
def WritesLeading (limit : Option UInt32) : Prop :=
  ∀ length, limit = some length → 24 ≤ length

theorem WritesLeading.le_infoLength
    {limit : Option UInt32}
    (enough : WritesLeading limit) :
    24 ≤
      (Kernel.infoLength { infoLimit := limit } (UInt32.ofNat MapRecord.size)).toNat := by
  have full : (24 : UInt32) ≤ UInt32.ofNat MapRecord.size := by decide
  have written : (24 : UInt32) ≤
      Kernel.infoLength { infoLimit := limit } (UInt32.ofNat MapRecord.size) := by
    unfold Kernel.infoLength
    refine Std.le_min_iff.2 ⟨Std.le_min_iff.2 ⟨full, full⟩, ?_⟩
    cases limit with
    | none => exact full
    | some length => exact enough length rfl
  exact UInt32.le_iff_toNat_le.1 written

/-- The leading words are read as they are if there is room for them. -/
theorem infoWithin_describes
    {limit : Option UInt32}
    (enough : WritesLeading limit)
    (table : Table) :
    (table.infoWithin limit).Describes table := by
  have written := enough.le_infoLength
  constructor
  all_goals
    simp only [infoWithin, MapInfo.ofRecord, MapRecord.decode]
    rw [MapRecord.wordAt_take (by omega)]
    simp only [MapRecord.encode, List.append_assoc]
  · rw [MapRecord.wordAt_word_append, record]
  · rw [MapRecord.wordAt_skip 0, MapRecord.wordAt_word_append, record]
  · rw [MapRecord.wordAt_skip 4, MapRecord.wordAt_skip 0,
      MapRecord.wordAt_word_append, record]
  · rw [MapRecord.wordAt_skip 8, MapRecord.wordAt_skip 4, MapRecord.wordAt_skip 0,
      MapRecord.wordAt_word_append, record]
  · rw [MapRecord.wordAt_skip 12, MapRecord.wordAt_skip 8, MapRecord.wordAt_skip 4,
      MapRecord.wordAt_skip 0, MapRecord.wordAt_word_append, record]
  · rw [MapRecord.wordAt_skip 16, MapRecord.wordAt_skip 12, MapRecord.wordAt_skip 8,
      MapRecord.wordAt_skip 4, MapRecord.wordAt_skip 0,
      MapRecord.wordAt_word_append, record]

end Table

namespace Kernel

/-- The metadata query through an open descriptor. -/
theorem run_info_resolved
    {kernel : Kernel}
    {descriptor : Descriptor}
    {place : Nat}
    {table : Table}
    (opened : kernel.resolve descriptor = .ok (place, table)) :
    (Kernel.host.info descriptor).run kernel =
      ((.ok, table.infoWithin kernel.infoLimit), kernel) := by
  rw [Host.info, StateT.run_bind, run_issue, answer_resolved rfl opened]
  simp only [Table.respond, Table.attempt, replace_self opened]
  rfl

end Kernel
end KernelMaps
