import KernelMaps.Cursor
import KernelMaps.Proofs.Packed
import KernelMaps.Proofs.ReadingBatch

/-!
# Positions of cursors

A token holds a position in its first bytes. A cursor that takes over the token
which a reading batch left stands where that batch ended.
-/

namespace KernelMaps

namespace Table

/-- The position that a token holds, whether or not a table reaches that far. -/
def tokenPosition (token : Option Bytes) : Nat :=
  token.elim 0 fun token => (token.fit tokenWidth).ofLittleEndian

theorem position_eq_min (table : Table) (token : Option Bytes) :
    table.position token = min (tokenPosition token) table.entries.length := rfl

/-- A token for a position holds it, as far as a token can count. -/
theorem tokenPosition_littleEndian
    {position : Nat}
    (small : position < Bytes.capacity tokenWidth)
    (width : Nat) :
    tokenPosition
      (some (Bytes.padded width (Bytes.littleEndian tokenWidth position))) =
      position := by
  rw [tokenPosition, Option.elim_some, Bytes.padded,
    Bytes.fit_append (Bytes.littleEndian_length tokenWidth position),
    Bytes.ofLittleEndian_littleEndian, Nat.mod_eq_of_lt small]

end Table

namespace Cursor

/-- The position at which the next batch starts, if the table reaches that far. -/
def position (cursor : Cursor) : Nat :=
  Table.tokenPosition cursor.token

/-- The cursor with the token for a position. -/
def moveTo (cursor : Cursor) (position : Nat) : Cursor :=
  { cursor with
    token := some (Bytes.padded cursor.width
      (Bytes.littleEndian Table.tokenWidth position)) }

@[simp] theorem position_new (keySize : UInt32) : (new keySize).position = 0 := rfl

@[simp] theorem width_moveTo (cursor : Cursor) (position : Nat) :
    (cursor.moveTo position).width = cursor.width := rfl

theorem width_new (keySize : UInt32) : Table.tokenWidth ≤ (new keySize).width :=
  Nat.le_max_right _ _

theorem position_moveTo
    {position : Nat}
    (small : position < Bytes.capacity Table.tokenWidth)
    (cursor : Cursor) :
    (cursor.moveTo position).position = position :=
  Table.tokenPosition_littleEndian small cursor.width

/-- A token is always long enough for the cursor. -/
theorem advance?_padded (cursor : Cursor) (token : Bytes) :
    cursor.advance? (Bytes.padded cursor.width token) =
      some { cursor with token := some (Bytes.fit cursor.width token) } := by
  have long : ¬(Bytes.padded cursor.width token).length < cursor.width := by
    rw [Bytes.padded_length]
    omega
  have start : (Bytes.padded cursor.width token).take cursor.width =
      Bytes.fit cursor.width token := by
    rw [Bytes.padded, Bytes.fit, List.take_append]
    exact congrArg (_ ++ ·)
      (List.take_of_length_le (Nat.le_of_eq (Bytes.zeros_length _)))
  rw [Cursor.advance?, if_neg long, start]

/-- A token as wide as the cursor is taken over as it is. -/
theorem advance?_eq_moveTo
    {cursor : Cursor}
    (width : Table.tokenWidth ≤ cursor.width)
    (position : Nat) :
    cursor.advance? (Bytes.padded cursor.width
      (Bytes.littleEndian Table.tokenWidth position)) =
      some (cursor.moveTo position) := by
  have length : (Bytes.padded cursor.width
      (Bytes.littleEndian Table.tokenWidth position)).length = cursor.width := by
    rw [Bytes.padded_length, Bytes.littleEndian_length]
    exact Nat.max_eq_right width
  rw [advance?, if_neg (by omega), List.take_of_length_le (Nat.le_of_eq length)]
  rfl

end Cursor
end KernelMaps
