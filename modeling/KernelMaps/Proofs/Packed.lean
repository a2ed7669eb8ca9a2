import KernelMaps.Bytes
import Mathlib.Data.List.Basic

/-!
# Packed arrays

A packed array holds elements of one width after one another. Cutting it into
pieces gives the elements back.
-/

namespace KernelMaps
namespace Bytes

@[simp] theorem pieces_zero (width : Nat) (bytes : Bytes) :
    pieces width 0 bytes = [] := rfl

theorem pieces_succ (width count : Nat) (bytes : Bytes) :
    pieces width (count + 1) bytes =
      fit width bytes :: pieces width count (bytes.drop width) := rfl

/-- A second read at the same width changes nothing. -/
@[simp] theorem fit_fit (width : Nat) (bytes : Bytes) :
    fit width (fit width bytes) = fit width bytes :=
  fit_of_length (fit_length width bytes)

/-- A read takes nothing beyond its width. -/
theorem fit_append
    {width : Nat}
    {first : Bytes}
    (firstWidth : first.length = width)
    (rest : Bytes) :
    fit width (first ++ rest) = first := by
  subst firstWidth
  have short : first.length - (first.length + rest.length) = 0 := by omega
  simp [fit, zeros, short]

theorem length_packed
    {items : List α}
    {bytesOf : α → Bytes}
    {width : Nat}
    (widths : ∀ item ∈ items, (bytesOf item).length = width) :
    (items.flatMap bytesOf).length = items.length * width := by
  induction items with
  | nil => simp
  | cons item rest inductionHypothesis =>
      obtain ⟨itemWidth, restWidths⟩ := List.forall_mem_cons.1 widths
      rw [List.flatMap_cons, List.length_append, inductionHypothesis restWidths,
        itemWidth, List.length_cons, Nat.succ_mul]
      omega

/-- The first pieces of a buffer that starts with a packed array are its elements. -/
theorem pieces_packed_append
    {items : List α}
    {bytesOf : α → Bytes}
    {width : Nat}
    (widths : ∀ item ∈ items, (bytesOf item).length = width)
    (rest : Bytes) :
    pieces width items.length (items.flatMap bytesOf ++ rest) =
      items.map bytesOf := by
  induction items with
  | nil => rfl
  | cons item items inductionHypothesis =>
      obtain ⟨itemWidth, othersWidths⟩ := List.forall_mem_cons.1 widths
      rw [List.flatMap_cons, List.append_assoc, List.length_cons, pieces_succ,
        fit_append itemWidth, ← itemWidth, List.drop_left, itemWidth,
        inductionHypothesis othersWidths, List.map_cons]

/-- The pieces of a packed array are its elements. -/
theorem pieces_packed
    {items : List α}
    {bytesOf : α → Bytes}
    {width : Nat}
    (widths : ∀ item ∈ items, (bytesOf item).length = width) :
    pieces width items.length (items.flatMap bytesOf) = items.map bytesOf := by
  have pieces := pieces_packed_append widths []
  rwa [List.append_nil] at pieces

/-! ## Pieces of a buffer -/

/-- The pieces of a byte string, one after the other. -/
theorem pieces_eq_map_range (width count : Nat) (bytes : Bytes) :
    pieces width count bytes =
      (List.range count).map fun index => fit width (bytes.drop (index * width)) := by
  induction count generalizing bytes with
  | zero => rfl
  | succ count inductionHypothesis =>
      rw [pieces, inductionHypothesis, List.range_succ_eq_map, List.map_cons, List.map_map,
        Nat.zero_mul, List.drop_zero]
      refine congrArg (_ :: ·) (List.map_congr_left fun index _ => ?_)
      rw [List.drop_drop, Function.comp_apply, Nat.succ_mul, Nat.add_comm]

/-- Beyond its end a byte string reads zero. -/
theorem getElem?_fit
    {width index : Nat}
    (within : index < width)
    (bytes : Bytes) :
    (fit width bytes)[index]? = some (bytes[index]?.getD 0) := by
  rw [fit, List.getElem?_append, List.length_take]
  split
  · rename_i inside
    have present : index < bytes.length := Nat.lt_of_lt_of_le inside (Nat.min_le_right _ _)
    rw [List.getElem?_take_of_lt within, List.getElem?_eq_getElem present, Option.getD_some]
  · rename_i outside
    have absent : bytes.length ≤ index := by omega
    rw [List.getElem?_eq_none absent, Option.getD_none, zeros, List.getElem?_replicate,
      if_pos (by omega)]

/-- A piece of a byte string is a slice of the buffer that it was written into. -/
theorem fit_drop_eq_take_drop
    {width count index : Nat}
    (within : index < count)
    (bytes : Bytes) :
    fit width (bytes.drop (index * width)) =
      ((fit (width * count) bytes).drop (index * width)).take width := by
  have room : index * width + width ≤ width * count := by
    rw [← Nat.succ_mul, Nat.mul_comm width]
    exact Nat.mul_le_mul_right width within
  refine List.ext_getElem? fun position => ?_
  by_cases small : position < width
  · rw [getElem?_fit small, List.getElem?_take_of_lt small, List.getElem?_drop,
      List.getElem?_drop, getElem?_fit (by omega)]
  · rw [List.getElem?_eq_none, List.getElem?_eq_none]
    · rw [List.length_take]
      omega
    · rw [fit_length]
      omega

end Bytes
end KernelMaps
