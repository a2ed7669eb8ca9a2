import KernelMaps.Hex
import KernelMaps.Proofs.Blanks
import Mathlib.Data.List.Basic

/-!
# Hexadecimal byte strings read back

What is written of a byte string is read as this byte string. The written form
holds digits only, so the reader finds no blank and no mark to pass over.
-/

namespace KernelMaps
namespace Hex

/-! ## Digits -/

/-- A text that consists of digits. -/
def IsDigits (text : List Char) : Prop :=
  ∀ c ∈ text, (digit? c).isSome

/-- The ranges in which digits lie. -/
theorem digit_ranges
    {c : Char}
    (digit : (digit? c).isSome) :
    48 ≤ c.toNat ∧ c.toNat ≤ 57 ∨ 97 ≤ c.toNat ∧ c.toNat ≤ 102 ∨
      65 ≤ c.toNat ∧ c.toNat ≤ 70 := by
  simp only [digit?, Bool.and_eq_true, decide_eq_true_eq, Char.le_def,
    UInt32.le_iff_toNat_le] at digit
  split at digit
  · rename_i decimal
    exact Or.inl decimal
  · split at digit
    · rename_i lower
      exact Or.inr (Or.inl lower)
    · split at digit
      · rename_i upper
        exact Or.inr (Or.inr upper)
      · cases digit

theorem isBlank_of_digit
    {c : Char}
    (digit : (digit? c).isSome) :
    Text.isBlank c = false := by
  have ranges := digit_ranges digit
  exact Text.isBlank_of_ascii (by omega) (by omega)

/-! ## Nothing is passed over -/

section Digits

variable {text : List Char} (digits : IsDigits text)

include digits

theorem trim_of_digits : Text.trim text = text :=
  Text.trim_of_ink fun c member => isBlank_of_digit (digits c member)

theorem dropMark_of_digits : dropMark text = text := by
  unfold dropMark
  split
  · have mark := digit_ranges (digits 'x' (by simp))
    exact absurd mark (by decide)
  · rfl

theorem significant_of_digits : significant text = text := by
  rw [significant, trim_of_digits digits, dropMark_of_digits digits,
    List.filter_eq_self]
  intro c written
  rw [isBlank_of_digit (digits c written)]
  rfl

end Digits

/-! ## Reading digits in pairs -/

/-- The value of a digit. -/
def digitValue (c : Char) : Nat :=
  (digit? c).getD 0

/-- Digits are ASCII characters, so what is true of each of them can be checked one
by one. -/
theorem forall_digit
    {P : Char → Prop}
    (each : ∀ number : Fin 128,
      (digit? (Char.ofNat number)).isSome → P (Char.ofNat number)) :
    ∀ c : Char, (digit? c).isSome → P c := by
  intro c digit
  have ranges := digit_ranges digit
  have checked := each ⟨c.toNat, by omega⟩
  rw [Char.ofNat_toNat] at checked
  exact checked digit

/-- A digit is one byte wide, is no sign, and its value takes up half a byte. -/
theorem digit_shape :
    ∀ c : Char, (digit? c).isSome →
      c.utf8Size = 1 ∧ c ≠ '+' ∧ digitValue c < 16 :=
  forall_digit (by decide +kernel)

theorem digit?_eq_digitValue
    {c : Char}
    (digit : (digit? c).isSome) :
    digit? c = some (digitValue c) := by
  obtain ⟨value, read⟩ := Option.isSome_iff_exists.1 digit
  rw [digitValue, read, Option.getD_some]

theorem width_of_digits
    {text : List Char}
    (digits : IsDigits text) :
    Utf8.width text = text.length := by
  induction text with
  | nil => rfl
  | cons c rest inductionHypothesis =>
      obtain ⟨first, others⟩ := List.forall_mem_cons.1 digits
      have step : Utf8.width (c :: rest) = c.utf8Size + Utf8.width rest := rfl
      rw [step, (digit_shape c first).1, inductionHypothesis others, List.length_cons,
        Nat.add_comm]

section Pair

variable
  {high low : Char}
  (highDigit : (digit? high).isSome)
  (lowDigit : (digit? low).isSome)

include highDigit lowDigit

/-- Two bytes from the start of digits are two digits. -/
theorem splitAt?_of_digits (rest : List Char) :
    Utf8.splitAt? 2 (high :: low :: rest) = some ([high, low], rest) := by
  simp [Utf8.splitAt?, (digit_shape high highDigit).1, (digit_shape low lowDigit).1]

/-- Two digits are read as the byte whose halves they are. -/
theorem readByte_of_digits :
    readByte [high, low] =
      .ok (UInt8.ofNat (16 * digitValue high + digitValue low)) := by
  have noSign := (digit_shape high highDigit).2.1
  have highSmall := (digit_shape high highDigit).2.2
  have lowSmall := (digit_shape low lowDigit).2.2
  have first : 16 * 0 + digitValue high < UInt8.size := by
    simp only [UInt8.size]
    omega
  have both : 16 * (16 * 0 + digitValue high) + digitValue low < UInt8.size := by
    simp only [UInt8.size]
    omega
  have read : readDigits 0 [high, low] =
      .ok (16 * (16 * 0 + digitValue high) + digitValue low) := by
    simp only [readDigits, digit?_eq_digitValue highDigit, digit?_eq_digitValue lowDigit,
      if_pos first, if_pos both]
  have unsigned : ∀ rest, [high, low] ≠ '+' :: rest := by
    intro rest signed
    exact noSign (List.cons.inj signed).1
  rw [readByte, read, Nat.mul_zero, Nat.zero_add]
  · rfl
  · nofun
  · exact unsigned []
  · exact unsigned

end Pair

/-- Digits are read in pairs without a fault. -/
theorem readPairs_of_digits
    {count : Nat}
    {text : List Char}
    (digits : IsDigits text)
    (paired : text.length = 2 * count) :
    readPairs count text = .ok (joinPairs (text.map digitValue)) := by
  induction count generalizing text with
  | zero =>
      obtain rfl := List.length_eq_zero_iff.1 paired
      rfl
  | succ count inductionHypothesis =>
      match text, paired with
      | high :: low :: rest, paired =>
          obtain ⟨highDigit, others⟩ := List.forall_mem_cons.1 digits
          obtain ⟨lowDigit, restDigits⟩ := List.forall_mem_cons.1 others
          have shorter : rest.length = 2 * count := by
            rw [List.length_cons, List.length_cons] at paired
            omega
          rw [readPairs, splitAt?_of_digits highDigit lowDigit]
          dsimp only
          rw [readByte_of_digits highDigit lowDigit]
          dsimp only
          rw [inductionHypothesis restDigits shorter]
          rfl

/-- A text is read as the byte string that its digits make up in pairs. -/
theorem parse_of_digits
    {text : String}
    (digits : IsDigits (significant text.toList))
    (nonempty : significant text.toList ≠ [])
    (paired : (significant text.toList).length % 2 = 0) :
    parse text = .ok (joinPairs ((significant text.toList).map digitValue)) := by
  have something : ¬(significant text.toList).isEmpty = true := by
    rwa [List.isEmpty_iff]
  have allDigits : (significant text.toList).all isDigit = true :=
    List.all_eq_true.2 digits
  have valid : ¬(!(significant text.toList).all isDigit) = true := by
    rw [allDigits]
    decide
  have width := width_of_digits digits
  have whole : (significant text.toList).length =
      2 * ((significant text.toList).length / 2) := by
    omega
  rw [parse, if_neg something, if_neg valid, width, if_neg (not_not.2 paired)]
  exact readPairs_of_digits digits whole

/-! ## Reading what was written -/

/-- Each digit that is written is read as its own value. -/
theorem digit?_digitChar
    {number : Nat}
    (small : number < 16) :
    digit? (Nat.digitChar number) = some number := by
  have each : ∀ number : Fin 16, digit? (Nat.digitChar number) = some number.val := by
    decide
  exact each ⟨number, small⟩

/-- The values of the two digits of a byte, high half first. -/
def halves (byte : UInt8) : List Nat :=
  [byte.toNat / 16, byte.toNat % 16]

/-- The two digits of a byte are read as its halves. -/
theorem digit?_halves (byte : UInt8) :
    digit? (Nat.digitChar (byte.toNat / 16)) = some (byte.toNat / 16) ∧
      digit? (Nat.digitChar (byte.toNat % 16)) = some (byte.toNat % 16) := by
  have bound := byte.toNat_lt
  exact ⟨digit?_digitChar (by omega), digit?_digitChar (by omega)⟩

theorem map_digitValue_flatMap (bytes : Bytes) :
    (bytes.flatMap digitsOf).map digitValue = bytes.flatMap halves := by
  rw [List.map_flatMap]
  refine List.flatMap_congr fun byte _ => ?_
  obtain ⟨high, low⟩ := digit?_halves byte
  simp [digitsOf, halves, digitValue, high, low]

theorem isDigits_flatMap (bytes : Bytes) : IsDigits (bytes.flatMap digitsOf) := by
  intro c written
  obtain ⟨byte, _, inByte⟩ := List.mem_flatMap.1 written
  obtain ⟨high, low⟩ := digit?_halves byte
  simp only [digitsOf, List.mem_cons, List.not_mem_nil, or_false] at inByte
  rcases inByte with rfl | rfl
  · rw [high]
    rfl
  · rw [low]
    rfl

theorem length_flatMap_digitsOf (bytes : Bytes) :
    (bytes.flatMap digitsOf).length = 2 * bytes.length := by
  induction bytes with
  | nil => rfl
  | cons byte rest inductionHypothesis =>
      rw [List.flatMap_cons, List.length_append, inductionHypothesis, List.length_cons,
        digitsOf, List.length_cons, List.length_singleton]
      omega

theorem flatMap_digitsOf_ne_nil
    {bytes : Bytes}
    (nonempty : bytes ≠ []) :
    bytes.flatMap digitsOf ≠ [] := by
  cases bytes with
  | nil => exact absurd rfl nonempty
  | cons byte rest => nofun

/-- Two halves make the byte they come from. -/
theorem joinPairs_flatMap_halves (bytes : Bytes) :
    joinPairs (bytes.flatMap halves) = bytes := by
  induction bytes with
  | nil => rfl
  | cons byte rest inductionHypothesis =>
      have whole : 16 * (byte.toNat / 16) + byte.toNat % 16 = byte.toNat := by omega
      rw [List.flatMap_cons, halves, List.cons_append, List.singleton_append, joinPairs,
        inductionHypothesis, whole, UInt8.ofNat_toNat]

/-- The written form of a byte string that is not empty is read as this byte
string. -/
theorem parse_encode
    {bytes : Bytes}
    (nonempty : bytes ≠ []) :
    parse (encode bytes) = .ok bytes := by
  have written : significant (encode bytes).toList = bytes.flatMap digitsOf := by
    rw [encode, String.toList_ofList, significant_of_digits (isDigits_flatMap bytes)]
  have paired : (bytes.flatMap digitsOf).length % 2 = 0 := by
    rw [length_flatMap_digitsOf]
    omega
  rw [parse_of_digits] <;> rw [written]
  · rw [map_digitValue_flatMap, joinPairs_flatMap_halves]
  · exact isDigits_flatMap bytes
  · exact flatMap_digitsOf_ne_nil nonempty
  · exact paired

end Hex
end KernelMaps
