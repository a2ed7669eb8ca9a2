import KernelMaps.Text.Numeral

/-!
# Decimal numerals read back

The reader takes the decimal digits of every number up to its limit, with leading
zeros and one plus sign, and nothing else. The digits that are written of a number
are among them.
-/

namespace KernelMaps
namespace Text
namespace Numeral

/-- A text of decimal digits, at least one of them, and the number that it stands for. -/
structure Denotes (text : List Char) (number : Nat) : Prop where
  nonempty : text ≠ []
  digits : ∀ c ∈ text, c.isDigit = true
  value : Nat.ofDigitChars 10 text 0 = number

/-- The texts that are read as a number: its digits, with a plus sign in front or
without. -/
inductive Spells (number : Nat) : List Char → Prop
  | bare
      {text : List Char}
      (denotes : Denotes text number) :
      Spells number text
  | signed
      {text : List Char}
      (denotes : Denotes text number) :
      Spells number ('+' :: text)

/-- The digits that are written of a number stand for it. -/
theorem denotes_toDigits (number : Nat) : Denotes (Nat.toDigits 10 number) number where
  nonempty := Nat.toDigits_ne_nil
  digits := fun _ written => Nat.isDigit_of_mem_toDigits (by decide) (by decide) written
  value := Nat.ofDigitChars_ten_toDigits

theorem toList_toString (word : UInt32) :
    (toString word).toList = Nat.toDigits 10 word.toNat :=
  Nat.toList_repr

/-! ## Digits -/

theorem digit?_of_isDigit
    {c : Char}
    (isDigit : c.isDigit = true) :
    digit? c = some (c.toNat - '0'.toNat) :=
  if_pos isDigit

theorem digit?_of_not_isDigit
    {c : Char}
    (other : c.isDigit = false) :
    digit? c = none :=
  if_neg (Bool.eq_false_iff.1 other)

/-- Digits behind a number do not make it smaller. -/
theorem le_ofDigitChars (text : List Char) (number : Nat) :
    number ≤ Nat.ofDigitChars 10 text number := by
  rw [Nat.ofDigitChars_eq_ofDigitChars_zero]
  have scaled : number ≤ 10 ^ text.length * number :=
    Nat.le_mul_of_pos_left number (Nat.pow_pos (by decide))
  omega

/-- Digits are read as the number that they make up, unless this is above the limit. -/
theorem readDigits_of_digits
    {limit number : Nat}
    {text : List Char}
    (digits : ∀ c ∈ text, c.isDigit = true)
    (within : number ≤ limit) :
    readDigits limit number text =
      if Nat.ofDigitChars 10 text number ≤ limit then
        .ok (Nat.ofDigitChars 10 text number)
      else .error .tooLarge := by
  induction text generalizing number with
  | nil => rw [Nat.ofDigitChars_nil, if_pos within, readDigits]
  | cons c rest inductionHypothesis =>
      obtain ⟨first, others⟩ := List.forall_mem_cons.1 digits
      rw [readDigits, digit?_of_isDigit first, Nat.ofDigitChars_cons]
      dsimp only
      split
      · rename_i small
        exact inductionHypothesis others small
      · rename_i large
        have above := le_ofDigitChars rest (10 * number + (c.toNat - '0'.toNat))
        rw [if_neg (by omega)]

/-- What is read consists of digits. -/
theorem digits_of_readDigits
    {limit number result : Nat}
    {text : List Char}
    (read : readDigits limit number text = .ok result) :
    ∀ c ∈ text, c.isDigit = true := by
  induction text generalizing number with
  | nil => nofun
  | cons c rest inductionHypothesis =>
      cases isDigit : c.isDigit with
      | false =>
          rw [readDigits, digit?_of_not_isDigit isDigit] at read
          cases read
      | true =>
          rw [readDigits, digit?_of_isDigit isDigit] at read
          dsimp only at read
          split at read
          · exact List.forall_mem_cons.2 ⟨isDigit, inductionHypothesis read⟩
          · cases read

/-! ## Numerals -/

variable
  {limit number : Nat}
  {text : List Char}

theorem readUnsigned_of_denotes (denotes : Denotes text number) :
    readUnsigned limit text =
      if number ≤ limit then .ok number else .error .tooLarge := by
  obtain ⟨nonempty, digits, rfl⟩ := denotes
  rw [readUnsigned]
  · exact readDigits_of_digits digits (Nat.zero_le limit)
  · exact nonempty

theorem readUnsigned_eq_ok_iff :
    readUnsigned limit text = .ok number ↔ Denotes text number ∧ number ≤ limit := by
  constructor
  · intro read
    cases text with
    | nil => cases read
    | cons c rest =>
        have digits := digits_of_readDigits read
        have denotes : Denotes (c :: rest) (Nat.ofDigitChars 10 (c :: rest) 0) :=
          ⟨List.cons_ne_nil c rest, digits, rfl⟩
        rw [readUnsigned_of_denotes denotes] at read
        split at read
        · rename_i small
          obtain rfl := Except.ok.inj read
          exact ⟨denotes, small⟩
        · cases read
  · rintro ⟨denotes, small⟩
    rw [readUnsigned_of_denotes denotes, if_pos small]

/-- Digits have no sign in front. -/
theorem read_of_denotes (denotes : Denotes text number) :
    read limit text = if number ≤ limit then .ok number else .error .tooLarge := by
  have unsigned : ∀ rest, text ≠ '+' :: rest := by
    rintro rest rfl
    exact absurd (denotes.digits '+' List.mem_cons_self) (by decide)
  rw [read]
  · exact readUnsigned_of_denotes denotes
  · exact denotes.nonempty
  · exact unsigned

/-- Where a minus sign may come first, digits without one are read all the same. -/
theorem readSigned_of_denotes (denotes : Denotes text number) :
    readSigned limit text = if number ≤ limit then .ok number else .error .tooLarge := by
  rw [readSigned]
  · exact read_of_denotes denotes
  · rintro rest rfl
    exact absurd (denotes.digits '-' List.mem_cons_self) (by decide)

/-- The reader takes the spellings of the numbers up to its limit, and nothing else. -/
theorem read_eq_ok_iff :
    read limit text = .ok number ↔ Spells number text ∧ number ≤ limit := by
  constructor
  · intro result
    unfold read at result
    split at result
    · cases result
    · obtain ⟨denotes, small⟩ := readUnsigned_eq_ok_iff.1 result
      exact ⟨.signed denotes, small⟩
    · obtain ⟨denotes, small⟩ := readUnsigned_eq_ok_iff.1 result
      exact ⟨.bare denotes, small⟩
  · rintro ⟨spells, small⟩
    cases spells with
    | bare denotes => rw [read_of_denotes denotes, if_pos small]
    | signed denotes => exact readUnsigned_eq_ok_iff.2 ⟨denotes, small⟩

/-- A text is read as one number only. -/
theorem Spells.unique
    {other : Nat}
    (spells : Spells number text)
    (others : Spells other text) :
    number = other := by
  have read := read_eq_ok_iff.2 ⟨spells, Nat.le_max_left number other⟩
  rw [read_eq_ok_iff.2 ⟨others, Nat.le_max_right number other⟩] at read
  exact (Except.ok.inj read).symm

end Numeral
end Text
end KernelMaps
