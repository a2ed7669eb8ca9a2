import KernelMaps.Proofs.HexText
import Mathlib.Data.List.Forall2
import Mathlib.Data.List.TakeWhile

/-!
# Spellings of byte strings

A byte string that is not empty can be spelled in many ways: each letter in either
case, with a mark in front or without, and with blanks everywhere but inside of the
mark. The reader takes exactly the spellings, and a text that it refuses is empty,
holds a character that is no digit, or has a digit without partner.
-/

namespace KernelMaps
namespace Hex

/-! ## Spellings -/

/-- A written digit in either case. -/
def SameDigit (written c : Char) : Prop :=
  c = written ∨ c = written.toUpper

/-- A text with blanks before, between and after its characters. -/
inductive Spaced : List Char → List Char → Prop
  | nil : Spaced [] []
  | keep
      {digits text : List Char}
      (c : Char)
      (spaced : Spaced digits text) :
      Spaced (c :: digits) (c :: text)
  | blank
      {digits text : List Char}
      {c : Char}
      (isBlank : Text.isBlank c = true)
      (spaced : Spaced digits text) :
      Spaced digits (c :: text)

/-- The spellings of a byte string: the digits that are written of it, each in either
case, with blanks among them, and with a mark in front or without. -/
inductive Spells (bytes : Bytes) : List Char → Prop
  | bare
      {digits text : List Char}
      (same : List.Forall₂ SameDigit (bytes.flatMap digitsOf) digits)
      (spaced : Spaced digits text) :
      Spells bytes text
  | marked
      {blanks digits text : List Char}
      (isBlanks : Text.IsBlanks blanks)
      (same : List.Forall₂ SameDigit (bytes.flatMap digitsOf) digits)
      (spaced : Spaced digits text) :
      Spells bytes (blanks ++ '0' :: 'x' :: text)

/-! ## Case -/

/-- The upper case of a digit has the same value. -/
theorem digit?_toUpper :
    ∀ c : Char, (digit? c).isSome → digit? c.toUpper = digit? c :=
  forall_digit (by decide +kernel)

/-- A digit is the written digit of its value, up to its case. -/
theorem digitChar_digitValue :
    ∀ c : Char, (digit? c).isSome →
      Nat.digitChar (digitValue c) = c.toLower ∧ SameDigit c.toLower c :=
  forall_digit (by unfold SameDigit; decide +kernel)

theorem SameDigit.digit?_eq
    {written c : Char}
    (same : SameDigit written c)
    (digit : (digit? written).isSome) :
    digit? c = digit? written := by
  rcases same with rfl | rfl
  · rfl
  · exact digit?_toUpper written digit

/-- Digits in either case are digits of the same values. -/
theorem isDigits_of_same
    {written digits : List Char}
    (same : List.Forall₂ SameDigit written digits)
    (writtenDigits : IsDigits written) :
    IsDigits digits ∧ digits.map digitValue = written.map digitValue := by
  induction same with
  | nil => exact ⟨nofun, rfl⟩
  | cons first _ inductionHypothesis =>
      obtain ⟨digit, others⟩ := List.forall_mem_cons.1 writtenDigits
      obtain ⟨restDigits, restValues⟩ := inductionHypothesis others
      have read := first.digit?_eq digit
      refine ⟨List.forall_mem_cons.2 ⟨read ▸ digit, restDigits⟩, ?_⟩
      rw [List.map_cons, List.map_cons, restValues, digitValue, digitValue, read]

/-- The halves of a byte are the digits that it was joined from. -/
theorem digitsOf_joined
    {high low : Nat}
    (highSmall : high < 16)
    (lowSmall : low < 16) :
    digitsOf (UInt8.ofNat (16 * high + low)) = [Nat.digitChar high, Nat.digitChar low] := by
  have number : (UInt8.ofNat (16 * high + low)).toNat = 16 * high + low := by
    rw [UInt8.toNat_ofNat']
    omega
  have first : (16 * high + low) / 16 = high := by omega
  have second : (16 * high + low) % 16 = low := by omega
  rw [digitsOf, number, first, second]

/-- What is written of the bytes that digits make up is these digits in lower case. -/
theorem flatMap_digitsOf_joinPairs
    {count : Nat}
    {digits : List Char}
    (isDigits : IsDigits digits)
    (paired : digits.length = 2 * count) :
    (joinPairs (digits.map digitValue)).flatMap digitsOf = digits.map Char.toLower := by
  induction count generalizing digits with
  | zero =>
      obtain rfl := List.length_eq_zero_iff.1 paired
      rfl
  | succ count inductionHypothesis =>
      match digits, paired with
      | high :: low :: rest, paired =>
          obtain ⟨highDigit, others⟩ := List.forall_mem_cons.1 isDigits
          obtain ⟨lowDigit, restDigits⟩ := List.forall_mem_cons.1 others
          have shorter : rest.length = 2 * count := by
            rw [List.length_cons, List.length_cons] at paired
            omega
          rw [List.map_cons, List.map_cons, joinPairs, List.flatMap_cons,
            inductionHypothesis restDigits shorter,
            digitsOf_joined (digit_shape high highDigit).2.2 (digit_shape low lowDigit).2.2,
            (digitChar_digitValue high highDigit).1, (digitChar_digitValue low lowDigit).1]
          rfl

/-! ## Blanks -/

theorem significant_eq_filter (text : List Char) :
    significant text = (dropMark (Text.trim text)).filter Text.isInk := rfl

theorem filter_isInk_of_digits
    {text : List Char}
    (digits : IsDigits text) :
    text.filter Text.isInk = text := by
  rw [List.filter_eq_self]
  intro c member
  rw [Text.isInk, isBlank_of_digit (digits c member)]
  rfl

theorem Spaced.filter_eq
    {digits text : List Char}
    (spaced : Spaced digits text) :
    text.filter Text.isInk = digits.filter Text.isInk := by
  induction spaced with
  | nil => rfl
  | keep c _ inductionHypothesis =>
      rw [List.filter_cons, List.filter_cons, inductionHypothesis]
  | blank isBlank _ inductionHypothesis =>
      rw [List.filter_cons_of_neg (by simp [Text.isInk, isBlank]), inductionHypothesis]

/-- Every text is what is left of it without its blanks, with blanks in between. -/
theorem spaced_filter (text : List Char) : Spaced (text.filter Text.isInk) text := by
  induction text with
  | nil => exact .nil
  | cons c rest inductionHypothesis =>
      cases isBlank : Text.isBlank c with
      | true =>
          rw [List.filter_cons_of_neg (by simp [Text.isInk, isBlank])]
          exact .blank isBlank inductionHypothesis
      | false =>
          rw [List.filter_cons_of_pos (by simp [Text.isInk, isBlank])]
          exact .keep c inductionHypothesis

/-! ## The mark -/

theorem dropMark_cases (text : List Char) :
    (∃ rest, text = '0' :: 'x' :: rest ∧ dropMark text = rest) ∨
      dropMark text = text := by
  unfold dropMark
  split
  · exact Or.inl ⟨_, rfl, rfl⟩
  · exact Or.inr rfl

/-- The letter of the mark is neither a digit nor a blank. -/
theorem mark_not_mem_filter
    {text : List Char}
    (digits : IsDigits (text.filter Text.isInk)) :
    'x' ∉ text := by
  intro member
  have kept : 'x' ∈ text.filter Text.isInk :=
    List.mem_filter.2 ⟨member, by decide⟩
  exact absurd (digits 'x' kept) (by decide)

/-- Without a mark all digits count. -/
theorem significant_of_bare
    {text : List Char}
    (digits : IsDigits (text.filter Text.isInk)) :
    significant text = text.filter Text.isInk := by
  rw [significant_eq_filter, ← Text.filter_trim text]
  rcases dropMark_cases (Text.trim text) with ⟨rest, marked, _⟩ | same
  · rw [← Text.filter_trim text] at digits
    refine absurd ?_ (mark_not_mem_filter digits)
    rw [marked]
    exact List.mem_cons_of_mem _ List.mem_cons_self
  · rw [same]

/-- With a mark the digits behind it count. -/
theorem significant_of_marked
    {blanks : List Char}
    (isBlanks : Text.IsBlanks blanks)
    (text : List Char) :
    significant (blanks ++ '0' :: 'x' :: text) = text.filter Text.isInk := by
  have zero : Text.isBlank '0' = false := by decide
  have letter : Text.isBlank 'x' = false := by decide
  rw [significant_eq_filter, Text.trim_eq_trimEnd, List.dropWhile_append_of_pos isBlanks,
    List.dropWhile_cons_of_neg (by decide), Text.trimEnd_cons zero,
    Text.trimEnd_cons letter, dropMark, Text.filter_trimEnd]

/-- The significant characters are all that is behind the mark, if there is one. -/
theorem significant_cases (text : List Char) :
    (∃ blanks rest, Text.IsBlanks blanks ∧ text = blanks ++ '0' :: 'x' :: rest ∧
        significant text = rest.filter Text.isInk) ∨
      significant text = text.filter Text.isInk := by
  rcases dropMark_cases (Text.trim text) with ⟨rest, marked, _⟩ | same
  · obtain ⟨after, _, split⟩ := Text.exists_append_trimEnd (text.dropWhile Text.isBlank)
    rw [← Text.trim_eq_trimEnd, marked] at split
    have whole : text = text.takeWhile Text.isBlank ++ '0' :: 'x' :: (rest ++ after) := by
      conv_lhs => rw [← List.takeWhile_append_dropWhile (p := Text.isBlank) (l := text)]
      rw [split, List.cons_append, List.cons_append]
    have blanks := Text.isBlanks_takeWhile text
    refine Or.inl ⟨_, rest ++ after, blanks, whole, ?_⟩
    conv_lhs => rw [whole]
    exact significant_of_marked blanks _
  · right
    rw [significant_eq_filter, same, Text.filter_trim]

/-! ## What the reader takes -/

/-- How the reading of a text ends, told by its significant characters. -/
inductive ReadingEnds (text : String) : Except Error Bytes → Prop
  | empty
      (nothing : significant text.toList = []) :
      ReadingEnds text (.error .empty)
  | invalid
      (noDigit : ∃ c ∈ significant text.toList, digit? c = none) :
      ReadingEnds text (.error (.invalid text))
  | odd
      (digits : IsDigits (significant text.toList))
      (unpaired : (significant text.toList).length % 2 = 1) :
      ReadingEnds text (.error (.odd text))
  | read
      (digits : IsDigits (significant text.toList))
      (nonempty : significant text.toList ≠ [])
      (paired : (significant text.toList).length % 2 = 0) :
      ReadingEnds text (.ok (joinPairs ((significant text.toList).map digitValue)))

theorem readingEnds_parse (text : String) : ReadingEnds text (parse text) := by
  by_cases nothing : significant text.toList = []
  · have ended : parse text = .error .empty := if_pos (List.isEmpty_iff.2 nothing)
    rw [ended]
    exact .empty nothing
  have something : ¬(significant text.toList).isEmpty = true := by
    rwa [List.isEmpty_iff]
  by_cases digits : IsDigits (significant text.toList)
  · by_cases paired : (significant text.toList).length % 2 = 0
    · rw [parse_of_digits digits nothing paired]
      exact .read digits nothing paired
    · have allDigits : (significant text.toList).all isDigit = true :=
        List.all_eq_true.2 digits
      have ended : parse text = .error (.odd text) := by
        rw [parse, if_neg something, if_neg (by simp [allDigits]), width_of_digits digits,
          if_pos paired]
      rw [ended]
      exact .odd digits (by omega)
  · have noDigit : ∃ c ∈ significant text.toList, digit? c = none := by
      simpa [IsDigits] using digits
    obtain ⟨c, member, unread⟩ := noDigit
    have refused : (!(significant text.toList).all isDigit) = true := by
      rw [Bool.not_eq_true', List.all_eq_false]
      exact ⟨c, member, by simp [isDigit, unread]⟩
    have ended : parse text = .error (.invalid text) := by
      rw [parse, if_neg something, if_pos refused]
    rw [ended]
    exact .invalid ⟨c, member, unread⟩

/-- Only an empty text, a character that is no digit and a digit without partner are
faults. -/
theorem parse_error_cases
    {text : String}
    {error : Error}
    (refused : parse text = .error error) :
    error = .empty ∨ error = .invalid text ∨ error = .odd text := by
  have ends := readingEnds_parse text
  rw [refused] at ends
  cases ends with
  | empty => exact Or.inl rfl
  | invalid => exact Or.inr (Or.inl rfl)
  | odd => exact Or.inr (Or.inr rfl)

section Read

variable
  {text : String}
  {bytes : Bytes}
  (read : parse text = .ok bytes)

include read

/-- What is read of a text, and what is written of it. -/
theorem significant_of_parse :
    IsDigits (significant text.toList) ∧ bytes ≠ [] ∧
      bytes.flatMap digitsOf = (significant text.toList).map Char.toLower := by
  have ends := readingEnds_parse text
  rw [read] at ends
  cases ends with
  | read digits nonempty paired =>
      have whole : (significant text.toList).length =
          2 * ((significant text.toList).length / 2) := by
        omega
      have written := flatMap_digitsOf_joinPairs digits whole
      refine ⟨digits, ?_, written⟩
      intro nothing
      rw [nothing, List.flatMap_nil] at written
      exact nonempty (List.map_eq_nil_iff.1 written.symm)

theorem spells_of_parse : Spells bytes text.toList := by
  obtain ⟨digits, _, written⟩ := significant_of_parse read
  have same : List.Forall₂ SameDigit (bytes.flatMap digitsOf)
      (significant text.toList) := by
    rw [written, List.forall₂_map_left_iff, List.forall₂_same]
    intro c member
    exact (digitChar_digitValue c (digits c member)).2
  rcases significant_cases text.toList with ⟨blanks, rest, isBlanks, split, kept⟩ | kept
  · rw [kept] at same
    rw [split]
    exact .marked isBlanks same (spaced_filter rest)
  · rw [kept] at same
    exact .bare same (spaced_filter text.toList)

end Read

/-- The significant characters of a spelling are digits of the written values. -/
theorem Spells.significant_eq
    {bytes : Bytes}
    {text : List Char}
    (spells : Spells bytes text) :
    List.Forall₂ SameDigit (bytes.flatMap digitsOf) (significant text) := by
  cases spells with
  | @bare digits text same spaced =>
      have isDigits := (isDigits_of_same same (isDigits_flatMap bytes)).1
      have kept : text.filter Text.isInk = digits :=
        spaced.filter_eq.trans (filter_isInk_of_digits isDigits)
      rwa [significant_of_bare (by rwa [kept]), kept]
  | @marked blanks digits text isBlanks same spaced =>
      have isDigits := (isDigits_of_same same (isDigits_flatMap bytes)).1
      rwa [significant_of_marked isBlanks, spaced.filter_eq,
        filter_isInk_of_digits isDigits]

theorem parse_of_spells
    {bytes : Bytes}
    (nonempty : bytes ≠ [])
    {text : String}
    (spells : Spells bytes text.toList) :
    parse text = .ok bytes := by
  have same := spells.significant_eq
  obtain ⟨digits, values⟩ := isDigits_of_same same (isDigits_flatMap bytes)
  have length := same.length_eq
  rw [length_flatMap_digitsOf] at length
  have something : significant text.toList ≠ [] := by
    intro nothing
    rw [nothing, List.length_nil] at length
    exact nonempty (List.length_eq_zero_iff.1 (by omega))
  rw [parse_of_digits digits something (by omega), values, map_digitValue_flatMap,
    joinPairs_flatMap_halves]

/-- The reader takes the spellings of byte strings that are not empty, each as the byte
string that it spells, and nothing else. What is written of a byte string is one of its
spellings; it is what the reader found significant, in lower case. No text is refused
because of a pair of bytes. -/
theorem reads_spellings :
    (∀ (text : String) (bytes : Bytes),
        parse text = .ok bytes ↔ bytes ≠ [] ∧ Spells bytes text.toList) ∧
      (∀ bytes : Bytes, bytes ≠ [] → parse (encode bytes) = .ok bytes) ∧
      (∀ (text : String) (bytes : Bytes), parse text = .ok bytes →
        encode bytes = String.ofList ((significant text.toList).map Char.toLower)) ∧
      ∀ (text : String) (error : Error), parse text = .error error →
        error = .empty ∨ error = .invalid text ∨ error = .odd text := by
  refine ⟨?spelled, ?written, ?lower, fun _ _ => parse_error_cases⟩
  case spelled =>
    intro text bytes
    constructor
    · intro read
      exact ⟨(significant_of_parse read).2.1, spells_of_parse read⟩
    · rintro ⟨nonempty, spells⟩
      exact parse_of_spells nonempty spells
  case written =>
    intro bytes nonempty
    exact parse_encode nonempty
  case lower =>
    intro text bytes read
    exact congrArg String.ofList (significant_of_parse read).2.2

/-- Two bytes in mixed case, behind a mark, with a tab and a wide blank. -/
theorem reads_spellings_marked :
    let text := "\t0xD\u2003eA d "
    Spells [0xde, 0xad] text.toList ∧ parse text = .ok [0xde, 0xad] ∧
      parse "dead" = .ok [0xde, 0xad] ∧ parse "0 xde" = .error (.invalid "0 xde") := by
  intro text
  have characters :
      text.toList = ['\t'] ++ '0' :: 'x' :: ['D', '\u2003', 'e', 'A', ' ', 'd', ' '] := by
    decide +kernel
  have same : List.Forall₂ SameDigit (([0xde, 0xad] : Bytes).flatMap digitsOf)
      ['D', 'e', 'A', 'd'] :=
    .cons (.inr (by decide)) (.cons (.inl (by decide)) (.cons (.inr (by decide))
      (.cons (.inl (by decide)) .nil)))
  have spaced : Spaced ['D', 'e', 'A', 'd'] ['D', '\u2003', 'e', 'A', ' ', 'd', ' '] :=
    .keep _ (.blank (by decide) (.keep _ (.keep _ (.blank (by decide) (.keep _
      (.blank (by decide) .nil))))))
  have spells : Spells [0xde, 0xad] text.toList := by
    rw [characters]
    exact .marked (List.forall_mem_singleton.2 (by decide)) same spaced
  obtain ⟨spelled, written, _⟩ := reads_spellings
  have nonempty : ([0xde, 0xad] : Bytes) ≠ [] := List.cons_ne_nil _ _
  refine ⟨spells, (spelled _ _).2 ⟨nonempty, spells⟩, ?_, by decide +kernel⟩
  exact written [0xde, 0xad] nonempty

end Hex
end KernelMaps
