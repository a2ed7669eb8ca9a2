import KernelMaps.Proofs.Numerals
import KernelMaps.Release
import Mathlib.Data.List.TakeWhile
import Mathlib.Data.Prod.Lex

/-!
# Releases read back

A release starts with the numerals of its major and its minor number and a dot
between them. The number of its patch follows behind a second dot, or else is zero.
What comes after the numbers does not matter, and no other text is a release.
-/

namespace KernelMaps
namespace Release

open Text.Numeral (Denotes denotes_toDigits read_of_denotes toList_toString)

/-! ## Releases as texts -/

/-- A text does not go on with a digit. -/
def EndsNumeral (rest : List Char) : Prop :=
  ∀ c ∈ rest.head?, c.isDigit = false

/-- A text does not go on with a digit or a dot. -/
def EndsNumbers (rest : List Char) : Prop :=
  ∀ c ∈ rest.head?, isNumeric c = false

/-- The number of the patch, told by what follows the minor number. -/
inductive Patched : List Char → UInt32 → Prop
  /-- A dot and the numeral of a word. -/
  | given
      {digits rest : List Char}
      {patch : UInt32}
      (denotes : Denotes digits patch.toNat)
      (ends : EndsNumeral rest) :
      Patched ('.' :: (digits ++ rest)) patch
  /-- A dot and the numeral of a number that is too large for a word. -/
  | tooLarge
      {digits rest : List Char}
      {number : Nat}
      (denotes : Denotes digits number)
      (ends : EndsNumeral rest)
      (large : UInt32.size ≤ number) :
      Patched ('.' :: (digits ++ rest)) 0
  /-- No numeral behind a dot. -/
  | missing
      {rest : List Char}
      (missing : ∀ later, rest = '.' :: later → EndsNumeral later) :
      Patched rest 0

/-- The texts that start with a release. -/
inductive Begins (release : Release) : List Char → Prop
  | intro
      {major minor rest : List Char}
      (majorDenotes : Denotes major release.major.toNat)
      (minorDenotes : Denotes minor release.minor.toNat)
      (ends : EndsNumeral rest)
      (patched : Patched rest release.patch) :
      Begins release (major ++ '.' :: (minor ++ rest))

/-! ## The numbers between the dots -/

/-- The pieces between the dots at the start of a text. -/
def pieces (text : List Char) : List (List Char) :=
  (text.takeWhile isNumeric).splitOn '.'

/-- The pieces behind a first one: there are some only if a dot comes next. -/
def behind : List Char → List (List Char)
  | '.' :: later => pieces later
  | _ => []

theorem isNumeric_of_isDigit
    {c : Char}
    (isDigit : c.isDigit = true) :
    isNumeric c = true := by
  rw [isNumeric, isDigit, Bool.true_or]

/-- Without a dot behind the digits there is nothing more. -/
theorem behind_of_ends
    {rest : List Char}
    (ends : EndsNumeral rest)
    (noDot : ∀ later, rest ≠ '.' :: later) :
    behind rest = [] ∧ rest.takeWhile isNumeric = [] := by
  cases rest with
  | nil => exact ⟨rfl, rfl⟩
  | cons c later =>
      have other : c ≠ '.' := by
        rintro rfl
        exact noDot later rfl
      have notNumeric : isNumeric c = false := by
        rw [isNumeric, ends c rfl, Bool.false_or]
        exact beq_eq_false_iff_ne.2 other
      constructor
      · rw [behind]
        intro later' equal
        exact noDot later' equal
      · exact List.takeWhile_cons_of_neg (by rw [notNumeric]; decide)

/-- Digits that no further digit follows are the first piece. -/
theorem pieces_append
    {digits rest : List Char}
    (isDigits : ∀ c ∈ digits, c.isDigit = true)
    (ends : EndsNumeral rest) :
    pieces (digits ++ rest) = digits :: behind rest := by
  have numeric : ∀ c ∈ digits, isNumeric c = true :=
    fun c member => isNumeric_of_isDigit (isDigits c member)
  have noDot : '.' ∉ digits :=
    fun member => absurd (isDigits '.' member) (by decide)
  rw [pieces, List.takeWhile_append_of_pos numeric]
  by_cases dot : ∃ later, rest = '.' :: later
  · obtain ⟨later, rfl⟩ := dot
    have isNumeric_dot : isNumeric '.' = true := by decide
    rw [List.takeWhile_cons_of_pos isNumeric_dot,
      List.splitOn_append_cons_self_of_not_mem noDot, behind, pieces]
  · have nothing := behind_of_ends ends (not_exists.1 dot)
    rw [nothing.1, nothing.2, List.append_nil, List.splitOn_eq_singleton noDot]

/-- Every text starts with digits, perhaps none. -/
theorem exists_digits_append (text : List Char) :
    ∃ digits rest, text = digits ++ rest ∧ (∀ c ∈ digits, c.isDigit = true) ∧
      EndsNumeral rest := by
  refine ⟨text.takeWhile Char.isDigit, text.dropWhile Char.isDigit,
    List.takeWhile_append_dropWhile.symm, fun _ => List.mem_takeWhile_imp, ?_⟩
  intro c first
  have stopped := List.head?_dropWhile_not Char.isDigit text
  rw [Option.mem_def.1 first] at stopped
  exact stopped

/-! ## The numbers -/

theorem readNumber?_of_denotes
    {digits : List Char}
    {number : Nat}
    (denotes : Denotes digits number) :
    readNumber? digits =
      if number < UInt32.size then some (UInt32.ofNat number) else none := by
  rw [readNumber?, read_of_denotes denotes]
  have within : number ≤ wordLimit ↔ number < UInt32.size :=
    Nat.le_sub_one_iff_lt (by decide)
  by_cases small : number < UInt32.size
  · rw [if_pos small, if_pos (within.2 small)]
  · rw [if_neg small, if_neg (mt within.1 small)]

/-- Digits are read as a word if they stand for one. -/
theorem readNumber?_eq_some_iff
    {digits : List Char}
    (isDigits : ∀ c ∈ digits, c.isDigit = true)
    {word : UInt32} :
    readNumber? digits = some word ↔ Denotes digits word.toNat := by
  constructor
  · intro read
    have nonempty : digits ≠ [] := by
      rintro rfl
      cases read
    have denotes : Denotes digits (Nat.ofDigitChars 10 digits 0) :=
      ⟨nonempty, isDigits, rfl⟩
    rw [readNumber?_of_denotes denotes] at read
    split at read
    · rename_i small
      obtain rfl := Option.some.inj read
      rwa [UInt32.toNat_ofNat_of_lt' small]
    · cases read
  · intro denotes
    rw [readNumber?_of_denotes denotes, if_pos word.toNat_lt, UInt32.ofNat_toNat]

/-- The number of the patch that is read behind the minor number. -/
def patchBehind (rest : List Char) : UInt32 :=
  ((behind rest).head?.bind readNumber?).getD 0

/-- Behind a dot the digits that come first count, if they stand for a word. -/
theorem patchBehind_of_digits
    {digits rest : List Char}
    (isDigits : ∀ c ∈ digits, c.isDigit = true)
    (ends : EndsNumeral rest) :
    patchBehind ('.' :: (digits ++ rest)) = (readNumber? digits).getD 0 := by
  rw [patchBehind, behind, pieces_append isDigits ends, List.head?_cons, Option.bind_some]

theorem patched_patchBehind
    {rest : List Char}
    (ends : EndsNumeral rest) :
    Patched rest (patchBehind rest) := by
  by_cases dot : ∃ later, rest = '.' :: later
  · obtain ⟨later, rfl⟩ := dot
    obtain ⟨digits, more, rfl, isDigits, moreEnds⟩ := exists_digits_append later
    rw [patchBehind_of_digits isDigits moreEnds]
    by_cases nonempty : digits = []
    · subst nonempty
      refine .missing ?_
      rintro _ ⟨rfl⟩
      exact moreEnds
    · have denotes : Denotes digits (Nat.ofDigitChars 10 digits 0) :=
        ⟨nonempty, isDigits, rfl⟩
      rw [readNumber?_of_denotes denotes]
      split
      · rename_i small
        refine .given ?_ moreEnds
        rwa [Option.getD_some, UInt32.toNat_ofNat_of_lt' small]
      · rename_i large
        exact .tooLarge denotes moreEnds (Nat.le_of_not_lt large)
  · have nothing := behind_of_ends ends (not_exists.1 dot)
    rw [patchBehind, nothing.1]
    exact .missing fun later dotted => absurd ⟨later, dotted⟩ dot

theorem Patched.eq_patchBehind
    {rest : List Char}
    {patch : UInt32}
    (patched : Patched rest patch)
    (ends : EndsNumeral rest) :
    patch = patchBehind rest := by
  cases patched with
  | given denotes moreEnds =>
      have read := (readNumber?_eq_some_iff denotes.digits).2 denotes
      rw [patchBehind_of_digits denotes.digits moreEnds, read, Option.getD_some]
  | tooLarge denotes moreEnds large =>
      rw [patchBehind_of_digits denotes.digits moreEnds, readNumber?_of_denotes denotes,
        if_neg (Nat.not_lt.2 large), Option.getD_none]
  | missing missing =>
      by_cases dot : ∃ later, rest = '.' :: later
      · obtain ⟨later, rfl⟩ := dot
        have noDigits := @patchBehind_of_digits [] later nofun (missing later rfl)
        exact noDigits.symm
      · rw [patchBehind, (behind_of_ends ends (not_exists.1 dot)).1]
        rfl

/-! ## The reader -/

section Reader

variable
  {major minor rest : List Char}
  (majorDigits : ∀ c ∈ major, c.isDigit = true)
  (minorDigits : ∀ c ∈ minor, c.isDigit = true)
  (ends : EndsNumeral rest)

include majorDigits minorDigits ends

/-- Two numerals with a dot between them are read, and the patch number behind them. -/
theorem ofParts?_pieces :
    ofParts? (pieces (major ++ '.' :: (minor ++ rest))) = (do
      let first ← readNumber? major
      let second ← readNumber? minor
      some ⟨first, second, patchBehind rest⟩) := by
  have dotEnds : EndsNumeral ('.' :: (minor ++ rest)) := by
    rintro _ ⟨rfl⟩
    decide
  rw [pieces_append majorDigits dotEnds, behind, pieces_append minorDigits ends]
  rfl

end Reader

/-- The reader takes the texts that start with a release, and no others. -/
theorem parse_eq_some_iff {text : String} {release : Release} :
    parse text = some release ↔ Begins release text.toList := by
  constructor
  · intro read
    rw [parse] at read
    change ofParts? (pieces text.toList) = _ at read
    -- The digits that come first are the only numeral that the text can start with.
    obtain ⟨major, later, split, majorDigits, majorEnds⟩ :=
      exists_digits_append text.toList
    rw [split] at read ⊢
    by_cases dot : ∃ more, later = '.' :: more
    · obtain ⟨more, rfl⟩ := dot
      obtain ⟨minor, rest, rfl, minorDigits, ends⟩ := exists_digits_append more
      rw [ofParts?_pieces majorDigits minorDigits ends] at read
      obtain ⟨first, readFirst, read⟩ := Option.bind_eq_some_iff.1 read
      obtain ⟨second, readSecond, read⟩ := Option.bind_eq_some_iff.1 read
      obtain rfl := Option.some.inj read
      exact .intro ((readNumber?_eq_some_iff majorDigits).1 readFirst)
        ((readNumber?_eq_some_iff minorDigits).1 readSecond) ends
        (patched_patchBehind ends)
    · rw [pieces_append majorDigits majorEnds,
        (behind_of_ends majorEnds (not_exists.1 dot)).1] at read
      cases read
  · intro begins
    change ofParts? (pieces text.toList) = _
    generalize text.toList = text at begins
    obtain ⟨major, minor, ends, patched⟩ := begins
    have readMajor := (readNumber?_eq_some_iff major.digits).2 major
    have readMinor := (readNumber?_eq_some_iff minor.digits).2 minor
    rw [ofParts?_pieces major.digits minor.digits ends, readMajor, readMinor,
      ← patched.eq_patchBehind ends]
    rfl

/-! ## The numeric order -/

/-- The three numbers, the first of which counts most. -/
def numbers (release : Release) : Nat ×ₗ Nat ×ₗ Nat :=
  toLex (release.major.toNat, toLex (release.minor.toNat, release.patch.toNat))

theorem compare_eq_compare_toNat (left right : UInt32) :
    compare left right = compare left.toNat right.toNat := by
  simp only [compare, compareOfLessAndEq, UInt32.lt_iff_toNat_lt, ← UInt32.toNat_inj]

theorem order_eq_compare (left right : Release) :
    left.order right = compare left.numbers right.numbers := by
  simp only [order, compare_eq_compare_toNat, Prod.Lex.compare_def, compareLex, compareOn]
  rfl

theorem numbers_injective : Function.Injective numbers := by
  intro left right equal
  simp only [numbers, toLex_inj, Prod.mk.injEq, UInt32.toNat_inj] at equal
  obtain ⟨major, minor, patch⟩ := equal
  cases left
  cases right
  simp_all

/-! ## What is written -/

/-- The written form of a release is followed by what is not part of its numbers. -/
theorem begins_toText
    (release : Release)
    {suffix : String}
    (ends : EndsNumeral suffix.toList) :
    Begins release (release.toText ++ suffix).toList := by
  have dotEnds : EndsNumeral ('.' :: (Nat.toDigits 10 release.patch.toNat ++
      suffix.toList)) := by
    rintro _ ⟨rfl⟩
    decide
  have written : (release.toText ++ suffix).toList =
      Nat.toDigits 10 release.major.toNat ++ '.' ::
        (Nat.toDigits 10 release.minor.toNat ++ '.' ::
          (Nat.toDigits 10 release.patch.toNat ++ suffix.toList)) := by
    simp [toText, toList_toString]
  rw [written]
  exact .intro (denotes_toDigits _) (denotes_toDigits _) dotEnds
    (.given (denotes_toDigits _) ends)

/-- Two numbers make a release, too. -/
theorem begins_twoNumbers
    (major minor : UInt32)
    {suffix : String}
    (ends : EndsNumbers suffix.toList) :
    Begins ⟨major, minor, 0⟩ (toString major ++ "." ++ toString minor ++ suffix).toList := by
  have endsNumeral : EndsNumeral suffix.toList := by
    intro c first
    exact (Bool.or_eq_false_iff.1 (ends c first)).1
  have written : (toString major ++ "." ++ toString minor ++ suffix).toList =
      Nat.toDigits 10 major.toNat ++ '.' ::
        (Nat.toDigits 10 minor.toNat ++ suffix.toList) := by
    simp [toList_toString]
  rw [written]
  refine .intro (denotes_toDigits _) (denotes_toDigits _) endsNumeral (.missing ?_)
  intro later dotted
  rw [dotted] at ends
  exact absurd (ends '.' rfl) (by decide)

/-- A text is read as a release if and only if it starts with this release. So the
written form of a release is read back in front of everything that is no digit, and two
numbers in front of everything that is neither a digit nor a dot. Releases are compared
by their numbers, the first of which counts most. -/
theorem parse_takes_releases :
    (∀ (text : String) (release : Release),
        parse text = some release ↔ Begins release text.toList) ∧
      (∀ (release : Release) (suffix : String), EndsNumeral suffix.toList →
        parse (release.toText ++ suffix) = some release) ∧
      (∀ (major minor : UInt32) (suffix : String), EndsNumbers suffix.toList →
        parse (toString major ++ "." ++ toString minor ++ suffix) =
          some ⟨major, minor, 0⟩) ∧
      ∀ left right : Release,
        left.order right = compare left.numbers right.numbers ∧
          (left.numbers = right.numbers → left = right) := by
  refine ⟨fun _ _ => parse_eq_some_iff, ?written, ?twoNumbers, ?ordered⟩
  case written =>
    intro release suffix ends
    exact parse_eq_some_iff.2 (begins_toText release ends)
  case twoNumbers =>
    intro major minor suffix ends
    exact parse_eq_some_iff.2 (begins_twoNumbers major minor ends)
  case ordered =>
    intro left right
    exact ⟨order_eq_compare left right, fun same => numbers_injective same⟩

/-- A fourth number, a word behind two numbers, leading zeros in front of a number that
is too large, and a text with one number only. -/
theorem parse_takes_releases_fourTexts :
    parse "5.15.167.4-microsoft" = some ⟨5, 15, 167⟩ ∧
      parse "6.1-rc3" = some ⟨6, 1, 0⟩ ∧
      Begins ⟨6, 8, 0⟩ "006.8.4294967296+".toList ∧
      (∀ release, ¬Begins release "6".toList) ∧
      (⟨5, 15, 167⟩ : Release).order ⟨6, 1, 0⟩ = .lt := by
  obtain ⟨taken, written, twoNumbers, ordered⟩ := parse_takes_releases
  have fourth : EndsNumeral ".4-microsoft".toList := by
    rintro _ ⟨rfl⟩
    decide
  have word : EndsNumbers "-rc3".toList := by
    rintro _ ⟨rfl⟩
    decide
  have threeNumbers : "5.15.167.4-microsoft" =
      (⟨5, 15, 167⟩ : Release).toText ++ ".4-microsoft" := by
    decide +kernel
  have twoWritten : "6.1-rc3" =
      toString (6 : UInt32) ++ "." ++ toString (1 : UInt32) ++ "-rc3" := by
    decide +kernel
  refine ⟨?first, ?second, ?third, ?single, ?ordered⟩
  case first =>
    rw [threeNumbers]
    exact written ⟨5, 15, 167⟩ _ fourth
  case second =>
    rw [twoWritten]
    exact twoNumbers 6 1 _ word
  case third =>
    exact (taken _ _).1 (by decide +kernel)
  case single =>
    intro release begins
    have read := (taken _ _).2 begins
    rw [show parse "6" = none by decide +kernel] at read
    cases read
  case ordered =>
    rw [(ordered _ _).1]
    decide +kernel

end Release
end KernelMaps
