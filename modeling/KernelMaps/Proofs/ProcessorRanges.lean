import KernelMaps.CpuList
import KernelMaps.Proofs.Numerals
import Mathlib.Data.List.Forall2
import Mathlib.Data.List.TakeDrop
import Mathlib.Data.List.TakeWhile

/-!
# Ranges of processors counted

A list of processors is counted range by range, up to the first text that is no range.
Sizes and sums are the true numbers as long as the whole sum is a word. Nothing looks out
for one that is not, and the program stops on it.
-/

namespace KernelMaps
namespace CpuList

open Text.Numeral (Denotes Spells denotes_toDigits read_eq_ok_iff)

/-! ## Ranges as texts -/

/-- Numbers in a row, at least one of them. -/
structure Range where
  first : Nat
  last : Nat
  ordered : first ≤ last

namespace Range

/-- The number of numbers in a range. -/
def size (range : Range) : Nat :=
  range.last - range.first + 1

/-- A range is written as its two ends, or as one number that is both. -/
inductive Spelled (range : Range) : List Char → Prop
  | single
      {text : List Char}
      (spells : Spells range.first text)
      (same : range.last = range.first) :
      Spelled range text
  | pair
      {first last : List Char}
      (firstSpells : Spells range.first first)
      (lastSpells : Spells range.last last) :
      Spelled range (first ++ '-' :: last)

/-- A text is a range of numbers that are words. -/
structure ReadFrom (range : Range) (text : List Char) : Prop where
  spelled : range.Spelled text
  bounded : range.last < UInt64.size

end Range

/-- The number of numbers in ranges, one counted as often as it occurs. -/
def total : List Range → Nat
  | [] => 0
  | range :: listed => range.size + total listed

/-- Ranges are counted with the true sizes, and with the true sum after each of them. -/
structure CountedExactly (listed : List Range) (texts : List (List Char)) : Prop where
  sizes : List.Forall₂ (fun range text =>
    ∃ size, rangeSize text = pure size ∧ size.toNat = range.size) listed texts
  sums : ∀ length, ∃ sum,
    addSizes 0 (texts.take length) = pure sum ∧ sum.toNat = total (listed.take length)

/-- How a count ends that has gone over some ranges and has some texts left. -/
inductive CountEnds (listed : List Range) :
    List (List Char) → Checked (Except Error UInt64) → Prop
  | counted
      {count : UInt64}
      (someListed : listed ≠ [])
      (exact : count.toNat = total listed) :
      CountEnds listed [] (.ok (.ok count))
  | empty
      (noneListed : listed = []) :
      CountEnds listed [] (.ok (.error .empty))
  | refused
      {text : List Char}
      {later : List (List Char)}
      {cause : Option Text.NumeralError}
      (small : total listed < UInt64.size)
      (noRange : ∀ range : Range, ¬range.ReadFrom text) :
      CountEnds listed (text :: later)
        (.ok (.error (.badRange (String.ofList text) cause)))
  /-- The sum is no word, and the program stops on the way to it. -/
  | stopped
      {rest : List (List Char)}
      (large : UInt64.size ≤ total listed) :
      CountEnds listed rest (.error .overflow)

/-! ## The ends of a range -/

theorem dash_not_mem
    {number : Nat}
    {text : List Char}
    (spells : Spells number text) :
    '-' ∉ text := by
  have noDigit : ∀ digits, Denotes digits number → '-' ∉ digits :=
    fun _ denotes dash => absurd (denotes.digits '-' dash) (by decide)
  cases spells with
  | bare denotes => exact noDigit text denotes
  | signed denotes => exact List.not_mem_cons_of_ne_of_not_mem (by decide) (noDigit _ denotes)

theorem ne_dash
    {text : List Char}
    (noDash : '-' ∉ text) :
    ∀ c ∈ text, (c != '-') = true :=
  fun _ member => bne_iff_ne.2 fun dash => noDash (dash ▸ member)

theorem ends_of_dash
    {first last : List Char}
    (noDash : '-' ∉ first) :
    ends (first ++ '-' :: last) = (first, last) := by
  have others := ne_dash noDash
  rw [ends, List.span_eq_takeWhile_dropWhile, List.takeWhile_append_of_pos others,
    List.dropWhile_append_of_pos others]
  simp

theorem ends_of_noDash
    {text : List Char}
    (noDash : '-' ∉ text) :
    ends text = (text, text) := by
  rw [ends, List.span_eq_takeWhile_dropWhile, List.dropWhile_eq_nil_iff.2 (ne_dash noDash)]

theorem readEnd_eq_ok_iff
    {range numeral : List Char}
    {word : UInt64} :
    readEnd range numeral = .ok word ↔ Spells word.toNat numeral := by
  have within : ∀ number, number ≤ wordLimit ↔ number < UInt64.size :=
    fun _ => Nat.le_sub_one_iff_lt (by decide)
  rw [readEnd]
  constructor
  · intro result
    split at result
    · rename_i number read
      obtain ⟨spells, small⟩ := read_eq_ok_iff.1 read
      obtain rfl := Except.ok.inj result
      rwa [UInt64.toNat_ofNat_of_lt' ((within number).1 small)]
    · cases result
  · intro spells
    rw [read_eq_ok_iff.2 ⟨spells, (within _).2 word.toNat_lt⟩]
    simp

/-- Whatever is wrong with an end, it is the range that is refused. -/
theorem readEnd_error
    {range numeral : List Char}
    {error : Error}
    (refused : readEnd range numeral = .error error) :
    ∃ cause, error = .badRange (String.ofList range) cause := by
  rw [readEnd] at refused
  split at refused
  · cases refused
  · exact ⟨_, (Except.error.inj refused).symm⟩

/-! ## The size of a range -/

theorem rangeSize_of_ends
    {text : List Char}
    {first last : UInt64}
    (firstSpells : Spells first.toNat (ends text).1)
    (lastSpells : Spells last.toNat (ends text).2) :
    rangeSize text =
      if first ≤ last then liftM (Checked.word (last.toNat - first.toNat + 1))
      else throw (.badRange (String.ofList text) none) := by
  rw [rangeSize, readEnd_eq_ok_iff.2 firstSpells, readEnd_eq_ok_iff.2 lastSpells]
  rfl

namespace Range

variable
  {range : Range}
  {text : List Char}

/-- The two ends are spelled on their own. -/
theorem Spelled.ends (spelled : range.Spelled text) :
    Spells range.first (CpuList.ends text).1 ∧ Spells range.last (CpuList.ends text).2 := by
  cases spelled with
  | single spells same =>
      rw [ends_of_noDash (dash_not_mem spells), same]
      exact ⟨spells, spells⟩
  | pair firstSpells lastSpells =>
      rw [ends_of_dash (dash_not_mem firstSpells)]
      exact ⟨firstSpells, lastSpells⟩

theorem spelled_of_ends
    (firstSpells : Spells range.first (CpuList.ends text).1)
    (lastSpells : Spells range.last (CpuList.ends text).2) :
    range.Spelled text := by
  by_cases dash : '-' ∈ text
  · obtain ⟨first, last, rfl, noDash⟩ := List.eq_append_cons_of_mem dash
    rw [ends_of_dash noDash] at firstSpells lastSpells
    exact .pair firstSpells lastSpells
  · rw [ends_of_noDash dash] at firstSpells lastSpells
    exact .single firstSpells (lastSpells.unique firstSpells)

/-- A range of words has its true size, if that is a word. -/
theorem ReadFrom.rangeSize (readFrom : range.ReadFrom text) :
    rangeSize text = Checked.word range.size := by
  obtain ⟨spelled, bounded⟩ := readFrom
  have ordered := range.ordered
  have firstToNat := UInt64.toNat_ofNat_of_lt' (Nat.lt_of_le_of_lt ordered bounded)
  have lastToNat := UInt64.toNat_ofNat_of_lt' bounded
  have wordOrdered : UInt64.ofNat range.first ≤ UInt64.ofNat range.last := by
    rwa [UInt64.le_iff_toNat_le, firstToNat, lastToNat]
  have firstSpells : Spells (UInt64.ofNat range.first).toNat (CpuList.ends text).1 := by
    rw [firstToNat]
    exact spelled.ends.1
  have lastSpells : Spells (UInt64.ofNat range.last).toNat (CpuList.ends text).2 := by
    rw [lastToNat]
    exact spelled.ends.2
  rw [rangeSize_of_ends firstSpells lastSpells, if_pos wordOrdered, firstToNat, lastToNat,
    size]

end Range

/-- A text of a list is a range, or it is refused. -/
theorem rangeSize_cases (text : List Char) :
    (∃ range : Range, range.ReadFrom text) ∨
      (∀ range : Range, ¬range.ReadFrom text) ∧
        ∃ cause, rangeSize text = throw (.badRange (String.ofList text) cause) := by
  by_cases read : ∃ range : Range, range.ReadFrom text
  · exact .inl read
  refine .inr ⟨not_exists.1 read, ?_⟩
  cases first : readEnd text (ends text).1 with
  | error error =>
      obtain ⟨cause, rfl⟩ := readEnd_error first
      exact ⟨cause, by rw [rangeSize, first]; rfl⟩
  | ok firstWord =>
      cases last : readEnd text (ends text).2 with
      | error error =>
          obtain ⟨cause, rfl⟩ := readEnd_error last
          exact ⟨cause, by rw [rangeSize, first, last]; rfl⟩
      | ok lastWord =>
          have firstSpells := readEnd_eq_ok_iff.1 first
          have lastSpells := readEnd_eq_ok_iff.1 last
          refine ⟨none, ?_⟩
          rw [rangeSize_of_ends firstSpells lastSpells, if_neg]
          intro ordered
          exact read ⟨⟨firstWord.toNat, lastWord.toNat, ordered⟩,
            Range.spelled_of_ends firstSpells lastSpells, lastWord.toNat_lt⟩

/-! ## The sum -/

theorem total_take_le (listed : List Range) (length : Nat) :
    total (listed.take length) ≤ total listed := by
  induction listed generalizing length with
  | nil => rw [List.take_nil]
  | cons range rest inductionHypothesis =>
      cases length with
      | zero => exact Nat.zero_le _
      | succ length => exact Nat.add_le_add_left (inductionHypothesis length) range.size

theorem total_eq_zero_iff {listed : List Range} :
    total listed = 0 ↔ listed = [] := by
  cases listed with
  | nil => exact iff_of_true rfl rfl
  | cons range rest =>
      refine iff_of_false ?_ (List.cons_ne_nil range rest)
      rw [total, Range.size]
      omega

/-- What is computed from a word and is not less needs only be a word in the end. -/
theorem word_bind_of_le
    (step : Nat → Nat)
    (grows : ∀ number, number ≤ step number)
    (number : Nat) :
    (do let word ← Checked.word number
        Checked.word (step word.toNat) : ExceptT Error Checked UInt64) =
      Checked.word (step number) := by
  by_cases small : number < UInt64.size
  · rw [Checked.word, if_pos small]
    change ExceptT.lift (Checked.word (step (UInt64.ofNat number).toNat)) = _
    rw [UInt64.toNat_ofNat_of_lt' small]
    rfl
  · have large : ¬step number < UInt64.size := fun less =>
      small (Nat.lt_of_le_of_lt (grows number) less)
    rw [Checked.word, if_neg small, Checked.word, if_neg large]
    rfl

section Read

variable
  {listed : List Range}
  {read : List (List Char)}
  (readFrom : List.Forall₂ Range.ReadFrom listed read)

include readFrom

/-- Ranges add their sizes to the sum, which has to stay a word. -/
theorem addSizes_of_read
    (start : UInt64)
    (rest : List (List Char)) :
    addSizes start (read ++ rest) =
      (do let sum ← Checked.word (start.toNat + total listed)
          addSizes sum rest) := by
  -- A sum that is a word was one all the way, so it is enough to look at it in the end.
  induction readFrom generalizing start with
  | nil =>
      rw [List.nil_append, total, Nat.add_zero, Checked.word, if_pos start.toNat_lt,
        UInt64.ofNat_toNat]
      rfl
  | @cons range text listed read first others inductionHypothesis =>
      have addFirst := word_bind_of_le (fun size => start.toNat + size)
        (fun _ => Nat.le_add_left _ _) range.size
      have addOthers := word_bind_of_le (fun sum => sum + total listed)
        (fun _ => Nat.le_add_right _ _) (start.toNat + range.size)
      rw [List.cons_append, addSizes, first.rangeSize, total, ← Nat.add_assoc, ← addOthers,
        ← addFirst]
      simp only [inductionHypothesis, bind_assoc]

theorem addSizes_zero_of_read :
    addSizes 0 read = Checked.word (total listed) := by
  have added := addSizes_of_read readFrom 0 []
  rw [List.append_nil, UInt64.toNat_zero, Nat.zero_add] at added
  simpa only [addSizes, bind_pure] using added

/-- Together the sizes are a word, so each of them is one. -/
theorem sizes_of_read (small : total listed < UInt64.size) :
    List.Forall₂ (fun range text =>
      ∃ size, rangeSize text = pure size ∧ size.toNat = range.size) listed read := by
  induction readFrom with
  | nil => exact .nil
  | @cons range text listed read first others inductionHypothesis =>
      rw [total] at small
      have rangeSmall : range.size < UInt64.size := by omega
      have restSmall : total listed < UInt64.size := by omega
      refine .cons ⟨_, ?_, UInt64.toNat_ofNat_of_lt' rangeSmall⟩
        (inductionHypothesis restSmall)
      rw [first.rangeSize, Checked.word, if_pos rangeSmall]
      rfl

/-- Everything is counted exactly if the whole sum is a word, and only then. -/
theorem countedExactly_iff :
    CountedExactly listed read ↔ total listed < UInt64.size := by
  constructor
  · intro exactly
    obtain ⟨sum, -, exact⟩ := exactly.sums listed.length
    rw [List.take_length] at exact
    rw [← exact]
    exact sum.toNat_lt
  · intro small
    refine ⟨sizes_of_read readFrom small, ?sums⟩
    intro length
    have part := List.forall₂_take length readFrom
    have partSmall := Nat.lt_of_le_of_lt (total_take_le listed length) small
    refine ⟨_, ?_, UInt64.toNat_ofNat_of_lt' partSmall⟩
    rw [addSizes_zero_of_read part, Checked.word, if_pos partSmall]
    rfl

end Read

/-! ## The count -/

/-- Texts are ranges up to the first one that is none. -/
theorem exists_read (texts : List (List Char)) :
    ∃ listed read rest, texts = read ++ rest ∧
      List.Forall₂ Range.ReadFrom listed read ∧
      ∀ text ∈ rest.head?, ∀ range : Range, ¬range.ReadFrom text := by
  induction texts with
  | nil => exact ⟨[], [], [], rfl, .nil, nofun⟩
  | cons text texts inductionHypothesis =>
      by_cases isRange : ∃ range : Range, range.ReadFrom text
      · obtain ⟨range, first⟩ := isRange
        obtain ⟨listed, read, rest, rfl, others, stops⟩ := inductionHypothesis
        exact ⟨range :: listed, text :: read, rest, rfl, .cons first others, stops⟩
      · refine ⟨[], [], text :: texts, rfl, .nil, ?_⟩
        rintro _ ⟨rfl⟩
        exact not_exists.1 isRange

/-- If all texts are ranges, the sum tells how the count ends. -/
theorem countEnds_total
    {listed : List Range}
    (small : total listed < UInt64.size) :
    CountEnds listed []
      (.ok (if 0 < UInt64.ofNat (total listed) then .ok (UInt64.ofNat (total listed))
        else .error .empty)) := by
  have exact := UInt64.toNat_ofNat_of_lt' small
  have positiveIff : 0 < UInt64.ofNat (total listed) ↔ listed ≠ [] := by
    rw [UInt64.lt_iff_toNat_lt, exact, ne_eq, ← total_eq_zero_iff]
    exact Nat.pos_iff_ne_zero
  by_cases noneListed : listed = []
  · rw [if_neg (positiveIff.not_left.2 noneListed)]
    exact .empty noneListed
  · rw [if_pos (positiveIff.2 noneListed)]
    exact .counted noneListed exact

/-- Each text of a list is taken for the range that it spells, up to the first one that
spells none, which is what is refused. If the sum of the sizes so far is a word, then
all sizes and all sums are the true ones, and so is the count. If the sum is no word,
then the program stops. -/
theorem count_ends (text : String) :
    ∃ listed read rest, ranges text.toList = read ++ rest ∧
      List.Forall₂ Range.ReadFrom listed read ∧
      (CountedExactly listed read ↔ total listed < UInt64.size) ∧
      CountEnds listed rest (count text) := by
  obtain ⟨listed, read, rest, split, readFrom, stops⟩ := exists_read (ranges text.toList)
  refine ⟨listed, read, rest, split, readFrom, countedExactly_iff readFrom, ?_⟩
  rw [count, split, addSizes_of_read readFrom, UInt64.toNat_zero, Nat.zero_add, Checked.word]
  by_cases small : total listed < UInt64.size
  case neg =>
    rw [if_neg small]
    exact .stopped (Nat.le_of_not_lt small)
  rw [if_pos small]
  cases rest with
  | nil =>
      convert countEnds_total small using 1
      change ExceptT.run (if _ then _ else _) = _
      split <;> rfl
  | cons refused later =>
      have noRange := stops refused rfl
      obtain ⟨range, isRange⟩ | ⟨-, cause, error⟩ := rangeSize_cases refused
      · exact absurd isRange (noRange range)
      · simp only [addSizes, error]
        exact .refused small noRange

/-- As many numbers as there are words, and one more, are not counted. -/
theorem count_overflows :
    ∃ listed texts, ranges "0-18446744073709551615,0".toList = texts ∧
      List.Forall₂ Range.ReadFrom listed texts ∧ total listed = UInt64.size + 1 ∧
      ¬CountedExactly listed texts ∧
      count "0-18446744073709551615,0" = .error .overflow := by
  have zero : Spells 0 (Nat.toDigits 10 0) := .bare (denotes_toDigits 0)
  have greatest : Spells wordLimit (Nat.toDigits 10 wordLimit) :=
    .bare (denotes_toDigits wordLimit)
  have readFrom : List.Forall₂ Range.ReadFrom [⟨0, wordLimit, by decide⟩, ⟨0, 0, by decide⟩]
      [Nat.toDigits 10 0 ++ '-' :: Nat.toDigits 10 wordLimit, Nat.toDigits 10 0] :=
    .cons ⟨.pair zero greatest, by decide⟩ (.cons ⟨.single zero rfl, by decide⟩ .nil)
  refine ⟨_, _, by decide +kernel, readFrom, by decide, ?_, by decide +kernel⟩
  rw [countedExactly_iff readFrom]
  decide

end CpuList
end KernelMaps
