import KernelMaps.Proofs.Blanks
import KernelMaps.Proofs.ProcessorRanges
import Mathlib.Data.Finset.Max
import Mathlib.Data.Finset.Sort
import Mathlib.Order.Interval.Finset.Nat

/-!
# Sets of processors counted

A set of processors is written as its runs: the longest ranges without a gap, in
ascending order. The count of what is written is the number of processors.
-/

namespace KernelMaps
namespace CpuList

open Text.Numeral (denotes_toDigits)

/-! ## Runs of a set -/

/-- Ranges are the runs of a set: together they make up the set, and at least one number
is missing between any two of them. -/
structure RunsOf (processors : Finset Nat) (runs : List Range) : Prop where
  members : ∀ number,
    number ∈ processors ↔ ∃ run ∈ runs, run.first ≤ number ∧ number ≤ run.last
  apart : runs.Pairwise fun earlier later => earlier.last + 1 < later.first

/-- The range of one number. -/
def Range.single (number : Nat) : Range :=
  ⟨number, number, Nat.le_refl number⟩

theorem Range.le_last
    (run : Range)
    {number : Nat}
    (adjacent : number + 1 = run.first) :
    number ≤ run.last :=
  (Nat.le_of_succ_le adjacent.le).trans run.ordered

/-- Put a number before runs of greater ones. It makes the first run longer if it comes
right before it, or else it is a run of its own. -/
def prepend (number : Nat) : List Range → List Range
  | [] => [.single number]
  | run :: runs =>
      if adjacent : number + 1 = run.first then
        ⟨number, run.last, run.le_last adjacent⟩ :: runs
      else .single number :: run :: runs

/-- The runs of a set. -/
def runsOf (processors : Finset Nat) : List Range :=
  (processors.sort (· ≤ ·)).foldr prepend []

variable
  {processors : Finset Nat}
  {runs : List Range}

theorem exists_mem_prepend_iff (number other : Nat) (runs : List Range) :
    (∃ run ∈ prepend number runs, run.first ≤ other ∧ other ≤ run.last) ↔
      other = number ∨ ∃ run ∈ runs, run.first ≤ other ∧ other ≤ run.last := by
  cases runs with
  | nil =>
      simp only [prepend, Range.single, List.mem_singleton, exists_eq_left, List.not_mem_nil,
        false_and, exists_false, or_false]
      omega
  | cons run runs =>
      have ordered := run.ordered
      rw [prepend]
      split
      · rename_i adjacent
        rw [List.exists_mem_cons_iff, List.exists_mem_cons_iff, ← or_assoc]
        refine or_congr_left ?_
        dsimp only
        omega
      · refine (List.exists_mem_cons_iff _ _ _).trans (or_congr_left ?_)
        dsimp only [Range.single]
        omega

theorem pairwise_prepend
    {number : Nat}
    (apart : runs.Pairwise fun earlier later => earlier.last + 1 < later.first)
    (above : ∀ run ∈ runs, number < run.first) :
    (prepend number runs).Pairwise fun earlier later => earlier.last + 1 < later.first := by
  cases runs with
  | nil => exact List.pairwise_singleton _ _
  | cons run runs =>
      obtain ⟨firstApart, restApart⟩ := List.pairwise_cons.1 apart
      have first := above run List.mem_cons_self
      have ordered := run.ordered
      rw [prepend]
      -- Either the first run grows by one number, or a gap is left before it.
      split
      · exact List.pairwise_cons.2 ⟨firstApart, restApart⟩
      · rename_i separate
        refine List.pairwise_cons.2 ⟨?_, apart⟩
        intro later member
        dsimp only [Range.single]
        obtain rfl | member := List.mem_cons.1 member
        · omega
        · have gap := firstApart later member
          omega

theorem RunsOf.prepend
    {number : Nat}
    (isRuns : RunsOf processors runs)
    (least : ∀ other ∈ processors, number < other) :
    RunsOf (insert number processors) (prepend number runs) where
  members := by
    intro other
    rw [Finset.mem_insert, isRuns.members, exists_mem_prepend_iff]
  apart := by
    refine pairwise_prepend isRuns.apart ?_
    intro run member
    exact least run.first
      ((isRuns.members run.first).2 ⟨run, member, Nat.le_refl run.first, run.ordered⟩)

/-- Every set is made up of its runs. -/
theorem runsOf_isRuns (processors : Finset Nat) : RunsOf processors (runsOf processors) := by
  induction processors using Finset.induction_on_min with
  | empty =>
      rw [runsOf, Finset.sort_empty]
      exact ⟨by simp, List.Pairwise.nil⟩
  | insert number processors least inductionHypothesis =>
      have fresh : number ∉ processors :=
        fun member => Nat.lt_irrefl number (least number member)
      have sorted : (insert number processors).sort (· ≤ ·) =
          number :: processors.sort (· ≤ ·) :=
        Finset.sort_insert _ (fun other member => (least other member).le) fresh
      rw [runsOf, sorted]
      exact inductionHypothesis.prepend least

namespace RunsOf

/-- Without the first run, the others are the runs of what is left. -/
theorem tail
    {run : Range}
    (isRuns : RunsOf processors (run :: runs)) :
    RunsOf (processors \ Finset.Icc run.first run.last) runs := by
  obtain ⟨members, apart⟩ := isRuns
  obtain ⟨firstApart, restApart⟩ := List.pairwise_cons.1 apart
  refine ⟨?_, restApart⟩
  intro number
  rw [Finset.mem_sdiff, members, List.exists_mem_cons_iff, Finset.mem_Icc]
  constructor
  · rintro ⟨inFirst | inRest, outside⟩
    · exact absurd inFirst outside
    · exact inRest
  · rintro ⟨later, member, inside⟩
    have gap := firstApart later member
    exact ⟨.inr ⟨later, member, inside⟩, by omega⟩

theorem icc_subset
    {run : Range}
    (isRuns : RunsOf processors runs)
    (member : run ∈ runs) :
    Finset.Icc run.first run.last ⊆ processors := by
  intro number inside
  exact (isRuns.members number).2 ⟨run, member, Finset.mem_Icc.1 inside⟩

/-- Each processor is in one run only. -/
theorem card_eq_total (isRuns : RunsOf processors runs) :
    processors.card = total runs := by
  induction runs generalizing processors with
  | nil =>
      have none : processors = ∅ := by
        refine Finset.eq_empty_of_forall_notMem ?_
        intro number member
        obtain ⟨run, nothing, -⟩ := (isRuns.members number).1 member
        cases nothing
      rw [none]
      rfl
  | cons run runs inductionHypothesis =>
      -- The others are the runs of a smaller set, which the first run is not part of.
      have split := Finset.card_sdiff_add_card_eq_card
        (isRuns.icc_subset List.mem_cons_self)
      have ordered := run.ordered
      rw [← split, inductionHypothesis isRuns.tail, Nat.card_Icc, total, Range.size]
      omega

theorem last_mem
    {run : Range}
    (isRuns : RunsOf processors runs)
    (member : run ∈ runs) :
    run.last ∈ processors :=
  isRuns.icc_subset member (Finset.right_mem_Icc.2 run.ordered)

end RunsOf

/-! ## Runs as texts -/

/-- The written form of a run: one number, or two with a dash between them. -/
def Range.text (run : Range) : List Char :=
  if run.first = run.last then Nat.toDigits 10 run.first
  else Nat.toDigits 10 run.first ++ '-' :: Nat.toDigits 10 run.last

/-- Written runs with commas between them. -/
def listText (runs : List Range) : List Char :=
  [','].intercalate (runs.map Range.text)

theorem Range.readFrom_text
    {run : Range}
    (bounded : run.last < UInt64.size) :
    run.ReadFrom run.text := by
  refine ⟨?_, bounded⟩
  rw [text]
  split
  · rename_i same
    exact .single (.bare (denotes_toDigits run.first)) same.symm
  · exact .pair (.bare (denotes_toDigits run.first)) (.bare (denotes_toDigits run.last))

theorem Range.text_ne_nil (run : Range) : run.text ≠ [] := by
  rw [text]
  split
  · exact Nat.toDigits_ne_nil
  · exact List.append_ne_nil_of_left_ne_nil Nat.toDigits_ne_nil _

/-- A character of a written run is a digit or a dash. -/
theorem Range.shape_of_mem_text
    {run : Range}
    {c : Char}
    (member : c ∈ run.text) :
    c.isDigit = true ∨ c = '-' := by
  have digit : ∀ number, c ∈ Nat.toDigits 10 number → c.isDigit = true ∨ c = '-' :=
    fun number written => .inl ((denotes_toDigits number).digits c written)
  rw [text] at member
  split at member
  · exact digit run.first member
  · obtain inFirst | inLast := List.mem_append.1 member
    · exact digit run.first inFirst
    · obtain dash | inLast := List.mem_cons.1 inLast
      · exact .inr dash
      · exact digit run.last inLast

theorem Range.comma_not_mem_text (run : Range) : ',' ∉ run.text :=
  fun member => absurd (shape_of_mem_text member) (by decide)

theorem Range.isBlank_of_mem_text
    {run : Range}
    {c : Char}
    (member : c ∈ run.text) :
    Text.isBlank c = false := by
  obtain digit | rfl := shape_of_mem_text member
  · exact Text.isBlank_of_isDigit digit
  · decide

/-- A written list holds no blank. -/
theorem isBlank_of_mem_listText
    {c : Char}
    (member : c ∈ listText runs) :
    Text.isBlank c = false := by
  induction runs with
  | nil => cases member
  | cons run runs inductionHypothesis =>
      cases runs with
      | nil =>
          rw [listText, List.map_singleton, List.intercalate_singleton] at member
          exact Range.isBlank_of_mem_text member
      | cons next runs =>
          rw [listText, List.map_cons, List.map_cons, List.intercalate_cons_cons,
            ← List.map_cons, ← listText] at member
          obtain before | inRest := List.mem_append.1 member
          · obtain inRun | comma := List.mem_append.1 before
            · exact Range.isBlank_of_mem_text inRun
            · obtain rfl := List.mem_singleton.1 comma
              decide
          · exact inductionHypothesis inRest

/-- The ranges of a written list are the written runs. -/
theorem ranges_listText
    {blanks : List Char}
    (someRuns : runs ≠ [])
    (isBlanks : Text.IsBlanks blanks) :
    ranges (listText runs ++ blanks) = runs.map Range.text := by
  have noComma : ∀ text ∈ runs.map Range.text, ',' ∉ text := by
    intro text member
    obtain ⟨run, -, rfl⟩ := List.mem_map.1 member
    exact run.comma_not_mem_text
  rw [ranges, Text.trim_append_of_ink (fun c member => isBlank_of_mem_listText member) isBlanks,
    listText, List.splitOn_intercalate ',' noComma (by simpa using someRuns),
    List.filter_eq_self]
  intro text member
  obtain ⟨run, -, rfl⟩ := List.mem_map.1 member
  simp [run.text_ne_nil]

/-- The runs of small processors are read back one by one. -/
theorem readFrom_texts
    (bounded : ∀ run ∈ runs, run.last < UInt64.size) :
    List.Forall₂ Range.ReadFrom runs (runs.map Range.text) := by
  rw [List.forall₂_map_right_iff, List.forall₂_same]
  exact fun run member => Range.readFrom_text (bounded run member)

/-! ## The count of a set -/

/-- Every set of processors has runs, and its count is the number of its processors,
also behind the end of a line. -/
theorem count_processors
    (processors : Finset Nat)
    (nonempty : processors.Nonempty)
    (small : ∀ processor ∈ processors, processor < UInt32.size) :
    RunsOf processors (runsOf processors) ∧
      ∀ runs, RunsOf processors runs → ∀ ending ∈ ["", "\n"],
        ∃ number, count (String.ofList (listText runs) ++ ending) = .ok (.ok number) ∧
          number.toNat = processors.card := by
  refine ⟨runsOf_isRuns processors, ?_⟩
  intro runs isRuns ending isEnding
  have bounded : ∀ run ∈ runs, run.last < UInt64.size :=
    fun run member => (small run.last (isRuns.last_mem member)).trans (by decide)
  have cardSmall : processors.card < UInt64.size := by
    have within : processors ⊆ Finset.range UInt32.size :=
      fun processor member => Finset.mem_range.2 (small processor member)
    calc processors.card
        ≤ (Finset.range UInt32.size).card := Finset.card_le_card within
      _ = UInt32.size := Finset.card_range UInt32.size
      _ < UInt64.size := by decide
  have someRuns : runs ≠ [] := by
    rintro rfl
    rw [← Finset.card_pos, isRuns.card_eq_total] at nonempty
    exact Nat.lt_irrefl 0 nonempty
  have isBlanks : Text.IsBlanks ending.toList := by
    obtain rfl | isLine := List.mem_cons.1 isEnding
    · nofun
    · obtain rfl := List.mem_singleton.1 isLine
      exact List.forall_mem_singleton.2 (by decide)
  rw [isRuns.card_eq_total] at cardSmall
  have exact : (UInt64.ofNat (total runs)).toNat = processors.card := by
    rw [isRuns.card_eq_total]
    exact UInt64.toNat_ofNat_of_lt' cardSmall
  have positive : 0 < UInt64.ofNat (total runs) := by
    rw [UInt64.lt_iff_toNat_lt, exact]
    exact nonempty.card_pos
  refine ⟨UInt64.ofNat (total runs), ?_, exact⟩
  rw [count, String.toList_append, String.toList_ofList, ranges_listText someRuns isBlanks,
    addSizes_zero_of_read (readFrom_texts bounded), Checked.word, if_pos cardSmall]
  change ExceptT.run (if _ then _ else _) = _
  rw [if_pos positive]
  rfl

/-- Two longer runs with a processor of its own between them. -/
theorem count_processors_threeRuns :
    RunsOf {0, 1, 2, 3, 8, 10, 11} [⟨0, 3, by decide⟩, .single 8, ⟨10, 11, by decide⟩] ∧
      ∃ number, count "0-3,8,10-11\n" = .ok (.ok number) ∧ number.toNat = 7 := by
  have isRuns : RunsOf {0, 1, 2, 3, 8, 10, 11}
      [⟨0, 3, by decide⟩, .single 8, ⟨10, 11, by decide⟩] := by
    refine ⟨?_, by decide⟩
    intro number
    simp [Range.single]
    omega
  refine ⟨isRuns, ?_⟩
  have counted := count_processors {0, 1, 2, 3, 8, 10, 11} (by simp) (by decide)
  obtain ⟨number, counted, exact⟩ := counted.2 _ isRuns "\n" (by simp)
  exact ⟨number, counted, exact⟩

end CpuList
end KernelMaps
