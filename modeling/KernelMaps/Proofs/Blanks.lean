import KernelMaps.Text.Blank
import Mathlib.Data.List.Basic
import Mathlib.Data.List.TakeWhile

/-!
# Blanks at the ends of a text

Trimming takes blanks away and nothing else. A text without blanks comes back from
behind its blanks.
-/

namespace KernelMaps
namespace Text

/-- Whether a character is no blank. -/
def isInk (c : Char) : Bool :=
  !isBlank c

/-- A text that consists of blanks. -/
def IsBlanks (text : List Char) : Prop :=
  ∀ c ∈ text, isBlank c = true

/-- From behind the space to the last ASCII character there is no blank. -/
theorem isBlank_of_ascii
    {c : Char}
    (above : 0x20 < c.toNat)
    (below : c.toNat ≤ 0x7f) :
    isBlank c = false := by
  simp only [isBlank, Bool.or_eq_false_iff, Bool.and_eq_false_iff,
    decide_eq_false_iff_not, beq_eq_false_iff_ne]
  omega

theorem isBlank_of_isDigit
    {c : Char}
    (digit : c.isDigit = true) :
    isBlank c = false := by
  simp only [Char.isDigit, Bool.and_eq_true, decide_eq_true_eq, ge_iff_le,
    UInt32.le_iff_toNat_le] at digit
  change 48 ≤ c.toNat ∧ c.toNat ≤ 57 at digit
  exact isBlank_of_ascii (by omega) (by omega)

/-- Drop the blanks at the end. -/
def trimEnd (text : List Char) : List Char :=
  (text.reverse.dropWhile isBlank).reverse

theorem trim_eq_trimEnd (text : List Char) :
    trim text = trimEnd (text.dropWhile isBlank) := rfl

theorem isBlanks_takeWhile (text : List Char) : IsBlanks (text.takeWhile isBlank) :=
  fun _ member => List.mem_takeWhile_imp member

theorem filter_isInk_of_isBlanks
    {text : List Char}
    (blanks : IsBlanks text) :
    text.filter isInk = [] := by
  rw [List.filter_eq_nil_iff]
  intro c member
  simp [isInk, blanks c member]

/-- What is dropped at the end is blank. -/
theorem exists_append_trimEnd (text : List Char) :
    ∃ after, IsBlanks after ∧ text = trimEnd text ++ after := by
  refine ⟨(text.reverse.takeWhile isBlank).reverse, ?_, ?_⟩
  · intro c member
    exact isBlanks_takeWhile text.reverse c (List.mem_reverse.1 member)
  · rw [trimEnd, ← List.reverse_append, List.takeWhile_append_dropWhile,
      List.reverse_reverse]

theorem filter_trimEnd (text : List Char) :
    (trimEnd text).filter isInk = text.filter isInk := by
  obtain ⟨after, blanks, split⟩ := exists_append_trimEnd text
  conv_rhs => rw [split]
  rw [List.filter_append, filter_isInk_of_isBlanks blanks, List.append_nil]

theorem filter_dropWhile_isBlank (text : List Char) :
    (text.dropWhile isBlank).filter isInk = text.filter isInk := by
  conv_rhs => rw [← List.takeWhile_append_dropWhile (p := isBlank) (l := text)]
  rw [List.filter_append, filter_isInk_of_isBlanks (isBlanks_takeWhile text),
    List.nil_append]

/-- Nothing but blanks is trimmed. -/
theorem filter_trim (text : List Char) :
    (trim text).filter isInk = text.filter isInk := by
  rw [trim_eq_trimEnd, filter_trimEnd, filter_dropWhile_isBlank]

/-- A character that is no blank protects what stands before the end. -/
theorem trimEnd_cons
    {c : Char}
    (ink : isBlank c = false)
    (text : List Char) :
    trimEnd (c :: text) = c :: trimEnd text := by
  rw [trimEnd, trimEnd, List.reverse_cons, List.dropWhile_append]
  split
  · rename_i nothing
    rw [List.isEmpty_iff.1 nothing, List.dropWhile_cons_of_neg (by simp [ink])]
    rfl
  · rw [List.reverse_append]
    rfl

/-- Blanks at the end are all the same. -/
theorem trimEnd_append
    (text : List Char)
    {blanks : List Char}
    (isBlanks : IsBlanks blanks) :
    trimEnd (text ++ blanks) = trimEnd text := by
  have reversed : ∀ c ∈ blanks.reverse, isBlank c = true :=
    fun c member => isBlanks c (List.mem_reverse.1 member)
  rw [trimEnd, List.reverse_append, List.dropWhile_append_of_pos reversed, trimEnd]

section Ink

variable {text : List Char} (ink : ∀ c ∈ text, isBlank c = false)

include ink

theorem trimEnd_of_ink : trimEnd text = text := by
  induction text with
  | nil => rfl
  | cons c rest inductionHypothesis =>
      obtain ⟨first, others⟩ := List.forall_mem_cons.1 ink
      rw [trimEnd_cons first, inductionHypothesis others]

/-- The blanks behind a text without blanks are trimmed. -/
theorem trim_append_of_ink
    {blanks : List Char}
    (isBlanks : IsBlanks blanks) :
    trim (text ++ blanks) = text := by
  rw [trim_eq_trimEnd]
  cases text with
  | nil =>
      rw [List.nil_append, List.dropWhile_eq_nil_iff.2 isBlanks]
      rfl
  | cons c rest =>
      have first := ink c List.mem_cons_self
      rw [List.cons_append, List.dropWhile_cons_of_neg (by simp [first]),
        ← List.cons_append, trimEnd_append _ isBlanks, trimEnd_of_ink ink]

theorem trim_of_ink : trim text = text := by
  have trimmed := trim_append_of_ink ink (List.forall_mem_nil _)
  rwa [List.append_nil] at trimmed

end Ink

end Text
end KernelMaps
