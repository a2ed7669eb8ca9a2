import KernelMaps.CommandLine.Parse
import KernelMaps.Proofs.Numerals
import KernelMaps.Proofs.Readers
import Mathlib.Data.List.Forall2
import Mathlib.Data.List.TakeDrop
import Mathlib.Data.List.TakeWhile

/-!
# Options with their values

An option and its value can stand in one word. Words of this kind are read one by one,
whatever is in the values. All of them are taken if and only if every value suits its
option and no option comes twice, so the reader that takes the words from left to right
is lawful.
-/

namespace KernelMaps
namespace CommandLine

/-- The text of a value stands for the value, which suits the option. -/
def Judged (given : Flag × String) (setting : Flag × Value) : Prop :=
  setting.1 = given.1 ∧ given.1.kind.judge given.2 = .ok setting.2

/-- Give options their values, from left to right. -/
def Settings.assignAll (settings : Settings) (given : List (Flag × String)) :
    Except Refusal Settings :=
  given.foldlM (fun settings pair => settings.assign pair.1 pair.2) settings

/-! ## Labels and words -/

theorem Flag.equals_not_mem_label (flag : Flag) : '=' ∉ flag.label.toList := by
  cases flag <;> decide

theorem Flag.label_ne_help (flag : Flag) : flag.label ≠ "help" := by
  cases flag <;> decide

theorem Verb.label_ne_help (verb : Verb) : verb.label ≠ helpLabel := by
  cases verb <;> decide

@[simp] theorem Verb.ofLabel?_label (verb : Verb) : Verb.ofLabel? verb.label = some verb := by
  cases verb <;> rfl

/-- A command knows its options by their names. -/
theorem Verb.flag?_label
    {verb : Verb}
    {flag : Flag}
    (known : flag ∈ verb.flags) :
    verb.flag? flag.label = some flag := by
  revert known
  cases verb <;> cases flag <;> decide

/-- The word is split where the name of the option ends, also if there are more equals
signs in the value. -/
theorem Word.ofText_word (flag : Flag) (text : String) :
    Word.ofText (flag.word text) = .long flag.label (some text) := by
  have spelled : (flag.word text).toList =
      '-' :: '-' :: (flag.label.toList ++ '=' :: text.toList) := by
    simp [Flag.word]
  have named : ∀ c ∈ flag.label.toList, (c != '=') = true :=
    fun c member => bne_iff_ne.2 fun equals => flag.equals_not_mem_label (equals ▸ member)
  have long : Word.ofText (flag.word text) =
      Word.ofLong (flag.label.toList ++ '=' :: text.toList) := by
    obtain ⟨first, rest, nonempty⟩ := List.exists_cons_of_ne_nil
      (List.append_ne_nil_of_right_ne_nil flag.label.toList
        (List.cons_ne_nil '=' text.toList))
    rw [Word.ofText, spelled, nonempty]
    rfl
  rw [long, Word.ofLong, List.span_eq_takeWhile_dropWhile,
    List.takeWhile_append_of_pos named, List.dropWhile_append_of_pos named]
  simp

/-! ## Reading -/

theorem readOptions_word
    {verb : Verb}
    {flag : Flag}
    (known : flag ∈ verb.flags)
    (settings : Settings)
    (text : String)
    (rest : List String) :
    readOptions verb ⟨settings, none⟩ (flag.word text :: rest) =
      settings.assign flag text >>= fun next => readOptions verb ⟨next, none⟩ rest := by
  rw [readOptions, Word.ofText_word]
  dsimp only
  rw [Progress.long, if_neg flag.label_ne_help, Verb.flag?_label known]
  change (settings.assign flag text >>= fun next => Except.ok (Progress.mk next none)) >>=
    (fun progress => readOptions verb progress rest) = _
  cases settings.assign flag text <;> rfl

theorem readOptions_words
    {verb : Verb}
    {given : List (Flag × String)}
    (known : ∀ pair ∈ given, pair.1 ∈ verb.flags)
    (settings : Settings) :
    readOptions verb ⟨settings, none⟩ (given.map fun pair => pair.1.word pair.2) =
      settings.assignAll given := by
  induction given generalizing settings with
  | nil => rfl
  | cons pair rest inductionHypothesis =>
      obtain ⟨firstKnown, restKnown⟩ := List.forall_mem_cons.1 known
      rw [List.map_cons, readOptions_word firstKnown, Settings.assignAll, List.foldlM_cons]
      congr 1
      funext next
      exact inductionHypothesis restKnown next

/-- A line of options is read as the command with the settings that they make up. -/
theorem readWords_line
    {verb : Verb}
    {given : List (Flag × String)}
    (known : verb.Knows given) :
    readWords (line verb given) =
      (Settings.assignAll [] given >>= fun settings => settings.finish verb).map
        fun settings => some (verb, settings) := by
  rw [line, readWords, if_neg verb.label_ne_help, Verb.ofLabel?_label]
  dsimp only
  rw [readOptions_words known]
  cases Settings.assignAll [] given with
  | error refusal => rfl
  | ok settings =>
      change (settings.finish verb >>= fun whole => .ok (some (verb, whole))) = _
      cases finished : settings.finish verb <;> simp [bind, Except.bind, Except.map, finished]

/-! ## Settings -/

namespace Settings

theorem assign_of_judged
    {settings : Settings}
    {flag : Flag}
    {text : String}
    {value : Value}
    (judged : flag.kind.judge text = .ok value) :
    settings.assign flag text =
      if flag ∈ settings.map Prod.fst then .error .argumentConflict
      else .ok ((flag, value) :: settings) := by
  have present := settings.isSome_lookup_iff flag
  rw [assign, judged]
  by_cases member : flag ∈ settings.map Prod.fst
  · rw [if_pos (present.2 member), if_pos member]
  · rw [if_neg (mt present.1 member), if_neg member]
    rfl

/-- If all values suit their options, then only an option that comes twice is in the way. -/
theorem assignAll_of_judged
    {given : List (Flag × String)}
    {values : Settings}
    (judged : List.Forall₂ Judged given values)
    (settings : Settings) :
    settings.assignAll given =
      if (given.map Prod.fst).Nodup ∧
          ∀ flag ∈ given.map Prod.fst, flag ∉ settings.map Prod.fst then
        .ok (values.reverse ++ settings)
      else .error .argumentConflict := by
  induction judged generalizing settings with
  | nil => simp [assignAll, pure, Except.pure]
  | @cons pair setting given values first rest inductionHypothesis =>
      obtain ⟨flag, value⟩ := setting
      obtain ⟨sameFlag, judged⟩ := first
      dsimp only at sameFlag judged
      subst sameFlag
      rw [assignAll, List.foldlM_cons, assign_of_judged judged]
      -- The option now stands among the settings, in the way of the rest.
      by_cases taken : pair.1 ∈ settings.map Prod.fst
      · rw [if_pos taken, if_neg fun free => free.2 pair.1 List.mem_cons_self taken]
        rfl
      · rw [if_neg taken]
        refine (inductionHypothesis ((pair.1, value) :: settings)).trans ?_
        refine if_congr ?_ ?_ rfl
        · rw [List.map_cons, List.map_cons, List.nodup_cons, List.forall_mem_cons]
          simp only [List.mem_cons, not_or]
          constructor
          · rintro ⟨distinct, free⟩
            exact ⟨⟨fun member => (free pair.1 member).1 rfl, distinct⟩, taken,
              fun flag member => (free flag member).2⟩
          · rintro ⟨⟨absent, distinct⟩, -, free⟩
            exact ⟨distinct, fun flag member =>
              ⟨fun same => absent (same ▸ member), free flag member⟩⟩
        · rw [List.reverse_cons, List.append_assoc, List.singleton_append]

/-- What is taken suits its option. -/
theorem exists_judge_of_assignAll
    {given : List (Flag × String)}
    {settings next : Settings}
    (taken : settings.assignAll given = .ok next) :
    ∀ pair ∈ given, ∃ value, pair.1.kind.judge pair.2 = .ok value := by
  induction given generalizing settings with
  | nil => exact fun _ member => absurd member List.not_mem_nil
  | cons pair rest inductionHypothesis =>
      rw [assignAll, List.foldlM_cons] at taken
      cases assigned : settings.assign pair.1 pair.2 with
      | error refusal =>
          rw [assigned] at taken
          cases taken
      | ok later =>
          rw [assigned] at taken
          refine List.forall_mem_cons.2 ⟨?_, inductionHypothesis taken⟩
          cases judged : pair.1.kind.judge pair.2 with
          | error refusal =>
              rw [assign, judged] at assigned
              split at assigned <;> cases assigned
          | ok value => exact ⟨value, rfl⟩

end Settings

/-! ## The reader is lawful -/

/-- The decimal digits of a number stand for it. -/
theorem denotes_toString (number : Nat) :
    Text.Numeral.Denotes (toString number).toList number := by
  have digits : (toString number).toList = Nat.toDigits 10 number := Nat.toList_repr
  rw [digits]
  exact Text.Numeral.denotes_toDigits number

theorem judge_word {number : Nat} (small : number < UInt32.size) :
    Kind.word.judge (toString number) = .ok (.number number) := by
  rw [Kind.judge, Text.Numeral.readSigned_of_denotes (denotes_toString number),
    if_pos (Nat.le_sub_one_of_lt small)]

theorem judge_doubleWord {number : Nat} (small : number < UInt64.size) :
    Kind.doubleWord.judge (toString number) = .ok (.number number) := by
  rw [Kind.judge, Text.Numeral.read_of_denotes (denotes_toString number),
    if_pos (Nat.le_sub_one_of_lt small)]

theorem judge_path {text : String} (nonempty : text ≠ "") :
    Kind.path.judge text = .ok (.text text) := by
  have notEmpty : text.isEmpty = false := by simpa using nonempty
  rw [Kind.judge, notEmpty]
  rfl

theorem map_fst_of_judged
    {given : List (Flag × String)}
    {values : Settings}
    (judged : List.Forall₂ Judged given values) :
    values.map Prod.fst = given.map Prod.fst := by
  induction judged with
  | nil => rfl
  | cons first rest inductionHypothesis =>
      rw [List.map_cons, List.map_cons, first.1, inductionHypothesis]

theorem exists_values
    {given : List (Flag × String)}
    (suits : ∀ pair ∈ given, wordByWord.Suits pair) :
    ∃ values, List.Forall₂ Judged given values := by
  induction given with
  | nil => exact ⟨[], .nil⟩
  | cons pair rest inductionHypothesis =>
      obtain ⟨⟨value, judged⟩, restSuits⟩ := List.forall_mem_cons.1 suits
      obtain ⟨values, all⟩ := inductionHypothesis restSuits
      exact ⟨(pair.1, value) :: values, .cons ⟨rfl, judged⟩ all⟩

theorem exists_judged_of_mem
    {given : List (Flag × String)}
    {values : Settings}
    (judged : List.Forall₂ Judged given values)
    {pair : Flag × String}
    (member : pair ∈ given) :
    ∃ setting ∈ values, Judged pair setting := by
  induction judged with
  | nil => cases member
  | cons first rest inductionHypothesis =>
      rcases List.mem_cons.1 member with rfl | later
      · exact ⟨_, List.mem_cons_self, first⟩
      · obtain ⟨setting, isLater, suits⟩ := inductionHypothesis later
        exact ⟨setting, List.mem_cons_of_mem _ isLater, suits⟩

section Line

variable
  {verb : Verb}
  {given : List (Flag × String)}
  {values : Settings}

/-- What a command needs and what it takes only once depends on no order. -/
theorem finish_of_judged (judged : List.Forall₂ Judged given values) :
    Settings.finish values.reverse verb =
      if ¬verb.Single (given.map Prod.fst) then .error .argumentConflict
      else if ¬verb.Complete (given.map Prod.fst) then .error .missingRequiredArgument
      else .ok (values.reverse ++ verb.defaults) := by
  have order : (values.reverse.map Prod.fst).Perm (given.map Prod.fst) := by
    rw [List.map_reverse, map_fst_of_judged judged]
    exact List.reverse_perm _
  rw [Settings.finish]
  simp only [verb.single_perm order, verb.complete_perm order]

variable (known : verb.Knows given)

include known

/-- A line whose values suit their options is read as the settings that they make up and
the defaults, unless an option comes twice, alternatives come together, or an option that
is needed is missing. -/
theorem readWords_of_judged (judged : List.Forall₂ Judged given values) :
    readWords (line verb given) =
      if ¬(given.map Prod.fst).Nodup then .error .argumentConflict
      else if ¬verb.Single (given.map Prod.fst) then .error .argumentConflict
      else if ¬verb.Complete (given.map Prod.fst) then .error .missingRequiredArgument
      else .ok (some (verb, values.reverse ++ verb.defaults)) := by
  have free : ((given.map Prod.fst).Nodup ∧
      ∀ flag ∈ given.map Prod.fst, flag ∉ ([] : Settings).map Prod.fst) ↔
        (given.map Prod.fst).Nodup :=
    and_iff_left fun _ _ => List.not_mem_nil
  rw [readWords_line known, Settings.assignAll_of_judged judged]
  by_cases distinct : (given.map Prod.fst).Nodup
  · rw [if_pos (free.2 distinct), if_neg (not_not_intro distinct), List.append_nil]
    change (Settings.finish values.reverse verb).map _ = _
    rw [finish_of_judged judged]
    split
    · rfl
    · split <;> rfl
  · rw [if_neg (mt free.1 distinct), if_pos distinct]
    rfl

/-- What is read of a line are the values of its options, and the defaults. -/
theorem exists_judged_of_read
    {settings : Settings}
    (read : readWords (line verb given) = .ok (some (verb, settings))) :
    ∃ values, List.Forall₂ Judged given values ∧ (given.map Prod.fst).Nodup ∧
      settings = values.reverse ++ verb.defaults := by
  have suits : ∀ pair ∈ given, wordByWord.Suits pair := by
    rw [readWords_line known] at read
    cases taken : Settings.assignAll [] given with
    | error refusal =>
        rw [taken] at read
        cases read
    | ok whole => exact Settings.exists_judge_of_assignAll taken
  obtain ⟨values, judged⟩ := exists_values suits
  rw [readWords_of_judged known judged] at read
  split at read
  · cases read
  · rename_i distinct
    refine ⟨values, judged, not_not.1 distinct, ?_⟩
    split at read
    · cases read
    · split at read <;> cases read
      rfl

/-- A line with a value that does not suit its option is refused. -/
theorem exists_refusal_of_unsuitable (unsuitable : ∃ pair ∈ given, ¬wordByWord.Suits pair) :
    ∃ refusal, readWords (line verb given) = .error refusal := by
  obtain ⟨pair, member, unjudged⟩ := unsuitable
  rw [readWords_line known]
  cases taken : Settings.assignAll [] given with
  | error refusal => exact ⟨refusal, rfl⟩
  | ok settings =>
      exact absurd (Settings.exists_judge_of_assignAll taken pair member) unjudged

end Line

/-- The reader that takes the words from left to right goes by the declarations. -/
theorem wordByWord_lawful : wordByWord.Lawful := by
  constructor
  case text => exact fun _ => rfl
  case path => exact fun _ => judge_path
  case emptyPath => exact nofun
  case word => exact fun _ => judge_word
  case doubleWord => exact fun _ => judge_doubleWord
  case takes =>
    intro verb given known suits distinct single complete
    obtain ⟨values, judged⟩ := exists_values suits
    refine ⟨values.reverse ++ verb.defaults, ?_⟩
    refine (readWords_of_judged known judged).trans ?_
    rw [if_neg (not_not_intro distinct), if_neg (not_not_intro single),
      if_neg (not_not_intro complete)]
  case valued =>
    intro verb given settings known read pair member value suits
    obtain ⟨values, judged, distinct, rfl⟩ := exists_judged_of_read known read
    obtain ⟨setting, isValue, sameFlag, suitsToo⟩ := exists_judged_of_mem judged member
    have once : (values.reverse.map Prod.fst).Nodup := by
      rw [List.map_reverse, List.nodup_reverse, map_fst_of_judged judged]
      exact distinct
    rw [List.lookup_append, ← sameFlag,
      Settings.lookup_of_mem once (List.mem_reverse.2 isValue)]
    exact congrArg some (Except.ok.inj (suitsToo.symm.trans suits))
  case defaulted =>
    intro verb given settings known read flag absent
    obtain ⟨values, judged, -, rfl⟩ := exists_judged_of_read known read
    have notGiven : flag ∉ values.reverse.map Prod.fst := by
      rwa [List.map_reverse, List.mem_reverse, map_fst_of_judged judged]
    rw [List.lookup_append, Settings.lookup_eq_none_of_notMem notGiven]
    rfl
  case unsuitable =>
    exact fun known unsuitable => exists_refusal_of_unsuitable known unsuitable
  case repeated =>
    intro verb given known suits twice
    obtain ⟨values, judged⟩ := exists_values suits
    exact (readWords_of_judged known judged).trans (if_pos twice)
  case conflicting =>
    intro verb given known suits distinct double
    obtain ⟨values, judged⟩ := exists_values suits
    refine (readWords_of_judged known judged).trans ?_
    rw [if_neg (not_not_intro distinct), if_pos double]
  case lacking =>
    intro verb given known suits distinct single incomplete
    obtain ⟨values, judged⟩ := exists_values suits
    refine (readWords_of_judged known judged).trans ?_
    rw [if_neg (not_not_intro distinct), if_neg (not_not_intro single), if_pos incomplete]

end CommandLine
end KernelMaps
