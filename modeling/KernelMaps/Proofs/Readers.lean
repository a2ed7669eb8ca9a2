import KernelMaps.CommandLine.Settings
import Mathlib.Data.List.Nodup
import Mathlib.Data.List.Perm.Basic

/-!
# Lawful readers of command lines

What a program can rely on when it leaves its command line to a reader: how the texts of
values are judged, and when options with their values are taken or refused, according to
what is declared of them. Nothing else is known of the reader.
-/

namespace KernelMaps
namespace CommandLine

/-- An option in one word with the text of its value. -/
def Flag.word (flag : Flag) (text : String) : String :=
  "--" ++ flag.label ++ "=" ++ text

/-- A command line that names a command and gives it options. -/
def line (verb : Verb) (given : List (Flag × String)) : List String :=
  verb.label :: given.map fun pair => pair.1.word pair.2

/-- All options are those of a command. -/
def Verb.Knows (verb : Verb) (given : List (Flag × String)) : Prop :=
  ∀ pair ∈ given, pair.1 ∈ verb.flags

theorem Verb.single_perm
    {left right : List Flag}
    (order : left.Perm right)
    (verb : Verb) :
    verb.Single left ↔ verb.Single right := by
  simp only [Verb.Single, order.mem_iff]

theorem Verb.complete_perm
    {left right : List Flag}
    (order : left.Perm right)
    (verb : Verb) :
    verb.Complete left ↔ verb.Complete right := by
  simp only [Verb.Complete, order.mem_iff]

namespace Reader

/-- The text of a value suits its option. -/
def Suits (reader : Reader) (pair : Flag × String) : Prop :=
  ∃ value, reader.judge pair.1.kind pair.2 = .ok value

/-- A reader goes by the declarations of a command, if each option comes with its value
in one word. -/
structure Lawful (reader : Reader) : Prop where
  text : ∀ text, reader.judge .text text = .ok (.text text)
  path : ∀ text, text ≠ "" → reader.judge .path text = .ok (.text text)
  emptyPath : ∀ value, reader.judge .path "" ≠ .ok value
  /-- The decimal digits of a number stand for it, if it is in the range of its kind. -/
  word : ∀ number, number < UInt32.size →
    reader.judge .word (toString number) = .ok (.number number)
  doubleWord : ∀ number, number < UInt64.size →
    reader.judge .doubleWord (toString number) = .ok (.number number)
  /-- Without a reason to refuse it, a command line is taken. -/
  takes : ∀ {verb given}, verb.Knows given → (∀ pair ∈ given, reader.Suits pair) →
    (given.map Prod.fst).Nodup → verb.Single (given.map Prod.fst) →
    verb.Complete (given.map Prod.fst) →
      ∃ settings, reader.read (line verb given) = .ok (some (verb, settings))
  /-- An option that was given has the value that its text stands for. -/
  valued : ∀ {verb given settings}, verb.Knows given →
    reader.read (line verb given) = .ok (some (verb, settings)) →
      ∀ pair ∈ given, ∀ value, reader.judge pair.1.kind pair.2 = .ok value →
        settings.lookup pair.1 = some value
  /-- An option that was not given has its default, if it has one. -/
  defaulted : ∀ {verb given settings}, verb.Knows given →
    reader.read (line verb given) = .ok (some (verb, settings)) →
      ∀ flag, flag ∉ given.map Prod.fst → settings.lookup flag = verb.defaults.lookup flag
  /-- A text that does not suit its option is refused. -/
  unsuitable : ∀ {verb given}, verb.Knows given →
    (∃ pair ∈ given, ¬reader.Suits pair) →
      ∃ refusal, reader.read (line verb given) = .error refusal
  /-- An option is taken only once. -/
  repeated : ∀ {verb given}, verb.Knows given → (∀ pair ∈ given, reader.Suits pair) →
    ¬(given.map Prod.fst).Nodup →
      reader.read (line verb given) = .error .argumentConflict
  /-- Of alternatives only one is taken. -/
  conflicting : ∀ {verb given}, verb.Knows given → (∀ pair ∈ given, reader.Suits pair) →
    (given.map Prod.fst).Nodup → ¬verb.Single (given.map Prod.fst) →
      reader.read (line verb given) = .error .argumentConflict
  /-- What has to be given cannot be left out. -/
  lacking : ∀ {verb given}, verb.Knows given → (∀ pair ∈ given, reader.Suits pair) →
    (given.map Prod.fst).Nodup → verb.Single (given.map Prod.fst) →
    ¬verb.Complete (given.map Prod.fst) →
      reader.read (line verb given) = .error .missingRequiredArgument

theorem command_of_read
    {reader : Reader}
    {words : List String}
    {verb : Verb}
    {settings : Settings}
    {command : Command}
    (read : reader.read words = .ok (some (verb, settings)))
    (made : settings.command? verb = some command) :
    reader.command words = .ok (some command) := by
  simp only [Reader.command, read, bind, Except.bind, made]

theorem command_of_refused
    {reader : Reader}
    {words : List String}
    {refusal : Refusal}
    (refused : reader.read words = .error refusal) :
    reader.command words = .error refusal := by
  rw [Reader.command, refused]
  rfl

end Reader

/-! ## What settings say -/

namespace Settings

theorem isSome_lookup_iff (settings : Settings) (flag : Flag) :
    (settings.lookup flag).isSome = true ↔ flag ∈ settings.map Prod.fst := by
  simp [List.lookup_isSome_iff]

theorem lookup_eq_none_of_notMem
    {settings : Settings}
    {flag : Flag}
    (absent : flag ∉ settings.map Prod.fst) :
    settings.lookup flag = none :=
  Option.not_isSome_iff_eq_none.1 (mt (settings.isSome_lookup_iff flag).1 absent)

/-- An option that comes once has the value that comes with it. -/
theorem lookup_of_mem
    {settings : Settings}
    (distinct : (settings.map Prod.fst).Nodup)
    {setting : Flag × Value}
    (member : setting ∈ settings) :
    settings.lookup setting.1 = some setting.2 := by
  induction settings with
  | nil => cases member
  | cons first rest inductionHypothesis =>
      obtain ⟨absent, restDistinct⟩ := List.nodup_cons.1 distinct
      rcases List.mem_cons.1 member with rfl | later
      · exact List.lookup_cons_self
      · have different : (setting.1 == first.1) = false := by
          refine beq_eq_false_iff_ne.2 fun same => absent ?_
          rw [← same]
          exact List.mem_map_of_mem later
        rw [List.lookup_cons, different]
        exact inductionHypothesis restDistinct later

section Congruence

variable
  {left right : Settings}
  (same : ∀ flag, left.lookup flag = right.lookup flag)

include same

theorem text?_congr : left.text? = right.text? := by
  funext flag
  rw [text?, text?, same]

theorem number?_congr : left.number? = right.number? := by
  funext flag
  rw [number?, number?, same]

theorem word?_congr : left.word? = right.word? := by
  funext flag
  rw [word?, word?, number?_congr same]

theorem target?_congr : left.target? = right.target? := by
  rw [target?, target?, text?_congr same, word?_congr same]

/-- Settings that say the same of every option make up the same command. -/
theorem command?_congr (verb : Verb) : left.command? verb = right.command? verb := by
  cases verb <;>
    simp only [command?, creation?, target?_congr same, text?_congr same, word?_congr same,
      number?_congr same]

end Congruence
end Settings

/-- What a lawful reader takes is what was given, and the defaults of what was not. -/
theorem Reader.Lawful.lookup_eq
    {reader : Reader}
    (lawful : reader.Lawful)
    {verb : Verb}
    {given : List (Flag × String)}
    {settings values : Settings}
    (known : verb.Knows given)
    (read : reader.read (line verb given) = .ok (some (verb, settings)))
    (flags : ∀ flag, flag ∈ given.map Prod.fst ↔ flag ∈ values.map Prod.fst)
    (distinct : (values.map Prod.fst).Nodup)
    (valued : ∀ setting ∈ values, ∃ text, (setting.1, text) ∈ given ∧
      reader.judge setting.1.kind text = .ok setting.2)
    (flag : Flag) :
    settings.lookup flag = (values ++ verb.defaults).lookup flag := by
  rw [List.lookup_append]
  by_cases isGiven : flag ∈ values.map Prod.fst
  · obtain ⟨setting, member, rfl⟩ := List.mem_map.1 isGiven
    obtain ⟨text, isWritten, judged⟩ := valued setting member
    rw [Settings.lookup_of_mem distinct member,
      lawful.valued known read (setting.1, text) isWritten setting.2 judged]
    rfl
  · rw [Settings.lookup_eq_none_of_notMem isGiven,
      lawful.defaulted known read flag (mt (flags flag).1 isGiven)]
    rfl

end CommandLine
end KernelMaps
