import KernelMaps.Proofs.Options

/-!
# Command lines written and read back

A command is chosen together with the arguments that it takes, and written as its name
with one word for each option. A lawful reader reads such a line back as the command in
whatever order its options come. It refuses the line if an option is missing that the
command needs, if one comes twice, or if both ways to point at a map are used.
-/

namespace KernelMaps
namespace CommandLine

/-- A command and the choice of its arguments. What may be left out is an option. -/
inductive Choice
  | info (target : Target)
  | list
  | dump (target : Target)
  | batchDump (target : Target) (chunk : Option UInt32)
  | delete (target : Target) (key : String)
  | freeze (target : Target)
  | create
      (path : String)
      (mapType keySize valueSize maxEntries : UInt32)
      (name : Option String)
      (mapFlags : Option UInt32)
  | watch (target : Target) (interval : Option UInt64)
  | version
  deriving DecidableEq, Repr

/-- The written form of a value. -/
def Value.written : Value → String
  | text value => value
  | number value => toString value

/-- A value that an option of a kind can have. -/
def Kind.Admits : Kind → Value → Prop
  | path, .text value => value ≠ ""
  | Kind.text, .text _ => True
  | word, .number value => value < UInt32.size
  | doubleWord, .number value => value < UInt64.size
  | _, _ => False

/-- A 32-bit number as a value. -/
def Value.word (word : UInt32) : Value :=
  .number word.toNat

/-- The option that points at a map. -/
def pointer : Target → Flag × Value
  | .pin path => (.pin, .text path)
  | .id id => (.id, .word id)

namespace Choice

/-- The name of the command. -/
def verb : Choice → Verb
  | info _ => .info
  | list => .list
  | dump _ => .dump
  | batchDump .. => .batchDump
  | delete .. => .delete
  | freeze _ => .freeze
  | create .. => .create
  | watch .. => .watch
  | version => .version

/-- The command, where whatever was left out is as it is by default. -/
def command : Choice → Command
  | info target => .info target
  | list => .list
  | dump target => .dump target
  | batchDump target chunk => .batchDump target (chunk.getD 64)
  | delete target key => .delete target key
  | freeze target => .freeze target
  | create path mapType keySize valueSize maxEntries name mapFlags =>
      .create
        { path, mapType, keySize, valueSize, maxEntries, name
          mapFlags := mapFlags.getD 0 }
  | watch target interval => .watch target (interval.getD 5)
  | version => .version

/-- The map that a command works on, if it is to find one. -/
def target? : Choice → Option Target
  | info target | dump target | batchDump target _ | delete target _ | freeze target
  | watch target _ => some target
  | list | create .. | version => none

/-- The options that a command needs. -/
def required : Choice → Settings
  | info target | dump target | batchDump target _ | freeze target | watch target _ =>
      [pointer target]
  | delete target key => [pointer target, (.key, .text key)]
  | create path mapType keySize valueSize maxEntries _ _ =>
      [(.pin, .text path), (.mapType, .word mapType), (.keySize, .word keySize),
        (.valueSize, .word valueSize), (.maxEntries, .word maxEntries)]
  | list | version => []

/-- The options that were not left out although they could have been. -/
def optional : Choice → Settings
  | batchDump _ chunk => chunk.toList.map fun chunk => (.chunk, .word chunk)
  | create _ _ _ _ _ name mapFlags =>
      (name.toList.map fun name => (.name, .text name)) ++
        mapFlags.toList.map fun mapFlags => (.mapFlags, .word mapFlags)
  | watch _ interval =>
      interval.toList.map fun interval => (.interval, .number interval.toNat)
  | info _ | list | dump _ | delete .. | freeze _ | version => []

/-- All options of a command. -/
def settings (choice : Choice) : Settings :=
  choice.required ++ choice.optional

end Choice

/-- Options with the written forms of their values. -/
def Settings.written (settings : Settings) : List (Flag × String) :=
  settings.map fun setting => (setting.1, setting.2.written)

/-- An option cannot be given besides those of a choice: it is among them, or it is the
other way to point at a map. -/
def Choice.Excludes (choice : Choice) (flag : Flag) : Prop :=
  flag ∈ choice.settings.map Prod.fst ∨
    choice.target?.isSome = true ∧ (flag = .pin ∨ flag = .id)

/-- A choice is what a reader makes of it, and of nothing that differs from it in its
options. -/
structure Choice.ReadBack (reader : Reader) (choice : Choice) : Prop where
  /-- In any order the options are read back as the command. -/
  accepted : ∀ given : List (Flag × String), given.Perm choice.settings.written →
    reader.command (line choice.verb given) = .ok (some choice.command)
  /-- The settings that are read point at the map. -/
  points : ∀ given : List (Flag × String), given.Perm choice.settings.written →
    ∃ settings,
      reader.read (line choice.verb given) = .ok (some (choice.verb, settings)) ∧
        ∀ target, choice.target? = some target → settings.target? = some target
  /-- Nothing that is needed can be left out. -/
  lacking : ∀ kept : Settings, kept.Sublist choice.settings →
    (∃ setting ∈ choice.required, setting ∉ kept) →
      ∀ given, given.Perm kept.written →
        reader.command (line choice.verb given) = .error .missingRequiredArgument
  /-- Nothing that is there can be given again, nor another way to point at the map. -/
  excluded : ∀ flag, choice.Excludes flag → ∀ text given,
    given.Perm ((flag, text) :: choice.settings.written) →
      (∃ refusal, reader.command (line choice.verb given) = .error refusal) ∧
        ((∃ value, reader.judge flag.kind text = .ok value) →
          reader.command (line choice.verb given) = .error .argumentConflict)

/-! ## Settings of a choice -/

namespace Settings

theorem word?_of_lookup
    {settings : Settings}
    {flag : Flag}
    {word : UInt32}
    (found : settings.lookup flag = some (.word word)) :
    settings.word? flag = some word := by
  rw [word?, number?, found]
  exact congrArg some UInt32.ofNat_toNat

theorem map_fst_written (settings : Settings) :
    settings.written.map Prod.fst = settings.map Prod.fst := by
  rw [written, List.map_map]
  rfl

theorem target?_pointer
    {rest : Settings}
    (noPin : rest.lookup .pin = none)
    (noId : rest.lookup .id = none)
    (target : Target) :
    target? (pointer target :: rest) = some target := by
  cases target with
  | pin path =>
      have noWord : word? (pointer (.pin path) :: rest) .id = none := by
        change (number? rest .id).map UInt32.ofNat = none
        rw [number?, noId]
        rfl
      rw [target?, noWord]
      rfl
  | id id =>
      have noText : text? (pointer (.id id) :: rest) .pin = none := by
        change text? rest .pin = none
        rw [text?, noPin]
      have word : word? (pointer (.id id) :: rest) .id = some id := word?_of_lookup rfl
      rw [target?, noText, word]

end Settings

theorem Verb.alternatives_subset (verb : Verb) : verb.alternatives ⊆ verb.flags := by
  cases verb <;> decide

theorem Verb.pointers_notMem_defaults (verb : Verb) :
    .pin ∉ verb.defaults.map Prod.fst ∧ .id ∉ verb.defaults.map Prod.fst := by
  cases verb <;> decide

namespace Choice

variable (choice : Choice)

/-- All options of a command, and the defaults behind them. -/
def whole (choice : Choice) : Settings :=
  choice.settings ++ choice.verb.defaults

/-- The options of a choice are among those that the command takes, in the same order. -/
theorem flags_sublist : (choice.settings.map Prod.fst).Sublist choice.verb.flags := by
  rw [← List.isSublist_iff_sublist]
  cases choice with
  | info target | dump target | delete target _ | freeze target => cases target <;> rfl
  | batchDump target chunk => cases target <;> cases chunk <;> rfl
  | create _ _ _ _ _ name mapFlags => cases name <;> cases mapFlags <;> rfl
  | watch target interval => cases target <;> cases interval <;> rfl
  | list | version => rfl

theorem nodup_flags : (choice.settings.map Prod.fst).Nodup := by
  refine choice.flags_sublist.nodup ?_
  cases choice.verb <;> decide

section Target

variable
  {choice : Choice}
  {target : Target}
  (works : choice.target? = some target)

include works

/-- A command that is to find a map does so by one of two options. -/
theorem alternatives_of_target : choice.verb.alternatives = [.pin, .id] := by
  cases choice with
  | list | create | version => cases works
  | info | dump | batchDump | delete | freeze | watch => rfl

/-- Behind the option that points at a map no other one does. -/
theorem exists_rest :
    ∃ rest : Settings, choice.settings = pointer target :: rest ∧
      .pin ∉ rest.map Prod.fst ∧ .id ∉ rest.map Prod.fst := by
  cases choice with
  | list | create | version => cases works
  | info | dump | freeze =>
      obtain rfl := Option.some.inj works
      exact ⟨[], rfl, nofun, nofun⟩
  | delete _ key =>
      obtain rfl := Option.some.inj works
      exact ⟨[(.key, .text key)], rfl, by simp, by simp⟩
  | batchDump _ chunk =>
      obtain rfl := Option.some.inj works
      exact ⟨_, rfl, by simp [optional], by simp [optional]⟩
  | watch _ interval =>
      obtain rfl := Option.some.inj works
      exact ⟨_, rfl, by simp [optional], by simp [optional]⟩

theorem eq_pointer
    {flag : Flag}
    (pointing : flag = .pin ∨ flag = .id)
    (given : flag ∈ choice.settings.map Prod.fst) :
    flag = (pointer target).1 := by
  obtain ⟨rest, split, noPin, noId⟩ := exists_rest works
  rw [split] at given
  rcases List.mem_cons.1 given with same | behind
  · exact same
  · rcases pointing with rfl | rfl
    · exact absurd behind noPin
    · exact absurd behind noId

theorem target?_whole : choice.whole.target? = some target := by
  obtain ⟨rest, split, noPin, noId⟩ := exists_rest works
  obtain ⟨noDefaultPin, noDefaultId⟩ := choice.verb.pointers_notMem_defaults
  have behind : ∀ flag, flag ∉ rest.map Prod.fst →
      flag ∉ choice.verb.defaults.map Prod.fst →
        (rest ++ choice.verb.defaults).lookup flag = none := by
    intro flag notGiven noDefault
    rw [List.lookup_append, Settings.lookup_eq_none_of_notMem notGiven,
      Settings.lookup_eq_none_of_notMem noDefault]
    rfl
  rw [whole, split, List.cons_append]
  exact Settings.target?_pointer (behind .pin noPin noDefaultPin)
    (behind .id noId noDefaultId) target

end Target

theorem creation?_whole
    (path : String)
    (mapType keySize valueSize maxEntries : UInt32)
    (name : Option String)
    (mapFlags : Option UInt32) :
    (create path mapType keySize valueSize maxEntries name mapFlags).whole.creation? =
      some
        { path, mapType, keySize, valueSize, maxEntries, name
          mapFlags := mapFlags.getD 0 } := by
  generalize chosen :
    (create path mapType keySize valueSize maxEntries name mapFlags).whole = settings
  have pinned : settings.text? .pin = some path := by rw [← chosen]; rfl
  have typed : settings.word? .mapType = some mapType := by
    rw [← chosen]
    exact Settings.word?_of_lookup rfl
  have keyed : settings.word? .keySize = some keySize := by
    rw [← chosen]
    exact Settings.word?_of_lookup rfl
  have valued : settings.word? .valueSize = some valueSize := by
    rw [← chosen]
    exact Settings.word?_of_lookup rfl
  have bounded : settings.word? .maxEntries = some maxEntries := by
    rw [← chosen]
    exact Settings.word?_of_lookup rfl
  have named : settings.text? .name = name := by
    rw [← chosen]
    cases name <;> cases mapFlags <;> rfl
  have flagged : settings.word? .mapFlags = some (mapFlags.getD 0) := by
    rw [← chosen]
    cases mapFlags with
    | none => cases name <;> rfl
    | some flags => cases name <;> exact Settings.word?_of_lookup rfl
  rw [Settings.creation?, pinned, typed, keyed, valued, bounded, named, flagged]
  rfl

/-- All options of a choice and the defaults make up its command. -/
theorem command?_whole : choice.whole.command? choice.verb = some choice.command := by
  cases choice with
  | list | version => rfl
  | info target | dump target | freeze target =>
      exact congrArg (Option.map _) (target?_whole rfl)
  | delete target key =>
      have keyed : (delete target key).whole.text? .key = some key := by
        cases target <;> rfl
      rw [verb, Settings.command?, target?_whole rfl, keyed]
      rfl
  | batchDump target chunk =>
      have counted : (batchDump target chunk).whole.word? .chunk = some (chunk.getD 64) := by
        cases chunk with
        | none => cases target <;> rfl
        | some chunk => cases target <;> exact Settings.word?_of_lookup rfl
      rw [verb, Settings.command?, target?_whole rfl, counted]
      rfl
  | create path mapType keySize valueSize maxEntries name mapFlags =>
      exact congrArg (Option.map _) (creation?_whole ..)
  | watch target interval =>
      have timed : (watch target interval).whole.number? .interval =
          some (interval.getD 5).toNat := by
        cases interval <;> cases target <;> rfl
      rw [verb, Settings.command?, target?_whole rfl, timed]
      exact congrArg (fun number => some (Command.watch target number)) UInt64.ofNat_toNat

/-! ## What a choice writes -/

theorem admits_word (word : UInt32) : Kind.word.Admits (.word word) :=
  word.toNat_lt

theorem admits_optional
    {choice : Choice}
    {setting : Flag × Value}
    (member : setting ∈ choice.optional) :
    setting.1.kind.Admits setting.2 := by
  cases choice with
  | info | list | dump | delete | freeze | version => cases member
  | batchDump _ chunk =>
      obtain ⟨chunk, -, rfl⟩ := List.mem_map.1 member
      exact admits_word chunk
  | create _ _ _ _ _ name mapFlags =>
      rcases List.mem_append.1 member with named | flagged
      · obtain ⟨name, -, rfl⟩ := List.mem_map.1 named
        exact trivial
      · obtain ⟨mapFlags, -, rfl⟩ := List.mem_map.1 flagged
        exact admits_word mapFlags
  | watch _ interval =>
      obtain ⟨interval, -, rfl⟩ := List.mem_map.1 member
      exact interval.toNat_lt

/-- Every option of a choice has a value that suits it, unless a path is empty. -/
theorem admits
    {choice : Choice}
    (nonempty : (Flag.pin, Value.text "") ∉ choice.settings)
    {setting : Flag × Value}
    (member : setting ∈ choice.settings) :
    setting.1.kind.Admits setting.2 := by
  have pinned : ∀ path, (Flag.pin, Value.text path) ∈ choice.settings → path ≠ "" :=
    fun _ isPath empty => nonempty (empty ▸ isPath)
  have pointed : ∀ target, pointer target ∈ choice.settings →
      (pointer target).1.kind.Admits (pointer target).2
    | .pin path => pinned path
    | .id id => fun _ => admits_word id
  rcases List.mem_append.1 member with isRequired | isOptional
  · cases choice with
    | list | version => cases isRequired
    | info target | dump target | batchDump target _ | freeze target | watch target _ =>
        obtain rfl := List.mem_singleton.1 isRequired
        exact pointed target member
    | delete target key =>
        rcases List.mem_pair.1 isRequired with rfl | rfl
        · exact pointed target member
        · exact trivial
    | create path mapType keySize valueSize maxEntries _ _ =>
        simp only [required, List.mem_cons, List.not_mem_nil, or_false] at isRequired
        rcases isRequired with rfl | rfl | rfl | rfl | rfl
        · exact pinned path member
        · exact admits_word mapType
        · exact admits_word keySize
        · exact admits_word valueSize
        · exact admits_word maxEntries
  · exact admits_optional isOptional

section Written

variable
  {reader : Reader}
  (lawful : reader.Lawful)

include lawful

/-- The written form of a value stands for it, whatever a text contains. -/
theorem judge_written
    {kind : Kind}
    {value : Value}
    (admits : kind.Admits value) :
    reader.judge kind value.written = .ok value := by
  cases kind with
  | path =>
      cases value with
      | number => cases admits
      | text text => exact lawful.path text admits
  | text =>
      cases value with
      | number => cases admits
      | text text => exact lawful.text text
  | word =>
      cases value with
      | text => cases admits
      | number number => exact lawful.word number admits
  | doubleWord =>
      cases value with
      | text => cases admits
      | number number => exact lawful.doubleWord number admits

theorem suits_of_perm
    {choice : Choice}
    (nonempty : (Flag.pin, Value.text "") ∉ choice.settings)
    {kept : Settings}
    (fewer : kept.Sublist choice.settings)
    {given : List (Flag × String)}
    (order : given.Perm kept.written) :
    ∀ pair ∈ given, reader.Suits pair := by
  intro pair member
  obtain ⟨setting, isKept, rfl⟩ := List.mem_map.1 (order.mem_iff.1 member)
  exact ⟨setting.2, judge_written lawful (admits nonempty (fewer.subset isKept))⟩

end Written

section Kept

variable
  {choice : Choice}
  {kept : Settings}
  (fewer : kept.Sublist choice.settings)

include fewer

theorem known_of_perm
    {given : List (Flag × String)}
    (order : given.Perm kept.written) :
    choice.verb.Knows given := by
  intro pair member
  obtain ⟨setting, isKept, rfl⟩ := List.mem_map.1 (order.mem_iff.1 member)
  exact choice.flags_sublist.subset (List.mem_map_of_mem (fewer.subset isKept))

theorem nodup_of_sublist : (kept.map Prod.fst).Nodup :=
  (fewer.map Prod.fst).nodup choice.nodup_flags

omit fewer in
theorem flags_perm
    {given : List (Flag × String)}
    (order : given.Perm kept.written) :
    (given.map Prod.fst).Perm (kept.map Prod.fst) := by
  rw [← kept.map_fst_written]
  exact order.map Prod.fst

/-- A choice points at its map only once. -/
theorem single_of_sublist : choice.verb.Single (kept.map Prod.fst) := by
  intro first isFirst second isSecond firstGiven secondGiven
  have given := (fewer.map Prod.fst).subset
  cases works : choice.target? with
  | some target =>
      rw [alternatives_of_target works, List.mem_pair] at isFirst isSecond
      rw [eq_pointer works isFirst (given firstGiven),
        eq_pointer works isSecond (given secondGiven)]
  | none =>
      cases choice with
      | list | create | version => cases isFirst
      | info | dump | batchDump | delete | freeze | watch => cases works

end Kept

/-! ## What is missing -/

/-- What a choice needs is the option that points at its map, or declared as required. -/
theorem required_cases
    {choice : Choice}
    {setting : Flag × Value}
    (needed : setting ∈ choice.required) :
    (∃ target, choice.target? = some target ∧ setting = pointer target) ∨
      setting.1 ∈ choice.verb.required := by
  cases choice with
  | list | version => cases needed
  | info target | dump target | batchDump target _ | freeze target | watch target _ =>
      exact Or.inl ⟨target, rfl, List.mem_singleton.1 needed⟩
  | delete target key =>
      rcases List.mem_pair.1 needed with rfl | rfl
      · exact Or.inl ⟨target, rfl, rfl⟩
      · exact Or.inr (List.mem_singleton_self Flag.key)
  | create => exact Or.inr (List.mem_map_of_mem needed)

theorem mem_required
    {choice : Choice}
    {flag : Flag}
    (needed : flag ∈ choice.verb.required) :
    flag ∈ choice.required.map Prod.fst := by
  cases choice with
  | info | list | dump | batchDump | freeze | watch | version => cases needed
  | delete target key =>
      exact List.mem_cons_of_mem _ needed
  | create => exact needed

theorem complete : choice.verb.Complete (choice.settings.map Prod.fst) := by
  constructor
  · intro flag needed
    rw [settings, List.map_append]
    exact List.mem_append_left _ (mem_required needed)
  · cases works : choice.target? with
    | some target =>
        obtain ⟨rest, split, -⟩ := exists_rest works
        refine Or.inr ⟨(pointer target).1, ?_, ?_⟩
        · rw [alternatives_of_target works]
          cases target <;> simp [pointer]
        · rw [split]
          exact List.mem_cons_self
    | none =>
        cases choice with
        | list | create | version => exact Or.inl rfl
        | info | dump | batchDump | delete | freeze | watch => cases works

/-- Without an option that it needs, a choice is not complete. -/
theorem not_complete_of_missing
    {choice : Choice}
    {kept : Settings}
    (fewer : kept.Sublist choice.settings)
    {setting : Flag × Value}
    (needed : setting ∈ choice.required)
    (missing : setting ∉ kept) :
    ¬choice.verb.Complete (kept.map Prod.fst) := by
  have given := (fewer.map Prod.fst).subset
  have noFlag : setting.1 ∉ kept.map Prod.fst := by
    intro isKept
    obtain ⟨other, otherKept, same⟩ := List.mem_map.1 isKept
    have isWritten : setting ∈ choice.settings := List.mem_append_left _ needed
    have equal : other = setting :=
      List.inj_on_of_nodup_map choice.nodup_flags (fewer.subset otherKept) isWritten same
    exact missing (equal ▸ otherKept)
  rintro ⟨allRequired, alternative⟩
  rcases required_cases needed with ⟨target, works, rfl⟩ | isRequired
  · rw [alternatives_of_target works] at alternative
    obtain ⟨flag, pointing, isKept⟩ := alternative.resolve_left (List.cons_ne_nil _ _)
    rw [eq_pointer works (List.mem_pair.1 pointing) (given isKept)] at isKept
    exact noFlag isKept
  · exact noFlag (allRequired _ isRequired)

/-! ## What is too much -/

/-- What is too much is still an option of the command. -/
theorem known_of_excludes
    {choice : Choice}
    {flag : Flag}
    (excludes : choice.Excludes flag) :
    flag ∈ choice.verb.flags := by
  rcases excludes with again | ⟨works, pointing⟩
  · exact choice.flags_sublist.subset again
  · obtain ⟨target, works⟩ := Option.isSome_iff_exists.1 works
    refine choice.verb.alternatives_subset ?_
    rw [alternatives_of_target works]
    exact List.mem_pair.2 pointing

/-- Another option that points at the map is one too many. -/
theorem not_single_of_other
    {choice : Choice}
    {flag : Flag}
    (works : choice.target?.isSome = true)
    (pointing : flag = .pin ∨ flag = .id)
    (other : flag ∉ choice.settings.map Prod.fst) :
    ¬choice.verb.Single (flag :: choice.settings.map Prod.fst) := by
  obtain ⟨target, works⟩ := Option.isSome_iff_exists.1 works
  obtain ⟨rest, split, -⟩ := exists_rest works
  have pointed : (pointer target).1 ∈ choice.settings.map Prod.fst := by
    rw [split]
    exact List.mem_cons_self
  have alternative : (pointer target).1 ∈ choice.verb.alternatives := by
    rw [alternatives_of_target works]
    cases target <;> simp [pointer]
  have isOther : flag ∈ choice.verb.alternatives := by
    rw [alternatives_of_target works]
    exact List.mem_pair.2 pointing
  intro single
  have same := single flag isOther _ alternative List.mem_cons_self
    (List.mem_cons_of_mem _ pointed)
  exact other (same ▸ pointed)

section Excluded

variable
  {choice : Choice}
  {flag : Flag}
  (excludes : choice.Excludes flag)
  {text : String}
  {given : List (Flag × String)}
  (order : given.Perm ((flag, text) :: choice.settings.written))

include excludes order

theorem known_of_excluded : choice.verb.Knows given := by
  have all := List.Sublist.refl choice.settings
  intro pair member
  rcases List.mem_cons.1 (order.mem_iff.1 member) with rfl | isWritten
  · exact known_of_excludes excludes
  · exact known_of_perm all (List.Perm.refl _) pair isWritten

/-- An option of a choice cannot come again, nor can another one point at the map. -/
theorem read_of_excluded
    {reader : Reader}
    (lawful : reader.Lawful)
    (nonempty : (Flag.pin, Value.text "") ∉ choice.settings)
    (suits : reader.Suits (flag, text)) :
    reader.read (line choice.verb given) = .error .argumentConflict := by
  have all := List.Sublist.refl choice.settings
  have allSuit : ∀ pair ∈ given, reader.Suits pair := by
    intro pair member
    rcases List.mem_cons.1 (order.mem_iff.1 member) with rfl | isWritten
    · exact suits
    · exact suits_of_perm lawful nonempty all (List.Perm.refl _) pair isWritten
  have flags : (given.map Prod.fst).Perm (flag :: choice.settings.map Prod.fst) := by
    rw [← choice.settings.map_fst_written]
    exact order.map Prod.fst
  have known := known_of_excluded excludes order
  by_cases again : flag ∈ choice.settings.map Prod.fst
  · refine lawful.repeated known allSuit fun distinct => ?_
    exact (List.nodup_cons.1 (flags.nodup_iff.1 distinct)).1 again
  -- No option comes twice here, so it is the alternatives that are in conflict.
  · obtain ⟨works, pointing⟩ := excludes.resolve_left again
    have distinct : (flag :: choice.settings.map Prod.fst).Nodup :=
      List.nodup_cons.2 ⟨again, choice.nodup_flags⟩
    refine lawful.conflicting known allSuit (flags.nodup_iff.2 distinct) ?_
    rw [choice.verb.single_perm flags]
    exact not_single_of_other works pointing again

end Excluded

/-! ## What is read of a choice -/

/-- In any order the options of a choice are taken, and what is read says the same as they
and the defaults. -/
theorem exists_read
    {reader : Reader}
    (lawful : reader.Lawful)
    {choice : Choice}
    (nonempty : (Flag.pin, Value.text "") ∉ choice.settings)
    {given : List (Flag × String)}
    (order : given.Perm choice.settings.written) :
    ∃ settings, reader.read (line choice.verb given) = .ok (some (choice.verb, settings)) ∧
      ∀ flag, settings.lookup flag = choice.whole.lookup flag := by
  have all := List.Sublist.refl choice.settings
  have flags := flags_perm order
  have known := known_of_perm all order
  obtain ⟨settings, read⟩ := lawful.takes known (suits_of_perm lawful nonempty all order)
    (flags.nodup_iff.2 choice.nodup_flags)
    ((choice.verb.single_perm flags).2 (single_of_sublist all))
    ((choice.verb.complete_perm flags).2 choice.complete)
  refine ⟨settings, read, lawful.lookup_eq known read (fun _ => flags.mem_iff)
    choice.nodup_flags fun setting member => ⟨setting.2.written, ?_, ?_⟩⟩
  · exact order.mem_iff.2 (List.mem_map_of_mem member)
  · exact judge_written lawful (admits nonempty member)

/-- A lawful reader reads back every choice in which no path is empty, and no other one. -/
theorem readBack_iff
    {reader : Reader}
    (lawful : reader.Lawful)
    (choice : Choice) :
    choice.ReadBack reader ↔ (Flag.pin, Value.text "") ∉ choice.settings := by
  have all := List.Sublist.refl choice.settings
  constructor
  · intro readBack empty
    have order := List.Perm.refl choice.settings.written
    have unsuitable : ∃ pair ∈ choice.settings.written, ¬reader.Suits pair :=
      ⟨_, List.mem_map_of_mem empty, fun ⟨value, judged⟩ => lawful.emptyPath value judged⟩
    obtain ⟨refusal, refused⟩ := lawful.unsuitable (known_of_perm all order) unsuitable
    have accepted := readBack.accepted _ order
    rw [Reader.command_of_refused refused] at accepted
    cases accepted
  · intro nonempty
    constructor
    case accepted =>
      intro given order
      obtain ⟨settings, read, same⟩ := exists_read lawful nonempty order
      refine Reader.command_of_read read ?_
      rw [Settings.command?_congr same, choice.command?_whole]
    case points =>
      intro given order
      obtain ⟨settings, read, same⟩ := exists_read lawful nonempty order
      refine ⟨settings, read, fun target works => ?_⟩
      rw [Settings.target?_congr same]
      exact target?_whole works
    case lacking =>
      rintro kept fewer ⟨setting, needed, missing⟩ given order
      have flags := flags_perm order
      refine Reader.command_of_refused (lawful.lacking (known_of_perm fewer order)
        (suits_of_perm lawful nonempty fewer order)
        (flags.nodup_iff.2 (nodup_of_sublist fewer))
        ((choice.verb.single_perm flags).2 (single_of_sublist fewer)) ?_)
      rw [choice.verb.complete_perm flags]
      exact not_complete_of_missing fewer needed missing
    case excluded =>
      intro flag excludes text given order
      have known := known_of_excluded excludes order
      by_cases suits : reader.Suits (flag, text)
      · have conflict := read_of_excluded excludes order lawful nonempty suits
        exact ⟨⟨_, Reader.command_of_refused conflict⟩,
          fun _ => Reader.command_of_refused conflict⟩
      · have isGiven : (flag, text) ∈ given := order.mem_iff.2 List.mem_cons_self
        obtain ⟨refusal, refused⟩ := lawful.unsuitable known ⟨_, isGiven, suits⟩
        exact ⟨⟨refusal, Reader.command_of_refused refused⟩, fun judged => absurd judged suits⟩

/-- A path that starts with a dash, and a key that is full of marks, come back from the
reader that takes the words from left to right. -/
theorem readBack_iff_dashes :
    let choice : Choice := .delete (.pin "-x") "a=b --id=7"
    wordByWord.Lawful ∧ choice.ReadBack wordByWord ∧
      wordByWord.command ["delete", "--key=a=b --id=7", "--pin=-x"] =
        .ok (some (.delete (.pin "-x") "a=b --id=7")) := by
  intro choice
  have nonempty : (Flag.pin, Value.text "") ∉ choice.settings := by decide
  have readBack := (readBack_iff wordByWord_lawful choice).2 nonempty
  refine ⟨wordByWord_lawful, readBack, ?_⟩
  exact readBack.accepted [(.key, "a=b --id=7"), (.pin, "-x")] (List.Perm.swap _ _ _)

end Choice
end CommandLine
end KernelMaps
