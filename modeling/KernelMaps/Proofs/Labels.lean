import KernelMaps.Inspect.Command
import KernelMaps.Proofs.Creations
import KernelMaps.Proofs.KeyWalks
import KernelMaps.Proofs.Numerals
import KernelMaps.Proofs.ShortRecords

/-!
# What a watched map is called

A watch calls a map by its name if the kernel reports one, or else by its identifier.
The name that is reported of a map without a name is empty, and an empty name is not
replaced by the identifier.
-/

namespace KernelMaps

/-! ## Reported names -/

namespace Table

/-- The name of a table as a client reads it. -/
def name (table : Table) : String :=
  MapInfo.nameOf (Bytes.fit Abi.nameLength table.spec.name)

/-- A limit leaves room for the name. -/
def WritesName (limit : Option UInt32) : Prop :=
  InfoField.name.offset + InfoField.name.width ≤ roomWithin limit

instance (limit : Option UInt32) : Decidable (WritesName limit) :=
  inferInstanceAs (Decidable (_ ≤ _))

theorem name_infoWithin (table : Table) (limit : Option UInt32) :
    (WritesName limit → (table.infoWithin limit).name = some table.name) ∧
      (¬WritesName limit → (table.infoWithin limit).name = none) := by
  have read : (MapRecord.decode table.record.encode).value .name = .text table.name :=
    congrArg (fun bytes => InfoValue.text (MapInfo.nameOf bytes)) table.record.decode_name
  have shown := table.value?_infoWithin limit .name
  rw [read, InfoField.present?] at shown
  have fitsIff : InfoField.name.fits (table.infoWithin limit).length = true ↔
      WritesName limit := by
    rw [InfoField.fits_iff, length_infoWithin, Nat.le_min]
    exact and_iff_left (by decide)
  constructor
  · intro written
    rw [if_pos (fitsIff.2 written)] at shown
    obtain ⟨name, reported, same⟩ := Option.map_eq_some_iff.1 shown
    rw [reported, InfoValue.text.inj same]
  · intro cut
    rw [if_neg (mt fitsIff.1 cut)] at shown
    exact Option.map_eq_none_iff.1 shown

/-- A map that was created without a name has an empty one. -/
theorem name_of_unnamed
    {table : Table}
    {options : CreateOptions}
    (created : table.spec = options.spec)
    (unnamed : options.name = none) :
    table.name = "" := by
  have zeros : table.spec.name = Bytes.zeros Abi.nameLength := by
    rw [created, CreateOptions.spec, unnamed]
    rfl
  rw [name, zeros, Bytes.fit_of_length (Bytes.zeros_length _)]
  exact CreateOptions.nameOf_zeros

end Table

namespace Inspect

/-- What a table is called under a limit. -/
inductive Called (table : Table) (limit : Option UInt32) : String → Prop
  | named
      (reported : Table.WritesName limit)
      (nonempty : table.name ≠ "") :
      Called table limit table.name
  | numbered
      (unreported : ¬Table.WritesName limit) :
      Called table limit (toString table.id)
  /-- The name is there, although it is empty, so the identifier is not asked for. -/
  | nameless
      (reported : Table.WritesName limit)
      (empty : table.name = "") :
      Called table limit ""

theorem toString_ne_empty (number : UInt32) : toString number ≠ "" := by
  intro empty
  have digits := Text.Numeral.toList_toString number
  rw [empty] at digits
  exact Nat.toDigits_ne_nil digits.symm

section Called

variable
  {table : Table}
  {limit : Option UInt32}

/-- Only an empty name that is reported leaves a table without anything to call it. -/
theorem Called.eq_empty_iff
    {label : String}
    (called : Called table limit label) :
    label = "" ↔ Table.WritesName limit ∧ table.name = "" := by
  cases called with
  | named reported nonempty =>
      exact iff_of_false nonempty fun both => nonempty both.2
  | numbered unreported =>
      exact iff_of_false (toString_ne_empty table.id) fun both => unreported both.1
  | nameless reported empty => exact iff_of_true rfl ⟨reported, empty⟩

theorem called_label (leading : Table.WritesLeading limit) :
    Called table limit (label (table.infoWithin limit)) := by
  have sameId := (Table.infoWithin_describes leading table).id
  obtain ⟨whenWritten, whenCut⟩ := table.name_infoWithin limit
  rw [label, sameId]
  by_cases reported : Table.WritesName limit
  · rw [whenWritten reported, Option.getD_some]
    by_cases empty : table.name = ""
    · rw [empty]
      exact .nameless reported empty
    · exact .named reported empty
  · rw [whenCut reported, Option.getD_none]
    exact .numbered reported

end Called

/-- A watch of a map tells how many entries it has, and calls it by its name if the
kernel reports one, or else by its identifier. The label is empty if and only if the
kernel reports an empty name, as it does of every map that was created without one. -/
theorem watch_called
    {kernel : Kernel}
    (reachable : kernel.Reachable)
    (leading : ∀ length, kernel.infoLimit = some length → 24 ≤ length)
    {target : Target}
    {place : Nat}
    (located : kernel.located target = some place) :
    ∃ table label, kernel.tables[place]? = some table ∧
      (watch Kernel.host target).run.run kernel =
        (.ok ⟨label, table.entries.length, table.spec.maxEntries⟩,
          kernel.skipDescriptor) ∧
      Called table kernel.infoLimit label ∧
      (label = "" ↔ Table.WritesName kernel.infoLimit ∧ table.name = "") ∧
      ∀ options : CreateOptions, table.spec = options.spec → options.name = none →
        table.name = "" := by
  have valid := reachable.valid
  have bound := valid.located_lt located
  have present : kernel.tables[place]? = some kernel.tables[place] :=
    List.getElem?_eq_getElem bound
  generalize kernel.tables[place] = table at present
  have describes := Table.infoWithin_describes leading table
  have counted := Dump.run_count (Kernel.resolve_handOut present) (valid.tableAt present)
  have called : Called table kernel.infoLimit _ := called_label leading
  refine ⟨table, _, present, ?watched, called, called.eq_empty_iff,
    fun _ => Table.name_of_unnamed⟩
  case watched =>
    refine Kernel.run_use_of_reads valid reachable.opened_lt located present ?_
    dsimp only
    rw [describes.keySize, Task.run_bind_of_ok counted, Task.run_pure,
      describes.maxEntries]

/-- A map with a name is called by it, and by its number if the kernel stops before the
last byte of the name. -/
theorem watch_called_named :
    let cut := Kernel.named.after (.limitInfo (some 39))
    Kernel.named.Reachable ∧ cut.Reachable ∧
      (watch Kernel.host (.id 1000)).run.run Kernel.named =
        (.ok ⟨"ab", 0, 2⟩, Kernel.named.skipDescriptor) ∧
      (watch Kernel.host (.id 1000)).run.run cut =
        (.ok ⟨"1000", 0, 2⟩, cut.skipDescriptor) := by
  intro cut
  have wholeReachable : Kernel.named.Reachable := ⟨_, rfl, by decide +kernel⟩
  have cutReachable : cut.Reachable :=
    ⟨[.call (.create Kernel.namedTable.spec), .limitInfo (some 39)], rfl, by decide +kernel⟩
  have name : Kernel.namedTable.name = "ab" := by decide +kernel
  refine ⟨wholeReachable, cutReachable, ?whole, ?cut⟩
  case whole =>
    have located : Kernel.named.located (.id 1000) = some 0 := by decide +kernel
    obtain ⟨table, label, present, watched, called, -⟩ :=
      watch_called wholeReachable nofun located
    obtain rfl : Kernel.namedTable = table := Option.some.inj present
    cases called with
    | named reported nonempty => rw [watched, name]; rfl
    | numbered unreported => exact absurd (by decide) unreported
    | nameless reported empty => exact absurd (name.symm.trans empty) (by decide)
  case cut =>
    have located : cut.located (.id 1000) = some 0 := by decide +kernel
    have leading : ∀ length, cut.infoLimit = some length → 24 ≤ length := by
      rintro length ⟨rfl⟩
      decide
    obtain ⟨table, label, present, watched, called, -⟩ :=
      watch_called cutReachable leading located
    obtain rfl : Kernel.namedTable = table := Option.some.inj present
    cases called with
    | named reported nonempty => exact absurd reported (by decide)
    | numbered unreported => rw [watched]; rfl
    | nameless reported empty => exact absurd reported (by decide)

/-- A map that is created without a name is watched under an empty label. -/
theorem watch_nameless :
    let options : CreateOptions := { mapType := 1, keySize := 1, valueSize := 1, maxEntries := 4 }
    let kernel := ({} : Kernel).run [.call (.create options.spec)]
    kernel.Reachable ∧ kernel.infoLimit = none ∧ options.name = none ∧
      (kernel.tables.map Table.id) = [1000] ∧
      ((watch Kernel.host (.id 1000)).run.run kernel).1 = .ok ⟨"", 0, 4⟩ := by
  intro options kernel
  exact ⟨⟨_, rfl, by decide +kernel⟩, rfl, rfl, by decide +kernel, by decide +kernel⟩

end Inspect
end KernelMaps
