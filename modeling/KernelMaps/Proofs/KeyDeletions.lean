import KernelMaps.Inspect.Command
import KernelMaps.Proofs.Targets

/-!
# Deletions by key

A command that takes an entry out of a map opens the map, reads the key, compares its
length with the metadata, and asks the kernel. Whichever of these fails, nothing
changes; if none does, the entry of the key is gone and the others keep their order.
-/

namespace KernelMaps

namespace Table

/-- A table after the entry of a key was taken out. -/
def without (table : Table) (key : Bytes) : Table :=
  { table with entries := table.entries.erase key }

theorem delete_of_held
    {table : Table}
    (unfrozen : table.frozen = false)
    {key value : Bytes}
    (held : table.find? key = some value) :
    table.delete key = .ok (value, table.without key) := by
  have changeable : ¬table.frozen = true := Bool.eq_false_iff.1 unfrozen
  rw [delete, if_neg changeable, held]
  rfl

end Table

namespace Inspect

/-- A target and a text name an entry of a map that may be changed: the target names the
map, and the text is its key in hexadecimal. -/
structure NamesEntry
    (kernel : Kernel)
    (target : Target)
    (text : String)
    (place : Nat)
    (table : Table)
    (key : Bytes) : Prop where
  located : kernel.located target = some place
  present : kernel.tables[place]? = some table
  unfrozen : table.frozen = false
  read : Hex.parse text = .ok key
  width : key.length = table.keySize
  held : key ∈ table.entries.keys

/-- How a deletion by key can end. -/
inductive DeletionEnds
    (before : Kernel)
    (target : Target)
    (text : String) : Except Report Unit → Kernel → Prop
  /-- There is no such map. -/
  | absent
      (absent : before.located target = none) :
      DeletionEnds before target text (.error target.absence) before
  /-- The text is no byte string. -/
  | unreadable
      {error : Hex.Error}
      (unread : Hex.parse text = .error error) :
      DeletionEnds before target text (.error (.keyUnreadable error))
        before.skipDescriptor
  /-- The key is too short or too long for the map. -/
  | misfit
      {place : Nat}
      {table : Table}
      {key : Bytes}
      (located : before.located target = some place)
      (present : before.tables[place]? = some table)
      (read : Hex.parse text = .ok key)
      (misfit : key.length ≠ table.keySize) :
      DeletionEnds before target text
        (.error (.keyLength key.length table.id table.spec.keySize))
        before.skipDescriptor
  /-- The map is read-only or has no such key. -/
  | refused
      {place : Nat}
      {table : Table}
      {key : Bytes}
      {errno : Errno}
      (located : before.located target = some place)
      (present : before.tables[place]? = some table)
      (read : Hex.parse text = .ok key)
      (refused : table.delete key = .error errno) :
      DeletionEnds before target text
        (.error (.callFailed "bpf_map_delete_elem" (.os errno))) before.skipDescriptor
  /-- The entry is gone. -/
  | deleted
      {place : Nat}
      {table : Table}
      {key : Bytes}
      (named : NamesEntry before target text place table key) :
      DeletionEnds before target text (.ok ())
        (before.replace place (table.without key)).skipDescriptor

section Delete

variable
  {kernel after : Kernel}
  {target : Target}
  {text : String}
  {place : Nat}
  {table : Table}
  {key : Bytes}

theorem NamesEntry.same_table
    (named : NamesEntry kernel target text place table key)
    {otherPlace : Nat}
    {other : Table}
    (located : kernel.located target = some otherPlace)
    (present : kernel.tables[otherPlace]? = some other) :
    otherPlace = place ∧ other = table := by
  obtain rfl := Option.some.inj (named.located.symm.trans located)
  exact ⟨rfl, Option.some.inj (present.symm.trans named.present)⟩

theorem NamesEntry.same_key
    (named : NamesEntry kernel target text place table key)
    {other : Bytes}
    (read : Hex.parse text = .ok other) :
    other = key :=
  Except.ok.inj (read.symm.trans named.read)

/-- The kernel takes out an entry that is named. -/
theorem NamesEntry.accepted
    (named : NamesEntry kernel target text place table key) :
    ∃ value, table.delete key = .ok (value, table.without key) := by
  obtain ⟨value, found⟩ := Option.isSome_iff_exists.1
    ((Entries.lookup_isSome_iff_mem _ _).2 named.held)
  exact ⟨value, Table.delete_of_held named.unfrozen found⟩

/-- A deletion that fails was not of an entry that is named. -/
theorem DeletionEnds.not_names
    {report : Report}
    (ends : DeletionEnds kernel target text (.error report) after) :
    ¬NamesEntry kernel target text place table key := by
  intro named
  cases ends with
  | absent absent => exact nomatch named.located.symm.trans absent
  | unreadable unread => exact nomatch named.read.symm.trans unread
  | misfit located present read misfit =>
      obtain ⟨rfl, rfl⟩ := named.same_table located present
      obtain rfl := named.same_key read
      exact misfit named.width
  | refused located present read refused =>
      obtain ⟨rfl, rfl⟩ := named.same_table located present
      obtain rfl := named.same_key read
      obtain ⟨value, accepted⟩ := named.accepted
      exact nomatch accepted.symm.trans refused

/-- A deletion that fails changes nothing but the count of the descriptors. -/
theorem DeletionEnds.kept
    {report : Report}
    (ends : DeletionEnds kernel target text (.error report) after) :
    after.tables = kernel.tables ∧ after.pins = kernel.pins ∧
      after.descriptors = kernel.descriptors := by
  cases ends <;> exact ⟨rfl, rfl, rfl⟩

theorem DeletionEnds.names_of_ok
    (ends : DeletionEnds kernel target text (.ok ()) after) :
    ∃ place table key, NamesEntry kernel target text place table key := by
  cases ends with
  | deleted named => exact ⟨_, _, _, named⟩

/-- If an entry is named it is the one that goes. -/
theorem DeletionEnds.eq_of_names
    {result : Except Report Unit}
    (ends : DeletionEnds kernel target text result after)
    (named : NamesEntry kernel target text place table key) :
    result = .ok () ∧
      after = (kernel.replace place (table.without key)).skipDescriptor := by
  cases result with
  | error report => exact absurd named ends.not_names
  | ok =>
      cases ends with
      | deleted other =>
          obtain ⟨rfl, rfl⟩ := named.same_table other.located other.present
          obtain rfl := named.same_key other.read
          exact ⟨rfl, rfl⟩

section Located

variable
  (valid : kernel.Valid)
  (spare : kernel.opened < Kernel.descriptorLimit)
  (leading : Table.WritesLeading kernel.infoLimit)
  (located : kernel.located target = some place)
  (present : kernel.tables[place]? = some table)

include valid spare leading located present

/-- A key of the right length is passed on to the kernel. -/
theorem run_deleteKey_of_width
    (read : Hex.parse text = .ok key)
    (width : key.length = table.keySize) :
    (deleteKey Kernel.host target text).run.run kernel =
      match table.delete key with
      | .ok (_, next) => (.ok (), (kernel.replace place next).skipDescriptor)
      | .error errno =>
          (.error (.callFailed "bpf_map_delete_elem" (.os errno)),
            kernel.skipDescriptor) := by
  have describes := Table.infoWithin_describes leading table
  have accepted : decide (key.length =
      (table.infoWithin kernel.infoLimit).keySize.toNat) = true := by
    rw [describes.keySize]
    exact decide_eq_true width
  have asked := Kernel.run_delete_resolved (Kernel.resolve_handOut present) key
  rw [Bytes.fit_of_length width] at asked
  rw [deleteKey, Kernel.run_use_of_located spare located present, read,
    Task.run_bind_of_ok (Task.run_ofExcept_ok _ _ _), accepted,
    Task.run_bind_of_ok (Task.run_require_true _ _),
    Task.run_bind_of_ok (Task.run_lift _ _), asked]
  cases deleted : table.delete key with
  | ok taken =>
      refine Prod.ext rfl ?_
      exact valid.answer_close_fresh spare rfl
  | error errno =>
      have positive := Table.delete_error_pos deleted
      have refused : Status.ofOutcome (Kernel.outcomeOf (some errno)) = .ofErrno errno :=
        Answer.status_refuse (.delete kernel.fresh key) positive
      simp only [refused, Task.run_bind, Task.run_check_ofErrno _ positive]
      exact congrArg (Prod.mk _) (Kernel.answer_close_handOut valid spare place)

/-- The stages of a deletion, the first of which opens the map. -/
theorem run_deleteKey_of_located :
    let ended := (deleteKey Kernel.host target text).run.run kernel
    DeletionEnds kernel target text ended.1 ended.2 := by
  intro ended
  cases read : Hex.parse text with
  | error error =>
      have unread : ended = (.error (.keyUnreadable error), kernel.skipDescriptor) := by
        refine Kernel.run_use_of_reads valid spare located present ?_
        rw [read]
        exact Task.run_bind_of_error (Task.run_ofExcept_error _ _ _) _
      rw [unread]
      exact .unreadable read
  | ok key =>
      by_cases width : key.length = table.keySize
      · have asked : ended = _ :=
          run_deleteKey_of_width valid spare leading located present read width
        rw [asked]
        cases deleted : table.delete key with
        | error errno => exact .refused located present read deleted
        | ok taken =>
            obtain ⟨value, next⟩ := taken
            obtain ⟨unfrozen, found, rfl⟩ := Table.delete_accepted deleted
            have held := (Entries.lookup_isSome_iff_mem table.entries key).1
              (Option.isSome_of_eq_some found)
            exact .deleted ⟨located, present, unfrozen, read, width, held⟩
      · have describes := Table.infoWithin_describes leading table
        have misfit : ended =
            (.error (.keyLength key.length table.id table.spec.keySize),
              kernel.skipDescriptor) := by
          refine Kernel.run_use_of_reads valid spare located present ?_
          have unaccepted : decide (key.length =
              (table.infoWithin kernel.infoLimit).keySize.toNat) = false := by
            rw [describes.keySize]
            exact decide_eq_false width
          rw [read, Task.run_bind_of_ok (Task.run_ofExcept_ok _ _ _), unaccepted,
            describes.id, describes.keySize]
          exact Task.run_bind_of_error rfl _
        rw [misfit]
        exact .misfit located present read width

end Located

theorem run_deleteKey_ends
    (valid : kernel.Valid)
    (spare : kernel.opened < Kernel.descriptorLimit)
    (leading : Table.WritesLeading kernel.infoLimit) :
    let ended := (deleteKey Kernel.host target text).run.run kernel
    DeletionEnds kernel target text ended.1 ended.2 := by
  intro ended
  cases located : kernel.located target with
  | none =>
      have absent : ended = (.error target.absence, kernel) :=
        Kernel.run_use_of_absent located _
      rw [absent]
      exact .absent located
  | some place =>
      have bound := valid.located_lt located
      have present : kernel.tables[place]? = some kernel.tables[place] :=
        List.getElem?_eq_getElem bound
      exact run_deleteKey_of_located valid spare leading located present

end Delete

/-- A deletion by key succeeds if and only if the target names a map that may be changed
and the text is one of its keys in hexadecimal. Then the entry of this key is gone, the
others keep their order, and all other maps are as before. If it fails, every map, every
pinned path and every open descriptor is as before. -/
theorem deleteKey_exactly
    {kernel : Kernel}
    (reachable : kernel.Reachable)
    (leading : ∀ length, kernel.infoLimit = some length → 24 ≤ length)
    (target : Target)
    (text : String) :
    let ended := (deleteKey Kernel.host target text).run.run kernel
    (ended.1 = .ok () ↔
        ∃ place table key, NamesEntry kernel target text place table key) ∧
      (∀ place table key, NamesEntry kernel target text place table key →
        ended.2.tables = kernel.tables.set place
            { table with entries := table.entries.filter fun entry => entry.1 != key } ∧
          ended.2.pins = kernel.pins ∧ ended.2.descriptors = kernel.descriptors) ∧
      ∀ report, ended.1 = .error report →
        ended.2.tables = kernel.tables ∧ ended.2.pins = kernel.pins ∧
          ended.2.descriptors = kernel.descriptors := by
  intro ended
  have valid := reachable.valid
  have ends : DeletionEnds kernel target text ended.1 ended.2 :=
    run_deleteKey_ends valid reachable.opened_lt leading
  refine ⟨⟨?names, ?succeeds⟩, ?deletes, ?keeps⟩
  case names =>
    intro succeeded
    rw [succeeded] at ends
    exact ends.names_of_ok
  case succeeds =>
    rintro ⟨place, table, key, named⟩
    exact (ends.eq_of_names named).1
  case deletes =>
    intro place table key named
    have distinct := (valid.tableAt named.present).distinct
    rw [(ends.eq_of_names named).2, ← Entries.erase_eq_filter distinct]
    exact ⟨rfl, rfl, rfl⟩
  case keeps =>
    intro report failed
    rw [failed] at ends
    exact ends.kept

/-- A map with two entries, pinned to a path. -/
def pinnedPair : List Move :=
  [.call (.create { mapType := 1, keySize := 2, valueSize := 1, maxEntries := 2 }),
    .call (.updateBatch 101 [0, 10, 0, 11] [1, 2] 2 {}),
    .call (.pin 101 "/sys/fs/bpf/pair")]

def pairTable : Table where
  id := 1000
  spec := { mapType := 1, keySize := 2, valueSize := 1, maxEntries := 2 }
  entries := [([0, 10], [1]), ([0, 11], [2])]

/-- The key of the second entry is deleted; without its first byte it is no key. -/
theorem deleteKey_exactly_pinnedPair :
    let kernel := ({} : Kernel).run pinnedPair
    let target := Target.pin "/sys/fs/bpf/pair"
    let deleted := (deleteKey Kernel.host target "0x00 0B").run.run kernel
    let kept := (deleteKey Kernel.host target "0b").run.run kernel
    kernel.Reachable ∧ kernel.tables = [pairTable] ∧
      deleted.1 = .ok () ∧
      deleted.2.tables = [{ pairTable with entries := [([0, 10], [1])] }] ∧
      kept.1 = .error (.keyLength 1 1000 2) ∧ kept.2.tables = [pairTable] := by
  intro kernel target deleted kept
  have reachable : kernel.Reachable := ⟨pinnedPair, rfl, by decide +kernel⟩
  have leading : ∀ length, kernel.infoLimit = some length → 24 ≤ length := nofun
  have tables : kernel.tables = [pairTable] := by decide +kernel
  have named : NamesEntry kernel target "0x00 0B" 0 pairTable [0, 11] :=
    { located := by decide +kernel
      present := by rw [tables]; rfl
      unfrozen := rfl
      read := by decide +kernel
      width := by decide
      held := by decide }
  have failed : kept.1 = .error (.keyLength 1 1000 2) := by rfl
  obtain ⟨succeeds, deletes, _⟩ := deleteKey_exactly reachable leading target "0x00 0B"
  obtain ⟨_, _, keeps⟩ := deleteKey_exactly reachable leading target "0b"
  refine ⟨reachable, tables, succeeds.2 ⟨_, _, _, named⟩, ?_, failed, ?_⟩
  · rw [(deletes _ _ _ named).1, tables]
    rfl
  · rw [(keeps _ failed).1, tables]

end Inspect
end KernelMaps
