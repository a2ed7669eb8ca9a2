import KernelMaps.Proofs.Dumps
import KernelMaps.Proofs.HexText
import KernelMaps.Proofs.KeyDeletions

/-!
# Deletions from a dump

What a dump prints of a key, a deletion accepts. A deletion takes one object
out of what a dump prints and leaves the others where they are, so the objects
of a dump can be deleted in any order until none is left.
-/

namespace KernelMaps

/-- The text in a field of an object. -/
def Json.textOf? (label : String) : Json → Option String
  | .object fields =>
      match fields.lookup label with
      | some (.text value) => some value
      | _ => none
  | _ => none

/-- A list without one occurrence of an item, in the same order. -/
def LeavesOut (item : α) (before after : List α) : Prop :=
  ∃ earlier later, before = earlier ++ item :: later ∧ after = earlier ++ later

/-! ## Objects of entries -/

/-- The field of an object that holds the key of its entry. -/
theorem textOf?_entryJson (key value : Bytes) :
    (entryJson key value).textOf? "key" = some (Hex.encode key) := rfl

namespace Entries

/-- What a dump prints of entries. -/
def objects (entries : Entries) : List Json :=
  entries.map fun entry => entryJson entry.1 entry.2

/-- Without the entry of a key, its object is left out, too. -/
theorem leavesOut_objects_erase
    {entries : Entries}
    (distinct : entries.Distinct)
    {entry : Bytes × Bytes}
    (present : entry ∈ entries) :
    LeavesOut (entryJson entry.1 entry.2) entries.objects
      (entries.erase entry.1).objects := by
  obtain ⟨earlier, later, rfl⟩ := List.append_of_mem present
  refine ⟨objects earlier, objects later, List.map_append, ?_⟩
  rw [erase_append_cons distinct]
  exact List.map_append

end Entries

/-- Permutations of a list that start with the item are permutations of what is
left. -/
theorem LeavesOut.perm_rest
    {item : α}
    {before after order : List α}
    (leavesOut : LeavesOut item before after)
    (rearranged : (item :: order).Perm before) :
    order.Perm after := by
  obtain ⟨earlier, later, rfl, rfl⟩ := leavesOut
  exact List.Perm.cons_inv (rearranged.trans List.perm_middle)

theorem LeavesOut.length_eq
    {item : α}
    {before after : List α}
    (leavesOut : LeavesOut item before after) :
    before.length = after.length + 1 := by
  obtain ⟨earlier, later, rfl, rfl⟩ := leavesOut
  rw [List.length_append, List.length_append, List.length_cons, Nat.add_assoc]

/-! ## Changeable maps -/

/-- A target names a map that may be changed, and the kernel shows at least the
leading words of its metadata. -/
structure Kernel.Offers
    (kernel : Kernel)
    (target : Target)
    (place : Nat)
    (table : Table) : Prop where
  valid : kernel.Valid
  leading : Table.WritesLeading kernel.infoLimit
  located : kernel.located target = some place
  present : kernel.tables[place]? = some table
  unfrozen : table.frozen = false

section Offers

variable
  {kernel : Kernel}
  {target : Target}
  {place : Nat}
  {table : Table}

theorem Kernel.Offers.skipDescriptor (offers : kernel.Offers target place table) :
    kernel.skipDescriptor.Offers target place table :=
  ⟨offers.valid.skipDescriptor, offers.leading, offers.located, offers.present,
    offers.unfrozen⟩

/-- A map may be changed further after a deletion. -/
theorem Kernel.Offers.without
    (offers : kernel.Offers target place table)
    (key : Bytes) :
    (kernel.replace place (table.without key)).Offers target place
      (table.without key) where
  valid := by
    have edit : table.Edit (table.without key) := .erase key offers.unfrozen
    exact offers.valid.replace offers.present
      (edit.valid (offers.valid.tableAt offers.present)) rfl
  leading := offers.leading
  located := by
    have sameId : (table.without key).id = table.id := rfl
    exact (Kernel.located_replace offers.present sameId target).trans offers.located
  present := by
    obtain ⟨bound, _⟩ := List.getElem?_eq_some_iff.1 offers.present
    exact List.getElem?_set_self bound
  unfrozen := offers.unfrozen

namespace CommandLine
namespace Command

/-- A dump prints the objects of the entries and changes no map. -/
theorem run_dump
    (offers : kernel.Offers target place table)
    (spare : kernel.opened < Kernel.descriptorLimit)
    (machine : Machine) :
    (run Kernel.host machine (.dump target)).run.run kernel =
      (.ok (.json (.array table.entries.objects)), kernel.skipDescriptor) :=
  Task.run_bind_of_ok
    (Dump.run_byKeys offers.valid spare offers.leading offers.located offers.present
      machine) _

/-- The key that a dump prints of an entry is read as this key and has the right
length, so the entry goes. -/
theorem run_delete
    (offers : kernel.Offers target place table)
    (spare : kernel.opened < Kernel.descriptorLimit)
    {entry : Bytes × Bytes}
    (held : entry ∈ table.entries)
    (machine : Machine) :
    (run Kernel.host machine (.delete target (Hex.encode entry.1))).run.run kernel =
      (.ok .nothing, (kernel.replace place (table.without entry.1)).skipDescriptor) := by
  have tableValid := offers.valid.tableAt offers.present
  have width : entry.1.length = table.keySize := tableValid.keyWidth entry held
  have nonempty : entry.1 ≠ [] := by
    rw [← List.length_pos_iff, width]
    exact tableValid.keySize_pos
  have found : table.find? entry.1 = some entry.2 :=
    tableValid.distinct.lookup_of_mem held
  have worked := Inspect.run_deleteKey_of_width offers.valid spare offers.leading
    offers.located offers.present (Hex.parse_encode nonempty) width
  rw [Table.delete_of_held offers.unfrozen found] at worked
  exact Task.run_bind_of_ok worked _

/-! ## Deletions in any order -/

/-- Deletions from a map, one for each object of a list, by the key in the
object. Each of them succeeds, takes its object out of what a dump prints, and
changes no other map; after the last of them a dump prints nothing. -/
inductive Empties
    (machine : Machine)
    (target : Target)
    (place : Nat) :
    Kernel → List Json → List Json → Prop
  /-- There is nothing to delete, and nothing is printed. -/
  | empty (kernel : Kernel) : Empties machine target place kernel [] []
  /-- An object is deleted, then the others are. -/
  | delete
      {kernel deleted dumped : Kernel}
      {object : Json}
      {key : String}
      {printed rest order : List Json}
      (keyed : object.textOf? "key" = some key)
      (deletes : (run Kernel.host machine (.delete target key)).run.run kernel =
        (.ok .nothing, deleted))
      (others : ∀ other, other ≠ place →
        deleted.tables[other]? = kernel.tables[other]?)
      (dumps : (run Kernel.host machine (.dump target)).run.run deleted =
        (.ok (.json (.array rest)), dumped))
      (reads : dumped.tables = deleted.tables)
      (leavesOut : LeavesOut object printed rest)
      (later : Empties machine target place dumped rest order) :
      Empties machine target place kernel printed (object :: order)

theorem empties_of_perm
    (offers : kernel.Offers target place table)
    (spare : kernel.opened + 2 * table.entries.length ≤ Kernel.descriptorLimit)
    (machine : Machine)
    {order : List Json}
    (rearranged : order.Perm table.entries.objects) :
    Empties machine target place kernel table.entries.objects order := by
  induction order generalizing kernel table with
  | nil =>
      rw [← rearranged.nil_eq]
      exact .empty kernel
  | cons object order inductionHypothesis =>
      have printed : object ∈ table.entries.objects :=
        rearranged.mem_iff.1 List.mem_cons_self
      obtain ⟨entry, held, rfl⟩ := List.mem_map.1 printed
      have distinct := (offers.valid.tableAt offers.present).distinct
      have leavesOut := Entries.leavesOut_objects_erase distinct held
      have shorter : table.entries.length =
          (table.without entry.1).entries.length + 1 := by
        have lengths := leavesOut.length_eq
        rwa [Entries.objects, Entries.objects, List.length_map, List.length_map] at lengths
      -- Two descriptors are used up, one by the deletion and one by the dump.
      let deleted := (kernel.replace place (table.without entry.1)).skipDescriptor
      have once : deleted.opened = kernel.opened + 1 := rfl
      have twice : deleted.skipDescriptor.opened = kernel.opened + 2 := rfl
      have offersRest : deleted.Offers target place (table.without entry.1) :=
        (offers.without entry.1).skipDescriptor
      exact .delete (textOf?_entryJson entry.1 entry.2)
        (run_delete offers (by omega) held machine)
        (fun other different => List.getElem?_set_ne different.symm)
        (run_dump offersRest (by omega) machine)
        rfl leavesOut
        (inductionHypothesis offersRest.skipDescriptor (by omega)
          (leavesOut.perm_rest rearranged))

/-- A dump of a map that may be changed prints an object for each entry, in the
order of the map. These objects can be deleted by the keys that are printed, in
any order: each deletion takes its own object out of what a dump prints and changes
no other map, until nothing is left. The dumps and deletions use up two descriptors
for each object, and the numbers of the descriptors must not run out before that. -/
theorem dumped_objects_delete
    (reachable : kernel.Reachable)
    (leading : ∀ length, kernel.infoLimit = some length → 24 ≤ length)
    (located : kernel.located target = some place)
    (present : kernel.tables[place]? = some table)
    (unfrozen : table.frozen = false)
    (spare : kernel.opened + 2 * table.entries.length < Kernel.descriptorLimit)
    (machine : Machine) :
    ∃ dumped : Kernel,
      (run Kernel.host machine (.dump target)).run.run kernel =
        (.ok (.json (.array table.entries.objects)), dumped) ∧
      dumped.tables = kernel.tables ∧
      ∀ order : List Json, order.Perm table.entries.objects →
        Empties machine target place dumped table.entries.objects order := by
  have offers : kernel.Offers target place table :=
    ⟨reachable.valid, leading, located, present, unfrozen⟩
  have once : kernel.skipDescriptor.opened = kernel.opened + 1 := rfl
  exact ⟨kernel.skipDescriptor, run_dump offers reachable.opened_lt machine, rfl,
    fun order rearranged =>
      empties_of_perm offers.skipDescriptor (by omega) machine rearranged⟩

theorem dumped_objects_delete_bucketed :
    let kernel := ({} : Kernel).run bucketed
    let target := Target.pin "/sys/fs/bpf/bucketed"
    let printed := [entryJson [3] [3, 3], entryJson [1] [1, 1], entryJson [2] [2, 2]]
    let order := [entryJson [1] [1, 1], entryJson [2] [2, 2], entryJson [3] [3, 3]]
    kernel.Reachable ∧
      ∃ dumped : Kernel,
        (run Kernel.host (.plain "0") (.dump target)).run.run kernel =
          (.ok (.json (.array printed)), dumped) ∧
        Empties (.plain "0") target 0 dumped printed order := by
  intro kernel target printed order
  have reachable : kernel.Reachable := ⟨bucketed, rfl, by decide +kernel⟩
  have leading : ∀ length, kernel.infoLimit = some length → 24 ≤ length := by
    rintro _ ⟨rfl⟩
    decide
  have located : kernel.located target = some 0 := by decide +kernel
  have contents : kernel.tables[0]?.map (fun table => (table.frozen, table.entries)) =
      some (false, [([3], [3, 3]), ([1], [1, 1]), ([2], [2, 2])]) := by
    decide +kernel
  obtain ⟨table, present, fields⟩ := Option.map_eq_some_iff.1 contents
  obtain ⟨unfrozen, entries⟩ := Prod.mk.inj fields
  have spare : kernel.opened + 2 * table.entries.length < Kernel.descriptorLimit := by
    rw [entries]
    decide +kernel
  obtain ⟨dumped, dumps, _, empties⟩ :=
    dumped_objects_delete reachable leading located present unfrozen spare (.plain "0")
  have objects : table.entries.objects = printed := congrArg Entries.objects entries
  rw [objects] at dumps empties
  have rearranged : order.Perm printed := by
    change (order.take 2 ++ order.drop 2).Perm (order.drop 2 ++ order.take 2)
    exact List.perm_append_comm
  exact ⟨reachable, dumped, dumps, empties order rearranged⟩

end Command
end CommandLine
end Offers
end KernelMaps
