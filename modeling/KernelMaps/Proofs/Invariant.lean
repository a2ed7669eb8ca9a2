import KernelMaps.Proofs.Steps

/-!
# The invariant of a kernel

Every step keeps a kernel valid, so every state that a run reaches is valid.
As long as descriptors are left to hand out, the identifiers and descriptors
are the numbers that count them, and no map ever changes what was fixed when
it was created.
-/

namespace KernelMaps

/-- A map is created empty, with the sizes that were asked for. -/
theorem MapSpec.Creatable.valid
    {spec : MapSpec}
    (creatable : spec.Creatable)
    (id : UInt32) :
    Table.Valid { id, spec } where
  isHash := creatable.isHash
  keySize_pos :=
    UInt32.lt_iff_toNat_lt.1 (UInt32.pos_iff_ne_zero.2 creatable.keySize_ne)
  valueSize_pos :=
    UInt32.lt_iff_toNat_lt.1 (UInt32.pos_iff_ne_zero.2 creatable.valueSize_ne)
  maxEntries_pos :=
    UInt32.lt_iff_toNat_lt.1 (UInt32.pos_iff_ne_zero.2 creatable.maxEntries_ne)
  distinct := List.nodup_nil
  keyWidth := by simp
  valueWidth := by simp
  bounded := Nat.zero_le _

namespace Kernel

/-! ## Every step keeps a kernel valid -/

theorem Valid.replace
    {kernel : Kernel}
    (valid : kernel.Valid)
    {place : Nat}
    {table next : Table}
    (present : kernel.tables[place]? = some table)
    (nextValid : next.Valid)
    (sameId : next.id = table.id) :
    (kernel.replace place next).Valid where
  tables := by
    intro other member
    rcases List.mem_or_eq_of_mem_set member with old | rfl
    · exact valid.tables other old
    · exact nextValid
  ids := by
    intro other found lookedUp
    rw [Kernel.replace, List.getElem?_set] at lookedUp
    split at lookedUp
    · rename_i samePlace
      split at lookedUp
      · cases lookedUp
        rw [sameId, ← samePlace]
        exact valid.ids present
      · cases lookedUp
    · exact valid.ids lookedUp
  opened_lt := by
    simpa [Kernel.replace] using valid.opened_lt
  numbered := valid.numbered
  pinned_lt := by
    simpa [Kernel.replace] using valid.pinned_lt
  tables_le := by
    simpa [Kernel.replace] using valid.tables_le

theorem Valid.handOut
    {kernel : Kernel}
    (valid : kernel.Valid)
    {place : Nat}
    (present : place < kernel.tables.length) :
    (kernel.handOut place).2.Valid where
  tables := valid.tables
  ids := valid.ids
  opened_lt := by
    intro pair member
    rcases List.mem_cons.1 member with rfl | old
    · exact present
    · exact valid.opened_lt pair old
  numbered := by
    intro pair member
    rcases List.mem_cons.1 member with rfl | old
    · exact ⟨kernel.opened, Nat.lt_succ_self _, rfl⟩
    · obtain ⟨number, bound, equal⟩ := valid.numbered pair old
      exact ⟨number, Nat.lt_succ_of_lt bound, equal⟩
  pinned_lt := valid.pinned_lt
  tables_le := Nat.le_succ_of_le valid.tables_le

/-- The new map comes last, and its first descriptor pays for it. -/
theorem Valid.create
    {kernel : Kernel}
    (valid : kernel.Valid)
    {spec : MapSpec}
    (creatable : spec.Creatable) :
    ((kernel.withMap spec).handOut kernel.tables.length).2.Valid where
  tables := by
    intro table member
    rcases List.mem_append.1 member with old | new
    · exact valid.tables table old
    · rw [List.mem_singleton.1 new]
      exact creatable.valid _
  ids := by
    intro place table found
    have appended : (kernel.withMap spec).tables[place]? = some table := found
    rw [withMap, List.getElem?_append] at appended
    split at appended
    · exact valid.ids appended
    · obtain ⟨bound, equal⟩ := List.getElem?_eq_some_iff.1 appended
      have last : place = kernel.tables.length := by
        rw [List.length_singleton] at bound
        omega
      subst last
      rw [← equal]
      simp
  opened_lt := by
    intro pair member
    have longer : (kernel.withMap spec).tables.length =
        kernel.tables.length + 1 := by simp [withMap]
    rcases List.mem_cons.1 member with rfl | old
    · exact Nat.lt_of_lt_of_eq (Nat.lt_succ_self _) longer.symm
    · exact Nat.lt_of_lt_of_eq (Nat.lt_succ_of_lt (valid.opened_lt pair old))
        longer.symm
  numbered := by
    intro pair member
    rcases List.mem_cons.1 member with rfl | old
    · exact ⟨kernel.opened, Nat.lt_succ_self _, rfl⟩
    · obtain ⟨number, bound, equal⟩ := valid.numbered pair old
      exact ⟨number, Nat.lt_succ_of_lt bound, equal⟩
  pinned_lt := by
    intro pair member
    have bound := valid.pinned_lt pair member
    simp only [Kernel.handOut, withMap, List.length_append, List.length_singleton]
    omega
  tables_le := by
    have bound := valid.tables_le
    simp only [Kernel.handOut, withMap, List.length_append, List.length_singleton]
    omega

theorem Valid.withoutDescriptor
    {kernel : Kernel}
    (valid : kernel.Valid)
    (descriptor : Descriptor) :
    (kernel.withoutDescriptor descriptor).Valid where
  tables := valid.tables
  ids := valid.ids
  opened_lt := fun pair member => valid.opened_lt pair (List.mem_filter.1 member).1
  numbered := fun pair member => valid.numbered pair (List.mem_filter.1 member).1
  pinned_lt := valid.pinned_lt
  tables_le := valid.tables_le

theorem Valid.pin
    {kernel : Kernel}
    (valid : kernel.Valid)
    {place : Nat}
    (present : place < kernel.tables.length)
    (path : String) :
    Valid { kernel with pins := (path, place) :: kernel.pins } where
  tables := valid.tables
  ids := valid.ids
  opened_lt := valid.opened_lt
  numbered := valid.numbered
  pinned_lt := by
    intro pair member
    rcases List.mem_cons.1 member with rfl | old
    · exact present
    · exact valid.pinned_lt pair old
  tables_le := valid.tables_le

theorem Naming.valid
    {kernel next : Kernel}
    (naming : kernel.Naming next)
    (valid : kernel.Valid) :
    next.Valid := by
  cases naming with
  | stay => exact valid
  | create creatable => exact valid.create creatable
  | handOut present => exact valid.handOut present
  | close descriptor => exact valid.withoutDescriptor descriptor
  | pin present _ => exact valid.pin present _

theorem Step.valid
    {kernel next : Kernel}
    (step : kernel.Step next)
    (valid : kernel.Valid) :
    next.Valid := by
  cases step with
  | naming naming => exact naming.valid valid
  | @edit place table edited present edits =>
      have nextValid := edits.valid (valid.tableAt present)
      exact valid.replace present nextValid edits.fixed.2
  | limitInfo limit =>
      exact ⟨valid.tables, valid.ids, valid.opened_lt, valid.numbered,
        valid.pinned_lt, valid.tables_le⟩
  | sizeBuckets size =>
      exact ⟨valid.tables, valid.ids, valid.opened_lt, valid.numbered,
        valid.pinned_lt, valid.tables_le⟩

/-- The empty kernel is valid. -/
theorem valid_empty : Valid {} where
  tables := by simp
  ids := by simp
  opened_lt := by simp
  numbered := by simp
  pinned_lt := by simp
  tables_le := Nat.le_refl 0

/-- Every run keeps a kernel valid. -/
theorem Valid.run
    {kernel : Kernel}
    (valid : kernel.Valid)
    (moves : List Move) :
    (kernel.run moves).Valid := by
  induction moves generalizing kernel with
  | nil => exact valid
  | cons move moves inductionHypothesis =>
      exact inductionHypothesis ((after_step valid move).valid valid)

/-! ## What is fixed at creation -/

/-- Naming keeps every table as it is. -/
theorem Naming.tables_kept
    {kernel next : Kernel}
    (naming : kernel.Naming next)
    {place : Nat}
    {table : Table}
    (present : kernel.tables[place]? = some table) :
    next.tables[place]? = some table := by
  cases naming with
  | create creatable =>
      obtain ⟨bound, _⟩ := List.getElem?_eq_some_iff.1 present
      exact (List.getElem?_append_left bound).trans present
  | stay | handOut | close | pin => exact present

theorem Step.fixed
    {kernel next : Kernel}
    (step : kernel.Step next)
    {place : Nat}
    {table : Table}
    (present : kernel.tables[place]? = some table) :
    ∃ later, next.tables[place]? = some later ∧
      later.spec = table.spec ∧ later.id = table.id := by
  cases step with
  | naming naming => exact ⟨table, naming.tables_kept present, rfl, rfl⟩
  | @edit other edited changed found edits =>
      by_cases same : other = place
      · subst same
        obtain ⟨bound, _⟩ := List.getElem?_eq_some_iff.1 present
        cases Option.some.inj (present.symm.trans found)
        exact ⟨changed, by simp [Kernel.replace, bound], edits.fixed⟩
      · exact ⟨table, by simpa [Kernel.replace, List.getElem?_set, same] using present,
          rfl, rfl⟩
  | limitInfo | sizeBuckets => exact ⟨table, present, rfl, rfl⟩

/-- A map stays where it was created, with what was fixed at its creation. -/
theorem Valid.run_fixed
    {kernel : Kernel}
    (valid : kernel.Valid)
    (moves : List Move)
    {place : Nat}
    {table : Table}
    (present : kernel.tables[place]? = some table) :
    ∃ later, (kernel.run moves).tables[place]? = some later ∧
      later.spec = table.spec ∧ later.id = table.id := by
  induction moves generalizing kernel table with
  | nil => exact ⟨table, present, rfl, rfl⟩
  | cons move moves inductionHypothesis =>
      have step := after_step valid move
      obtain ⟨next, nextPresent, sameSpec, sameId⟩ := step.fixed present
      obtain ⟨later, laterPresent, laterSpec, laterId⟩ :=
        inductionHypothesis (step.valid valid) nextPresent
      exact ⟨later, laterPresent, laterSpec.trans sameSpec, laterId.trans sameId⟩

/-! ## Numbers -/

/-- How many descriptors there are, from 101 up to the greatest signed number of
32 bits. -/
def descriptorLimit : Nat :=
  2147483648 - 101

/-- A kernel to which a run leads before the numbers of the descriptors run out: the next
one is still a signed number of 32 bits. Where they have run out, a call that should open
a descriptor stops the kernel. -/
def Reachable (kernel : Kernel) : Prop :=
  ∃ moves, ({} : Kernel).run moves = kernel ∧ kernel.opened < descriptorLimit

theorem Reachable.valid
    {kernel : Kernel}
    (reachable : kernel.Reachable) :
    kernel.Valid := by
  obtain ⟨moves, rfl, _⟩ := reachable
  exact valid_empty.run moves

theorem Reachable.opened_lt
    {kernel : Kernel}
    (reachable : kernel.Reachable) :
    kernel.opened < descriptorLimit := by
  obtain ⟨_, _, spare⟩ := reachable
  exact spare

theorem Valid.id_toNat
    {kernel : Kernel}
    (valid : kernel.Valid)
    (spare : kernel.opened < descriptorLimit)
    {place : Nat}
    {table : Table}
    (present : kernel.tables[place]? = some table) :
    table.id.toNat = firstId + place := by
  obtain ⟨bound, _⟩ := List.getElem?_eq_some_iff.1 present
  have mapsBound := valid.tables_le
  unfold descriptorLimit at spare
  rw [valid.ids present]
  apply UInt32.toNat_ofNat_of_lt
  simp only [firstId, UInt32.size]
  omega

/-- The number of a descriptor, as long as numbers are left. -/
theorem toInt_descriptor
    {number : Nat}
    (bound : number < descriptorLimit) :
    (Int32.ofNat (firstDescriptor + number)).toInt = firstDescriptor + number := by
  unfold descriptorLimit at bound
  rw [Int32.toInt_ofNat_of_lt]
  · push_cast
    rfl
  · simp only [firstDescriptor]
    omega

theorem Valid.descriptor_range
    {kernel : Kernel}
    (valid : kernel.Valid)
    (spare : kernel.opened < descriptorLimit)
    {pair : Descriptor × Nat}
    (member : pair ∈ kernel.descriptors) :
    101 ≤ pair.1.toInt ∧ pair.1.toInt ≤ 100 + kernel.opened := by
  obtain ⟨number, bound, equal⟩ := valid.numbered pair member
  rw [equal, toInt_descriptor (Nat.lt_trans bound spare), firstDescriptor]
  omega

theorem Valid.resolve_isSome
    {kernel : Kernel}
    (valid : kernel.Valid)
    {descriptor : Descriptor}
    {place : Nat}
    (opened : kernel.descriptors.lookup descriptor = some place) :
    ∃ table, kernel.resolve descriptor = .ok (place, table) := by
  have bound := valid.opened_lt _ (mem_of_lookup opened)
  exact ⟨kernel.tables[place], resolve_eq_ok_iff.2
    ⟨opened, List.getElem?_eq_getElem bound⟩⟩

/-! ## The invariant -/

/-- What is true of a kernel on every run on which the numbers of the descriptors do not
run out. -/
structure Consistent (kernel : Kernel) : Prop where
  /-- The maps are hash maps of positive sizes; their keys are distinct, keys
  and values have their widths, and there are not more entries than allowed. -/
  valid : ∀ table ∈ kernel.tables, table.Valid
  /-- Identifiers count the maps. -/
  id_eq : ∀ {place : Nat} {table : Table},
    kernel.tables[place]? = some table → table.id.toNat = 1000 + place
  ids_nodup : (kernel.tables.map Table.id).Nodup
  /-- Nothing that was fixed at the creation of a map changes later. -/
  fixed : ∀ (later : List Move) {place : Nat} {table : Table},
    kernel.tables[place]? = some table →
      ∃ next, (kernel.run later).tables[place]? = some next ∧
        next.spec = table.spec ∧ next.id = table.id
  /-- Every open descriptor leads to a map. -/
  opened : ∀ {descriptor : Descriptor} {place : Nat},
    kernel.descriptors.lookup descriptor = some place →
      ∃ table, kernel.resolve descriptor = .ok (place, table)
  opened_lt : ∀ pair ∈ kernel.descriptors, pair.2 < kernel.tables.length
  /-- Descriptors count how often one was handed out. -/
  range : ∀ pair ∈ kernel.descriptors,
    101 ≤ pair.1.toInt ∧ pair.1.toInt ≤ 100 + kernel.opened
  pinned_lt : ∀ pair ∈ kernel.pins, pair.2 < kernel.tables.length
  /-- No batch reaches past the entries, whatever token was given: it copies the entries
  of a range, and leaves the others if it takes these out. -/
  batch_le : ∀ table ∈ kernel.tables, ∀ (bucketSize : Option UInt32) (query : BatchQuery),
    table.ReadsRange query (table.lookupBatch bucketSize query)

/-- Every state that is reached before the numbers of the descriptors run out is
consistent. -/
theorem run_consistent
    (moves : List Move)
    (spare : (({} : Kernel).run moves).opened < descriptorLimit) :
    (({} : Kernel).run moves).Consistent where
  valid := (valid_empty.run moves).tables
  id_eq := (valid_empty.run moves).id_toNat spare
  ids_nodup := by
    have valid := valid_empty.run moves
    rw [List.Nodup, List.pairwise_map, List.pairwise_iff_getElem]
    intro first second firstBound secondBound ordered equal
    have firstId := valid.id_toNat spare (List.getElem?_eq_getElem firstBound)
    have secondId := valid.id_toNat spare (List.getElem?_eq_getElem secondBound)
    rw [equal, secondId] at firstId
    omega
  fixed := fun later _ _ present => (valid_empty.run moves).run_fixed later present
  opened := (valid_empty.run moves).resolve_isSome
  opened_lt := (valid_empty.run moves).opened_lt
  range := fun _ member => (valid_empty.run moves).descriptor_range spare member
  pinned_lt := (valid_empty.run moves).pinned_lt
  batch_le := fun table _ bucketSize query => table.lookupBatch_readsRange bucketSize query

/-- Two maps, of which the first is filled, pinned and emptied by a batch whose
token points past the end. -/
def sampleMoves : List Move :=
  [.call (.create { mapType := 1, keySize := 1, valueSize := 2, maxEntries := 2 }),
    .call (.update 101 [7] [1, 2] 0),
    .call (.create { mapType := 1, keySize := 4, valueSize := 4, maxEntries := 1 }),
    .call (.pin 101 "/sys/fs/bpf/first"),
    .call (.duplicate 102),
    .call (.close 102),
    .sizeBuckets (some 1),
    .call (.lookupBatch
      { remove := true, descriptor := 101, token := some [255, 0, 0, 0], count := 4 })]

theorem run_consistent_sample :
    (({} : Kernel).run sampleMoves).opened < descriptorLimit ∧
      (({} : Kernel).run sampleMoves).Consistent :=
  ⟨by decide +kernel, run_consistent sampleMoves (by decide +kernel)⟩

end Kernel
end KernelMaps
