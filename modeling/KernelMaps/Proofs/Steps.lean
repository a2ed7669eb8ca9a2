import KernelMaps.Proofs.Edits

/-!
# Steps of a kernel

A run puts calls to a kernel and changes its limits in between. This module
says once what a single call can do to the state.
-/

namespace KernelMaps

/-- What can happen to a kernel. -/
inductive Move
  /-- A call is put. -/
  | call (call : Call)
  /-- The greatest number of metadata bytes is set. -/
  | limitInfo (limit : Option UInt32)
  /-- The number of entries in a bucket is set. -/
  | sizeBuckets (size : Option UInt32)
  deriving DecidableEq, Repr

/-- What is asked of a map that can be created. -/
structure MapSpec.Creatable (spec : MapSpec) : Prop where
  isHash : spec.mapType = Abi.MapType.hash
  keySize_ne : spec.keySize ≠ 0
  valueSize_ne : spec.valueSize ≠ 0
  maxEntries_ne : spec.maxEntries ≠ 0

namespace Kernel

/-- The kernel after a move. -/
def after (kernel : Kernel) : Move → Kernel
  | .call call => (kernel.answer call).2
  | .limitInfo limit => { kernel with infoLimit := limit }
  | .sizeBuckets size => { kernel with bucketSize := size }

/-- The kernel after a series of moves. -/
def run (kernel : Kernel) (moves : List Move) : Kernel :=
  moves.foldl after kernel

@[simp] theorem run_cons (kernel : Kernel) (move : Move) (moves : List Move) :
    kernel.run (move :: moves) = (kernel.after move).run moves := rfl

theorem run_append (kernel : Kernel) (earlier later : List Move) :
    kernel.run (earlier ++ later) = (kernel.run earlier).run later :=
  List.foldl_append

/-- The kernel with one more map, for which no descriptor is open yet. -/
def withMap (kernel : Kernel) (spec : MapSpec) : Kernel :=
  { kernel with
    tables := kernel.tables ++
      [{ id := UInt32.ofNat (firstId + kernel.tables.length), spec }] }

/-- The kernel without a descriptor. -/
def withoutDescriptor (kernel : Kernel) (descriptor : Descriptor) : Kernel :=
  { kernel with
    descriptors := kernel.descriptors.filter fun pair => pair.1 != descriptor }

/-- What a call does that works on no entries: it keeps every table, and may
create one, hand out or take back a descriptor, or pin a path. -/
inductive Naming (kernel : Kernel) : Kernel → Prop
  | stay : Naming kernel kernel
  /-- A map is created and a descriptor for it is handed out. -/
  | create
      {spec : MapSpec}
      (creatable : spec.Creatable) :
      Naming kernel ((kernel.withMap spec).handOut kernel.tables.length).2
  /-- A descriptor for a map is handed out. -/
  | handOut
      {place : Nat}
      (present : place < kernel.tables.length) :
      Naming kernel (kernel.handOut place).2
  | close (descriptor : Descriptor) :
      Naming kernel (kernel.withoutDescriptor descriptor)
  | pin
      {path : String}
      {place : Nat}
      (present : place < kernel.tables.length)
      (free : kernel.pins.lookup path = none) :
      Naming kernel { kernel with pins := (path, place) :: kernel.pins }

/-- What one move makes of a kernel. -/
inductive Step (kernel : Kernel) : Kernel → Prop
  | naming
      {next : Kernel}
      (naming : kernel.Naming next) :
      Step kernel next
  /-- One table is edited. -/
  | edit
      {place : Nat}
      {table next : Table}
      (present : kernel.tables[place]? = some table)
      (edits : table.Edits next) :
      Step kernel (kernel.replace place next)
  | limitInfo (limit : Option UInt32) :
      Step kernel { kernel with infoLimit := limit }
  | sizeBuckets (size : Option UInt32) :
      Step kernel { kernel with bucketSize := size }

/-- What holds of a kernel after every run. -/
structure Valid (kernel : Kernel) : Prop where
  tables : ∀ table ∈ kernel.tables, table.Valid
  /-- Identifiers are handed out one after the other. -/
  ids : ∀ {place : Nat} {table : Table}, kernel.tables[place]? = some table →
    table.id = UInt32.ofNat (firstId + place)
  /-- Every descriptor refers to a map. -/
  opened_lt : ∀ pair ∈ kernel.descriptors, pair.2 < kernel.tables.length
  /-- Descriptors are handed out one after the other. -/
  numbered : ∀ pair ∈ kernel.descriptors,
    ∃ number < kernel.opened, pair.1 = Int32.ofNat (firstDescriptor + number)
  /-- Every pinned path refers to a map. -/
  pinned_lt : ∀ pair ∈ kernel.pins, pair.2 < kernel.tables.length
  /-- Every map had a descriptor at least once. -/
  tables_le : kernel.tables.length ≤ kernel.opened

theorem Valid.tableAt
    {kernel : Kernel}
    (valid : kernel.Valid)
    {place : Nat}
    {table : Table}
    (present : kernel.tables[place]? = some table) :
    table.Valid :=
  valid.tables table (List.mem_of_getElem? present)

/-! ## One call -/

/-- What is looked up in a list of pairs is in the list. -/
theorem mem_of_lookup
    [BEq κ] [LawfulBEq κ]
    {pairs : List (κ × ν)}
    {key : κ}
    {value : ν}
    (found : pairs.lookup key = some value) :
    (key, value) ∈ pairs := by
  obtain ⟨before, later, rfl, _⟩ := List.lookup_eq_some_iff.1 found
  exact List.mem_append_right before List.mem_cons_self

theorem creatable_of_create
    {kernel : Kernel}
    {spec : MapSpec}
    {result : Descriptor × Kernel}
    (created : kernel.create spec = .ok result) :
    spec.Creatable ∧
      result = (kernel.withMap spec).handOut kernel.tables.length := by
  unfold create at created
  split at created
  · cases created
  · rename_i isHash
    split at created
    · cases created
    · rename_i sizes
      obtain ⟨keySize, valueSize, maxEntries⟩ : spec.keySize ≠ 0 ∧
          spec.valueSize ≠ 0 ∧ spec.maxEntries ≠ 0 := by
        simpa only [not_or] using sizes
      exact ⟨⟨not_not.1 isHash, keySize, valueSize, maxEntries⟩,
        (Except.ok.inj created).symm⟩

/-- A call that works on no entries keeps the tables. -/
theorem answer_naming
    {kernel : Kernel}
    (valid : kernel.Valid)
    {call : Call}
    (noSubject : call.subject? = none) :
    kernel.Naming (kernel.answer call).2 := by
  cases call <;> simp only [Call.subject?, reduceCtorEq] at noSubject
  case close descriptor =>
      simp only [answer, afterChange, close]
      cases kernel.descriptors.lookup descriptor with
      | none => exact .stay
      | some place => exact .close descriptor
  case duplicate descriptor =>
      simp only [answer, afterOpen, duplicate]
      cases found : kernel.descriptors.lookup descriptor with
      | none => exact .stay
      | some place => exact .handOut (valid.opened_lt _ (mem_of_lookup found))
  case create spec =>
      simp only [answer, afterOpen]
      cases created : kernel.create spec with
      | error errno => exact .stay
      | ok result =>
          obtain ⟨creatable, rfl⟩ := creatable_of_create created
          exact .create creatable
  case pin descriptor path =>
      simp only [answer, afterChange, pin]
      cases resolved : kernel.resolve descriptor with
      | error errno => exact .stay
      | ok found =>
          cases taken : kernel.pins.lookup path with
          | some place =>
              simp only [bind, Except.bind]
              exact .stay
          | none =>
              simp only [bind, Except.bind]
              exact .pin (List.getElem?_eq_some_iff.1
                (resolve_eq_ok_iff.1 resolved).2).1 taken
  case openPath path =>
      simp only [answer, afterOpen, openPath]
      cases found : kernel.pins.lookup path with
      | none => exact .stay
      | some place => exact .handOut (valid.pinned_lt _ (mem_of_lookup found))
  case nextId start =>
      simp only [answer, afterRead]
      cases kernel.nextId start <;> exact .stay
  case openId id =>
      simp only [answer, afterOpen, openId]
      cases found : kernel.tables.findIdx? fun table => table.id == id with
      | none => exact .stay
      | some place =>
          exact .handOut (List.findIdx?_eq_some_iff_findIdx_eq.1 found).1
  case unknown command => exact .stay

/-- Whatever a call makes of a kernel is one step. -/
theorem answer_step
    {kernel : Kernel}
    (valid : kernel.Valid)
    (call : Call) :
    kernel.Step (kernel.answer call).2 := by
  cases subject : call.subject? with
  | none => exact .naming (answer_naming valid subject)
  | some descriptor =>
      cases resolved : kernel.resolve descriptor with
      | error errno =>
          rw [answer_unresolved subject resolved]
          exact .naming .stay
      | ok found =>
          rw [answer_resolved subject resolved]
          exact .edit (resolve_eq_ok_iff.1 resolved).2
            (found.2.respond_edits kernel.limits call)

/-- Whatever a move makes of a kernel is one step. -/
theorem after_step
    {kernel : Kernel}
    (valid : kernel.Valid)
    (move : Move) :
    kernel.Step (kernel.after move) := by
  cases move with
  | call call => exact answer_step valid call
  | limitInfo limit => exact .limitInfo limit
  | sizeBuckets size => exact .sizeBuckets size

end Kernel
end KernelMaps
