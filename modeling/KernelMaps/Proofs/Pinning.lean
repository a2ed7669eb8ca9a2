import KernelMaps.Inspect.Command
import KernelMaps.Proofs.Creations
import KernelMaps.Proofs.Names
import KernelMaps.Proofs.Refusals

/-!
# Creating and pinning

A command that creates a map pins it before it asks for its metadata. As long as this
last call is not refused, the command does all or nothing to the pinned paths; if it is
refused, the command fails and the map stays pinned.
-/

namespace KernelMaps

/-- A kernel with one more pinned path. -/
def Kernel.withPin (kernel : Kernel) (path : String) (place : Nat) : Kernel :=
  { kernel with pins := (path, place) :: kernel.pins }

namespace Refusals

variable (refusals : Refusals)

/-! ## The calls of a creation -/

/-- A creation is refused and changes nothing, or the new map comes last, under the next
descriptor. -/
theorem run_create_cases (options : CreateOptions) (kernel : Kernel) :
    (∃ errno, 0 < errno ∧
      (refusals.host.create options).run kernel = (.ofErrno errno, kernel)) ∨
    options.spec.Creatable ∧ (refusals.host.create options).run kernel =
      (.word kernel.fresh,
        ((kernel.withMap options.spec).handOut kernel.tables.length).2) := by
  cases refused : refusals.errno? (.create options.spec) with
  | some errno =>
      exact Or.inl ⟨errno, refusals.positive refused,
        run_issueStatus_of_refused refused kernel⟩
  | none =>
      have passed := run_issueStatus_of_passed refused kernel
      rw [Kernel.run_issueStatus, Kernel.answer] at passed
      rw [Host.create, passed]
      cases created : kernel.create options.spec with
      | error errno =>
          have positive : 0 < errno := by
            rw [Kernel.create_error_eq created]
            decide
          refine Or.inl ⟨errno, positive, ?_⟩
          rw [← Answer.status_refuse (.create options.spec) positive]
          rfl
      | ok result =>
          obtain ⟨creatable, rfl⟩ := Kernel.creatable_of_create created
          refine Or.inr ⟨creatable, ?_⟩
          rw [← Kernel.ofOutcome_fresh]
          rfl

section Pin

variable
  {kernel : Kernel}
  {descriptor : Descriptor}
  {place : Nat}
  {table : Table}
  (opened : kernel.resolve descriptor = .ok (place, table))

include opened

/-- A pin is refused and changes nothing, or the path was free and leads to the map. -/
theorem run_pin_cases (path : String) :
    (∃ errno, 0 < errno ∧
      (refusals.host.pin descriptor path).run kernel = (.ofErrno errno, kernel)) ∨
    kernel.located (.pin path) = none ∧ Host.isPath path = true ∧
      (refusals.host.pin descriptor path).run kernel = (.ok, kernel.withPin path place) := by
  by_cases isPath : Host.isPath path = true
  · rw [Host.pin, if_pos isPath, Kernel.located, if_pos isPath]
    cases refused : refusals.errno? (.pin descriptor path) with
    | some errno =>
        exact Or.inl ⟨errno, refusals.positive refused,
          run_issueStatus_of_refused refused kernel⟩
    | none =>
        rw [run_issueStatus_of_passed refused, Kernel.run_issueStatus, Kernel.answer,
          Kernel.pin, opened]
        simp only [bind, Except.bind]
        cases free : kernel.pins.lookup path with
        | some other => exact Or.inl ⟨Errno.alreadyExists, by decide, rfl⟩
        | none => exact Or.inr ⟨rfl, isPath, rfl⟩
  · refine Or.inl ⟨Errno.invalid, by decide, ?_⟩
    rw [Host.pin, if_neg isPath]
    rfl

/-- A task that pins a map to a path ended: it failed and changed nothing, or the path
was free and leads to the map. -/
def PinsOrFails
    (kernel : Kernel)
    (path : String)
    (place : Nat)
    (ended : Except Report Unit × Kernel) : Prop :=
  (∃ report, ended = (.error report, kernel)) ∨
  kernel.located (.pin path) = none ∧ Host.isPath path = true ∧
    ended = (.ok (), kernel.withPin path place)

theorem run_pinTask_cases (machine : Machine) (path : String) :
    PinsOrFails kernel path place
      ((Inspect.pin refusals.host machine descriptor path).run.run kernel) := by
  have pins : PinsOrFails kernel path place ((do
      let status ← Task.lift (refusals.host.pin descriptor path)
      let pinned ← Task.attempt status.toResult
      let _ ← Task.ofExcept (fun errno => .unpinned path (.os errno)) pinned :
        Task Kernel Unit).run.run kernel) := by
    obtain ⟨errno, positive, refused⟩ | ⟨free, isPath, accepted⟩ :=
      refusals.run_pin_cases opened path
    · refine Or.inl ⟨.unpinned path (.os errno), ?_⟩
      rw [Task.run_bind, Task.run_lift, refused]
      simp only [Status.toResult_ofErrno positive]
      rw [Task.run_bind_of_ok (Task.run_attempt_ok _ _)]
      rfl
    · refine Or.inr ⟨free, isPath, ?_⟩
      rw [Task.run_bind, Task.run_lift, accepted]
      rfl
  rw [Inspect.pin]
  cases FilePath.parent? path with
  | none => exact pins
  | some parent =>
      simp only
      cases machine.directoryError parent with
      | none => exact pins
      | some error => exact Or.inl ⟨.directoryUncreated parent error, rfl⟩

/-- The metadata query is refused, or it gives the metadata of the map. -/
theorem run_info_cases :
    (∃ errno, refusals.errno? (.info descriptor (UInt32.ofNat MapRecord.size)) =
        some errno ∧
      (Task.info refusals.host descriptor).run.run kernel =
        (.error (.callFailed "bpf_obj_get_info_by_fd" (.os errno)), kernel)) ∨
    (Task.info refusals.host descriptor).run.run kernel =
      (.ok (table.infoWithin kernel.infoLimit), kernel) := by
  cases refused : refusals.errno? (.info descriptor (UInt32.ofNat MapRecord.size)) with
  | some errno => exact Or.inl ⟨errno, rfl, run_info_of_refused refused kernel⟩
  | none =>
      refine Or.inr ?_
      rw [run_info_of_passed refused, Task.info, Task.run_bind, Task.run_lift,
        Kernel.run_info_resolved opened]
      rfl

end Pin

/-- Whether or not a close call is refused, it keeps the maps and the pinned paths. -/
structure KeepsNames (before after : Kernel) : Prop where
  tables : after.tables = before.tables
  pins : after.pins = before.pins
  infoLimit : after.infoLimit = before.infoLimit
  valid : before.Valid → after.Valid

theorem answer_close_keeps (descriptor : Descriptor) (kernel : Kernel) :
    KeepsNames kernel (refusals.answer (.close descriptor) kernel).2 := by
  cases refused : refusals.errno? (.close descriptor) with
  | some errno =>
      rw [answer_of_refused refused]
      exact ⟨rfl, rfl, rfl, id⟩
  | none =>
      rw [answer_of_passed refused, Kernel.answer_close]
      exact ⟨rfl, rfl, rfl, fun valid => valid.withoutDescriptor descriptor⟩

end Refusals

namespace Inspect

/-! ## The whole command -/

/-- The map that a creation asks for. -/
structure Asked (creation : Creation) (table : Table) : Prop where
  mapType : table.spec.mapType = creation.mapType
  keySize : table.spec.keySize = creation.keySize
  valueSize : table.spec.valueSize = creation.valueSize
  maxEntries : table.spec.maxEntries = creation.maxEntries
  mapFlags : table.spec.mapFlags = creation.mapFlags
  empty : table.entries = []
  writable : table.frozen = false

/-- A new map, made as it was asked for, is pinned to the path, which was free. -/
structure Establishes
    (creation : Creation)
    (table : Table)
    (before after : Kernel) : Prop where
  asked : Asked creation table
  tables : after.tables = before.tables ++ [table]
  /-- No map was pinned to the path. -/
  free : before.located (.pin creation.path) = none
  pins : after.pins = (creation.path, before.tables.length) :: before.pins
  /-- The path and the identifier lead to the new map. -/
  located : after.located (.pin creation.path) = some before.tables.length
  identified : after.opened < Kernel.descriptorLimit →
    after.located (.id table.id) = some before.tables.length
  valid : after.Valid

/-- How a creation can end. -/
inductive CreationEnds
    (refusals : Refusals)
    (creation : Creation)
    (before : Kernel) : Except Report MapInfo → Kernel → Prop
  /-- The map is pinned, and what is told of it is shown for its path and for its
  identifier, as long as descriptors are left. -/
  | pinned
      {table : Table}
      {info : MapInfo}
      {after : Kernel}
      (established : Establishes creation table before after)
      (shown : after.opened < Kernel.descriptorLimit →
        ∀ target ∈ [.pin creation.path, .id table.id],
          ((showInfo Kernel.host target).run.run after).1 = .ok info) :
      CreationEnds refusals creation before (.ok info) after
  /-- Nothing is pinned. -/
  | failed
      {report : Report}
      {after : Kernel}
      (kept : after.pins = before.pins) :
      CreationEnds refusals creation before (.error report) after
  /-- The map is pinned, but the query for its metadata was refused. -/
  | unseen
      {table : Table}
      {errno : Errno}
      {after : Kernel}
      (refused : refusals.errno?
        (.info before.fresh (UInt32.ofNat MapRecord.size)) = some errno)
      (established : Establishes creation table before after) :
      CreationEnds refusals creation before
        (.error (.callFailed "bpf_obj_get_info_by_fd" (.os errno))) after

/-- The new map of a creation. -/
def newTable (creation : Creation) (before : Kernel) : Table where
  id := UInt32.ofNat (Kernel.firstId + before.tables.length)
  spec := creation.options.spec

theorem asked_newTable (creation : Creation) (before : Kernel) :
    Asked creation (newTable creation before) := by
  constructor <;> rfl

/-- The kernel with the new map of a creation, open under the next descriptor. -/
def withNewTable (creation : Creation) (before : Kernel) : Kernel :=
  ((before.withMap creation.options.spec).handOut before.tables.length).2

/-- The same kernel with the new map pinned. -/
def withNewPin (creation : Creation) (before : Kernel) : Kernel :=
  (withNewTable creation before).withPin creation.path before.tables.length

theorem valid_withNewPin
    {creation : Creation}
    {before : Kernel}
    (valid : before.Valid)
    (creatable : creation.options.spec.Creatable) :
    (withNewPin creation before).Valid := by
  have present : before.tables.length < (withNewTable creation before).tables.length := by
    simp only [withNewTable, Kernel.handOut, Kernel.withMap, List.length_append,
      List.length_singleton]
    omega
  exact (valid.create creatable).pin present creation.path

section Ends

variable
  {refusals : Refusals}
  {creation : Creation}
  {before : Kernel}

theorem resolve_fresh_newTable
    {pinned : Kernel}
    (descriptors : pinned.descriptors = (withNewTable creation before).descriptors)
    (tables : pinned.tables = (withNewTable creation before).tables) :
    pinned.resolve before.fresh =
      .ok (before.tables.length, newTable creation before) := by
  rw [Kernel.resolve_eq_ok_iff, descriptors, tables]
  exact ⟨List.lookup_cons_self, List.getElem?_concat_length⟩

theorem establishes_of_keeps
    (valid : before.Valid)
    (creatable : creation.options.spec.Creatable)
    (isPath : Host.isPath creation.path = true)
    (free : before.located (.pin creation.path) = none)
    {after : Kernel}
    (keeps : Refusals.KeepsNames (withNewPin creation before) after) :
    Establishes creation (newTable creation before) before after where
  asked := asked_newTable creation before
  tables := keeps.tables
  free := free
  pins := keeps.pins
  located := by
    rw [Kernel.located, if_pos isPath, keeps.pins]
    exact List.lookup_cons_self
  identified := by
    intro spare
    have present : after.tables[before.tables.length]? =
        some (newTable creation before) := by
      rw [keeps.tables]
      exact List.getElem?_concat_length
    exact (keeps.valid (valid_withNewPin valid creatable)).findIdx?_id spare present
  valid := keeps.valid (valid_withNewPin valid creatable)

/-- Both names of a map that is established show its metadata. -/
theorem Establishes.shown
    {table : Table}
    {after : Kernel}
    (established : Establishes creation table before after)
    (spare : after.opened < Kernel.descriptorLimit)
    {target : Target}
    (named : target ∈ [.pin creation.path, .id table.id]) :
    ((showInfo Kernel.host target).run.run after).1 =
      .ok (table.infoWithin after.infoLimit) := by
  have present : after.tables[before.tables.length]? = some table := by
    rw [established.tables]
    exact List.getElem?_concat_length
  have located : after.located target = some before.tables.length := by
    rcases List.mem_pair.1 named with rfl | rfl
    · exact established.located
    · exact established.identified spare
  exact congrArg Prod.fst
    (Kernel.run_use_of_reads established.valid spare located present rfl)

/-- What becomes of a map that was just created. -/
theorem run_pinned_ends
    (valid : before.Valid)
    (creatable : creation.options.spec.Creatable)
    (machine : Machine) :
    let ended := (Task.holding refusals.host (.own before.fresh) fun descriptor => do
      pin refusals.host machine descriptor creation.path
      Task.info refusals.host descriptor).run.run (withNewTable creation before)
    CreationEnds refusals creation before ended.1 ended.2 := by
  have opened : (withNewTable creation before).resolve before.fresh =
      .ok (before.tables.length, newTable creation before) :=
    resolve_fresh_newTable rfl rfl
  have closes : ∀ working : Kernel, Refusals.KeepsNames working
      (refusals.answer (.close before.fresh) working).2 :=
    refusals.answer_close_keeps before.fresh
  rw [refusals.run_holding]
  obtain ⟨report, refused⟩ | ⟨free, isPath, accepted⟩ :=
    refusals.run_pinTask_cases opened machine creation.path
  · rw [Task.run_bind_of_error refused]
    exact .failed (closes _).pins
  · have pinned : (pin refusals.host machine before.fresh creation.path).run.run
        (withNewTable creation before) = (.ok (), withNewPin creation before) := accepted
    have stillOpened : (withNewPin creation before).resolve before.fresh =
        .ok (before.tables.length, newTable creation before) :=
      resolve_fresh_newTable rfl rfl
    have kept := closes (withNewPin creation before)
    have established := establishes_of_keeps valid creatable isPath free kept
    rw [Task.run_bind_of_ok pinned]
    obtain ⟨errno, refused, unseen⟩ | seen := refusals.run_info_cases stillOpened
    · rw [unseen]
      exact .unseen refused established
    · rw [seen, ← kept.infoLimit]
      exact .pinned established fun spare target named => established.shown spare named

end Ends

/-- A creation that succeeds leaves a new map as it was asked for, pinned to its path,
and what it tells of the map is what is shown for it. A creation that fails leaves the
pinned paths as they were, unless the query for the metadata was refused, which is the
last call: then the map stays pinned. -/
theorem run_create_ends
    {kernel : Kernel}
    (reachable : kernel.Reachable)
    (refusals : Refusals)
    (machine : Machine)
    (creation : Creation) :
    let created := (create refusals.host machine creation).run.run kernel
    CreationEnds refusals creation kernel created.1 created.2 := by
  have valid := reachable.valid
  have nonneg := Kernel.fresh_nonneg reachable.opened_lt
  rw [create]
  cases decide (0 < creation.valueSize) with
  | false => exact .failed rfl
  | true =>
      rw [Task.run_bind_of_ok (Task.run_require_true _ _)]
      cases decide (0 < creation.maxEntries) with
      | false => exact .failed rfl
      | true =>
          rw [Task.run_bind_of_ok (Task.run_require_true _ _), Task.run_bind,
            Task.run_lift]
          obtain ⟨errno, positive, refused⟩ | ⟨creatable, created⟩ :=
            refusals.run_create_cases creation.options kernel
          · rw [refused]
            simp only [Task.run_bind_of_error (Task.run_own_ofErrno _ _ positive _)]
            exact .failed rfl
          · rw [created]
            simp only [Task.run_bind_of_ok (Task.run_own_of_nonneg _ _ nonneg _)]
            exact run_pinned_ends valid creatable machine

/-- A small map. -/
def smallMap : Creation where
  path := "/sys/fs/bpf/small"
  mapType := 1
  keySize := 1
  valueSize := 1
  maxEntries := 1

theorem run_create_ends_smallMap :
    let created :=
      (create Refusals.nothing.host (.plain "0") smallMap).run.run ({} : Kernel)
    ({} : Kernel).Reachable ∧ created.1.isOk = true ∧
      CreationEnds .nothing smallMap {} created.1 created.2 := by
  intro created
  have reachable : ({} : Kernel).Reachable := ⟨[], rfl, by decide⟩
  exact ⟨reachable, by decide +kernel,
    run_create_ends reachable .nothing (.plain "0") smallMap⟩

/-- Every query for metadata is refused. -/
def unseeing : Refusals where
  errno? := fun call =>
    match call with
    | .info .. => some Errno.inputOutput
    | _ => none
  positive := by
    intro call errno refused
    split at refused
    · cases refused
      decide
    · cases refused

/-- A creation that fails at its last call leaves its path pinned, so the next one fails,
too. -/
theorem run_create_stays_pinned_smallMap :
    let failed := (create unseeing.host (.plain "0") smallMap).run.run ({} : Kernel)
    let again := (create Kernel.host (.plain "0") smallMap).run.run failed.2
    failed.1 = .error (.callFailed "bpf_obj_get_info_by_fd" (.os Errno.inputOutput)) ∧
      failed.2.pins = [("/sys/fs/bpf/small", 0)] ∧
      again.1 = .error (.unpinned "/sys/fs/bpf/small" (.os Errno.alreadyExists)) := by
  intro failed again
  exact ⟨by decide +kernel, by decide +kernel, by decide +kernel⟩

end Inspect
end KernelMaps
