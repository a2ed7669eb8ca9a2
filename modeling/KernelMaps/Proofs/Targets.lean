import KernelMaps.Inspect.Target
import KernelMaps.Proofs.Invariant
import KernelMaps.Proofs.Metadata
import KernelMaps.Proofs.Tasks

/-!
# Runs on targets

A command on a target opens a map under the descriptor that comes next, works
with it, and gives the descriptor back. Work that changes nothing leaves the
kernel as it was, but for the count of the descriptors that were handed out.
-/

namespace KernelMaps

/-- Why a target that names no map is refused. -/
def Target.absence : Target → Report
  | .pin path =>
      .pinUnopened path (.refused "bpf_obj_get"
        (.os (if Host.isPath path then Errno.noEntry else Errno.invalid)))
  | .id number =>
      .idUnopened number (.refused "bpf_map_get_fd_by_id" (.os Errno.noEntry))

namespace Handle

theorem ofStatus_of_nonneg
    (call : String)
    {descriptor : Descriptor}
    (nonneg : 0 ≤ descriptor) :
    ofStatus call (.word descriptor) = .ok (.ok (own descriptor)) := by
  rw [ofStatus, Status.toResult_of_nonneg nonneg]
  rfl

theorem ofStatus_ofErrno
    (call : String)
    {errno : Errno}
    (positive : 0 < errno) :
    ofStatus call (.ofErrno errno) = .ok (.error (.refused call (.os errno))) := by
  rw [ofStatus, Status.toResult_ofErrno positive]
  rfl

/-- A status makes a handle for the descriptor that it carries, or none. -/
theorem ofStatus_cases (call : String) (status : Status) :
    (∃ descriptor, status = .word descriptor ∧
        ofStatus call status = .ok (.ok (own descriptor))) ∨
      (∃ error, ofStatus call status = .ok (.error error)) ∨
      ∃ panic, ofStatus call status = .error panic := by
  cases status with
  | overflowed => exact Or.inr (Or.inr ⟨_, rfl⟩)
  | word value =>
      rw [ofStatus, Status.toResult]
      cases failed : (Status.word value).errno? with
      | error panic => exact Or.inr (Or.inr ⟨panic, rfl⟩)
      | ok errno =>
          cases errno with
          | some errno => exact Or.inr (Or.inl ⟨_, rfl⟩)
          | none =>
              refine Or.inl ⟨value, rfl, ?_⟩
              change Except.ok (Except.ok (own value.toUInt32.toInt32)) = _
              rw [Int32.toInt32_toUInt32]

end Handle

namespace Task

/-- A status that carries a descriptor makes a task go on with a handle for it. -/
theorem run_own_of_nonneg
    (explain : HandleError → Report)
    (call : String)
    {descriptor : Descriptor}
    (nonneg : 0 ≤ descriptor)
    (state : σ) :
    (own explain call (.word descriptor) : Task σ Handle).run.run state =
      (.ok (.own descriptor), state) := by
  rw [own, Handle.ofStatus_of_nonneg call nonneg, run_bind_of_ok (run_attempt_ok _ state),
    run_ofExcept_ok]

/-- A call that was refused a descriptor ends the task with the explanation. -/
theorem run_own_ofErrno
    (explain : HandleError → Report)
    (call : String)
    {errno : Errno}
    (positive : 0 < errno)
    (state : σ) :
    (own explain call (.ofErrno errno) : Task σ Handle).run.run state =
      (.error (explain (.refused call (.os errno))), state) := by
  rw [own, Handle.ofStatus_ofErrno call positive, run_bind_of_ok (run_attempt_ok _ state),
    run_ofExcept_error]

/-- A call that was refused ends the task with the number of the refusal. -/
theorem run_check_ofErrno
    (call : String)
    {errno : Errno}
    (positive : 0 < errno)
    (state : σ) :
    (check call (.ofErrno errno) : Task σ UInt32).run.run state =
      (.error (.callFailed call (.os errno)), state) := by
  rw [check, Status.toResult_ofErrno positive, run_bind_of_ok (run_attempt_ok _ state),
    run_ofExcept_error]

/-- Work with a handle is done under its descriptor, and then it is closed. -/
theorem run_holding
    (host : Host σ)
    (descriptor : Descriptor)
    (work : Descriptor → Task σ α)
    (state : σ) :
    (holding host (.own descriptor) work).run.run state =
      let ended := (work descriptor).run.run state
      (ended.1, (((Handle.own descriptor).close host).run ended.2).2) := by
  have worked : (do
        let descriptor ← Task.descriptor (.own descriptor)
        work descriptor : Task σ α).run.run state =
      (work descriptor).run.run state := rfl
  rw [holding, run_ensuring, worked, StateT.run_bind]
  rfl

end Task

namespace Kernel

/-- The place of the map that a target names. -/
def located (kernel : Kernel) : Target → Option Nat
  | .pin path => if Host.isPath path then kernel.pins.lookup path else none
  | .id number => kernel.tables.findIdx? fun table => table.id == number

/-- The descriptor that is handed out next. -/
def fresh (kernel : Kernel) : Descriptor :=
  Int32.ofNat (firstDescriptor + kernel.opened)

/-- A kernel after its next descriptor was used up. -/
def skipDescriptor (kernel : Kernel) : Kernel :=
  { kernel with opened := kernel.opened + 1 }

theorem Valid.located_lt
    {kernel : Kernel}
    (valid : kernel.Valid)
    {target : Target}
    {place : Nat}
    (located : kernel.located target = some place) :
    place < kernel.tables.length := by
  cases target with
  | pin path =>
      rw [Kernel.located] at located
      split at located
      · exact valid.pinned_lt _ (mem_of_lookup located)
      · cases located
  | id number =>
      obtain ⟨bound, _⟩ := List.findIdx?_eq_some_iff_getElem.1 located
      exact bound

theorem Valid.skipDescriptor
    {kernel : Kernel}
    (valid : kernel.Valid) :
    kernel.skipDescriptor.Valid where
  tables := valid.tables
  ids := valid.ids
  opened_lt := valid.opened_lt
  numbered := by
    intro pair member
    obtain ⟨number, bound, equal⟩ := valid.numbered pair member
    exact ⟨number, Nat.lt_succ_of_lt bound, equal⟩
  pinned_lt := valid.pinned_lt
  tables_le := Nat.le_succ_of_le valid.tables_le

/-- A target names the same map after a map was changed. -/
theorem located_replace
    {kernel : Kernel}
    {place : Nat}
    {table next : Table}
    (present : kernel.tables[place]? = some table)
    (sameId : next.id = table.id)
    (target : Target) :
    (kernel.replace place next).located target = kernel.located target := by
  cases target with
  | pin path => rfl
  | id number =>
      have ids : (kernel.tables.set place next).map Table.id =
          kernel.tables.map Table.id := by
        obtain ⟨bound, rfl⟩ := List.getElem?_eq_some_iff.1 present
        rw [List.map_set, sameId, ← List.getElem_map Table.id, List.set_getElem_self]
        rwa [List.length_map]
      have byId : ∀ tables : List Table,
          (tables.findIdx? fun table => table.id == number) =
            (tables.map Table.id).findIdx? (· == number) := by
        intro tables
        rw [List.findIdx?_map]
        rfl
      simp only [located, replace, byId, ids]

theorem fresh_nonneg
    {kernel : Kernel}
    (spare : kernel.opened < descriptorLimit) :
    0 ≤ kernel.fresh := by
  rw [Int32.le_iff_toInt_le, fresh, toInt_descriptor spare, Int32.toInt_zero]
  omega

/-- The next descriptor is not open. -/
theorem Valid.ne_fresh
    {kernel : Kernel}
    (valid : kernel.Valid)
    (spare : kernel.opened < descriptorLimit)
    {pair : Descriptor × Nat}
    (member : pair ∈ kernel.descriptors) :
    pair.1 ≠ kernel.fresh := by
  intro equal
  have range := valid.descriptor_range spare member
  rw [equal, fresh, toInt_descriptor spare, firstDescriptor] at range
  omega

/-- Whatever was done with the descriptor that was handed out last, closing it
takes it out again. -/
theorem Valid.answer_close_fresh
    {kernel working : Kernel}
    (valid : kernel.Valid)
    (spare : kernel.opened < descriptorLimit)
    {place : Nat}
    (opened : working.descriptors = (kernel.fresh, place) :: kernel.descriptors) :
    (working.answer (.close kernel.fresh)).2 =
      { working with descriptors := kernel.descriptors } := by
  have others : kernel.descriptors.filter (fun pair => pair.1 != kernel.fresh) =
      kernel.descriptors := by
    rw [List.filter_eq_self]
    intro pair member
    exact bne_iff_ne.2 (valid.ne_fresh spare member)
  rw [answer, close, opened]
  simp [afterChange, others]

theorem answer_close_handOut
    {kernel : Kernel}
    (valid : kernel.Valid)
    (spare : kernel.opened < descriptorLimit)
    (place : Nat) :
    ((kernel.handOut place).2.answer (.close kernel.fresh)).2 =
      kernel.skipDescriptor :=
  valid.answer_close_fresh spare rfl

/-- The descriptor that was handed out last leads to its map. -/
theorem resolve_handOut
    {kernel : Kernel}
    {place : Nat}
    {table : Table}
    (present : kernel.tables[place]? = some table) :
    (kernel.handOut place).2.resolve kernel.fresh = .ok (place, table) :=
  resolve_eq_ok_iff.2 ⟨List.lookup_cons_self, present⟩

/-! ## Opening -/

/-- The status of a call that hands a descriptor out is the descriptor. -/
theorem ofOutcome_fresh (kernel : Kernel) :
    Status.ofOutcome (.ok kernel.fresh.toInt64) = .word kernel.fresh := by
  rw [Status.ofOutcome, Int32.toInt32_toInt64]

/-- A path that a map is pinned to opens this map under the next descriptor. -/
theorem run_openPath_of_pinned
    {kernel : Kernel}
    {path : String}
    {place : Nat}
    (isPath : Host.isPath path = true)
    (pinned : kernel.pins.lookup path = some place) :
    (Kernel.host.openPath path).run kernel =
      (.word kernel.fresh, (kernel.handOut place).2) := by
  rw [Host.openPath, if_pos isPath, run_issueStatus, answer, openPath, pinned,
    ← ofOutcome_fresh]
  rfl

/-- An identifier opens the map that is found for it under the next descriptor. -/
theorem run_openId_of_found
    {kernel : Kernel}
    {number : UInt32}
    {place : Nat}
    (found : (kernel.tables.findIdx? fun table => table.id == number) = some place) :
    (Kernel.host.openId number).run kernel =
      (.word kernel.fresh, (kernel.handOut place).2) := by
  rw [Host.openId, run_issueStatus, answer, openId, found, ← ofOutcome_fresh]
  rfl

/-- A target that names a map is opened under the next descriptor. -/
theorem run_openHandle_of_located
    {kernel : Kernel}
    (spare : kernel.opened < descriptorLimit)
    {target : Target}
    {place : Nat}
    (located : kernel.located target = some place) :
    (target.openHandle Kernel.host).run.run kernel =
      (.ok (.own kernel.fresh), (kernel.handOut place).2) := by
  cases target with
  | pin path =>
      rw [Kernel.located] at located
      split at located
      · rename_i isPath
        rw [Target.openHandle, Task.run_bind, Task.run_lift,
          run_openPath_of_pinned isPath located]
        exact Task.run_own_of_nonneg _ _ (fresh_nonneg spare) _
      · cases located
  | id number =>
      rw [Kernel.located] at located
      rw [Target.openHandle, Task.run_bind, Task.run_lift, run_openId_of_found located]
      exact Task.run_own_of_nonneg _ _ (fresh_nonneg spare) _

/-- A target that names no map is refused, and the kernel stays as it is. -/
theorem run_openHandle_of_absent
    {kernel : Kernel}
    {target : Target}
    (absent : kernel.located target = none) :
    (target.openHandle Kernel.host).run.run kernel =
      (.error target.absence, kernel) := by
  have noEntry : 0 < Errno.noEntry := by decide
  have invalid : 0 < Errno.invalid := by decide
  cases target with
  | pin path =>
      rw [Kernel.located] at absent
      rw [Target.openHandle, Task.run_bind, Task.run_lift, Target.absence]
      by_cases isPath : Host.isPath path
      · rw [if_pos isPath] at absent
        have refused : (Kernel.host.openPath path).run kernel =
            (.ofErrno Errno.noEntry, kernel) := by
          rw [Host.openPath, if_pos isPath, run_issueStatus, answer, openPath, absent]
          rw [← Answer.status_refuse (.openPath path) noEntry]
          rfl
        rw [refused, if_pos isPath]
        exact Task.run_own_ofErrno _ _ noEntry _
      · have refused : (Kernel.host.openPath path).run kernel =
            (.ofErrno Errno.invalid, kernel) := by
          rw [Host.openPath, if_neg isPath]
          rfl
        rw [refused, if_neg isPath]
        exact Task.run_own_ofErrno _ _ invalid _
  | id number =>
      rw [Kernel.located] at absent
      have refused : (Kernel.host.openId number).run kernel =
          (.ofErrno Errno.noEntry, kernel) := by
        rw [Host.openId, run_issueStatus, answer, openId, absent]
        rw [← Answer.status_refuse (.openId number) noEntry]
        rfl
      rw [Target.openHandle, Task.run_bind, Task.run_lift, refused, Target.absence]
      exact Task.run_own_ofErrno _ _ noEntry _

/-! ## Working with a map -/

theorem run_closeHandle (kernel : Kernel) (descriptor : Descriptor) :
    ((Handle.own descriptor).close Kernel.host).run kernel =
      (.spent, (kernel.answer (.close descriptor)).2) := by
  rw [Handle.close, Handle.own, StateT.run_bind, run_issue]
  simp only [bind]
  cases (kernel.answer (.close descriptor)).1.outcome <;> rfl

/-- Work with a handle is done under its descriptor, which is closed after. -/
theorem run_holding
    (kernel : Kernel)
    (descriptor : Descriptor)
    (work : Descriptor → Task Kernel α) :
    (Task.holding Kernel.host (.own descriptor) work).run.run kernel =
      let ended := (work descriptor).run.run kernel
      (ended.1, (ended.2.answer (.close descriptor)).2) := by
  rw [Task.run_holding]
  simp only [run_closeHandle]

/-- A target that names a map: the work is done under the next descriptor, with
the metadata that the kernel shows, and the descriptor is closed after it. -/
theorem run_use_of_located
    {kernel : Kernel}
    (spare : kernel.opened < descriptorLimit)
    {target : Target}
    {place : Nat}
    {table : Table}
    (located : kernel.located target = some place)
    (present : kernel.tables[place]? = some table)
    (work : OpenMap → Task Kernel α) :
    (target.use Kernel.host work).run.run kernel =
      let ended := (work ⟨kernel.fresh, table.infoWithin kernel.infoLimit⟩).run.run
        (kernel.handOut place).2
      (ended.1, (ended.2.answer (.close kernel.fresh)).2) := by
  have opened := run_openHandle_of_located spare located
  have resolved := resolve_handOut present
  have described : (Task.info Kernel.host kernel.fresh).run.run (kernel.handOut place).2 =
      (.ok (table.infoWithin kernel.infoLimit), (kernel.handOut place).2) := by
    rw [Task.info, Task.run_bind, Task.run_lift, run_info_resolved resolved]
    rfl
  rw [Target.use, Task.run_bind_of_ok opened, run_holding, Task.run_bind_of_ok described]
  rfl

/-- Work that leaves the kernel alone does so in a command, too. -/
theorem run_use_of_reads
    {kernel : Kernel}
    (valid : kernel.Valid)
    (spare : kernel.opened < descriptorLimit)
    {target : Target}
    {place : Nat}
    {table : Table}
    (located : kernel.located target = some place)
    (present : kernel.tables[place]? = some table)
    {work : OpenMap → Task Kernel α}
    {result : Except Report α}
    (reads : (work ⟨kernel.fresh, table.infoWithin kernel.infoLimit⟩).run.run
      (kernel.handOut place).2 = (result, (kernel.handOut place).2)) :
    (target.use Kernel.host work).run.run kernel = (result, kernel.skipDescriptor) := by
  rw [run_use_of_located spare located present, reads]
  exact congrArg (Prod.mk result) (answer_close_handOut valid spare place)

theorem run_use_of_absent
    {kernel : Kernel}
    {target : Target}
    (absent : kernel.located target = none)
    (work : OpenMap → Task Kernel α) :
    (target.use Kernel.host work).run.run kernel = (.error target.absence, kernel) := by
  rw [Target.use]
  exact Task.run_bind_of_error (run_openHandle_of_absent absent) _

end Kernel
end KernelMaps
