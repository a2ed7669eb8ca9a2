import KernelMaps.CommandLine.Run
import KernelMaps.Proofs.Footprints

/-!
# Footprints of commands

Every command gives back the descriptors that it opens, wherever it stops, also
when its calls are made to fail. On maps and pins it leaves no trace but the one
it is for: a key taken out, a map frozen, or a map created and pinned.
-/

namespace KernelMaps

/-! ## What commands are for -/

/-- A key that is given in hexadecimal is taken out of a map. -/
inductive KeyRemoved (text : String) (place : Nat) (before : Contents) : Contents → Prop
  | same : KeyRemoved text place before before
  | removed
      {key value : Bytes}
      {table : Table}
      (parsed : Hex.parse text = .ok key)
      (present : before.tables[place]? = some table)
      (held : table.find? (key.fit table.keySize) = some value) :
      KeyRemoved text place before
        { before with
          tables := before.tables.set place
            { table with entries := table.entries.erase (key.fit table.keySize) } }

/-- A map is made read-only. -/
inductive Frozen (place : Nat) (before : Contents) : Contents → Prop
  | same : Frozen place before before
  | frozen
      {table : Table}
      (present : before.tables[place]? = some table) :
      Frozen place before
        { before with tables := before.tables.set place { table with frozen := true } }

/-- A map is pinned to a path. -/
inductive Pinned (path : String) (place : Nat) (before : Contents) : Contents → Prop
  | same : Pinned path place before before
  | pinned
      (free : before.pins.lookup path = none) :
      Pinned path place before { before with pins := (path, place) :: before.pins }

/-- A map is created and pinned, as far as the calls for it succeed. -/
inductive MapCreated (creation : Inspect.Creation) (kernel : Kernel) : Contents → Prop
  | same : MapCreated creation kernel kernel.contents
  | created
      {contents : Contents}
      (creatable : creation.options.spec.Creatable)
      (pinned : Pinned creation.path kernel.tables.length
        (kernel.withMap creation.options.spec).contents contents) :
      MapCreated creation kernel contents

namespace CommandLine
namespace Command

/-- What a command may make of the maps and pins of a kernel. -/
inductive May (kernel : Kernel) : Command → Contents → Prop
  | nothing
      {command : Command} :
      May kernel command kernel.contents
  | delete
      {target : Target}
      {key : String}
      {place : Nat}
      {contents : Contents}
      (located : kernel.located target = some place)
      (removed : KeyRemoved key place kernel.contents contents) :
      May kernel (.delete target key) contents
  | freeze
      {target : Target}
      {place : Nat}
      {contents : Contents}
      (located : kernel.located target = some place)
      (frozen : Frozen place kernel.contents contents) :
      May kernel (.freeze target) contents
  | create
      {creation : Inspect.Creation}
      {contents : Contents}
      (created : MapCreated creation kernel contents) :
      May kernel (.create creation) contents

end Command
end CommandLine

namespace Testbed

/-! ## The list of maps -/

/-- Each map of the list is opened, its metadata are read, and it is closed. -/
theorem untouched_listFrom (patience : Nat) (start : UInt32) :
    (Inspect.listFrom host patience start).Leads Untouched := by
  induction patience generalizing start with
  | zero => exact Task.leads_fail _
  | succ patience inductionHypothesis =>
      rw [Inspect.listFrom]
      refine ((quiet_nextId start).lift.mono Quiet.untouched).bind ?_
      rintro ⟨status, number⟩
      refine (Task.leads_ofExcept _ _).bind ?_
      intro ended
      split
      · exact Task.leads_pure _
      · refine (Task.leads_check _ status).bind ?_
        intro _ bed sound
        obtain ⟨openedSound, handsOut⟩ := sound.openId number
        rw [Task.run_bind, Task.run_lift]
        simp only
        obtain ⟨result, made, opens⟩ | ⟨panic, stops, opens⟩ :=
          handsOut.opens "bpf_map_get_fd_by_id"
        · rw [made, Task.run_bind_of_ok (Task.run_attempt_ok _ _)]
          refine opens.untouched sound openedSound quiet_taskInfo ?_ ?_ sound
          · rintro error rfl
            exact ((quiet_tell _).lift.mono Quiet.untouched).bind
              (fun _ => inductionHypothesis number) _
          · rintro handle rfl
            exact Task.Leads.goesOn (fun info =>
              (inductionHypothesis number).bind fun _ => Task.leads_pure _) _ _
        · rw [stops, Task.run_bind_of_error (Task.run_attempt_error _ _)]
          exact (opens (.panicked panic)).untouched sound openedSound quiet_taskInfo
            (fun _ _ openedSound => (Quiet.refl _).untouched openedSound) nofun sound

/-! ## Commands that change a map -/

/-- A call that leaves the descriptors as they are restores them, and what it does
to its map is what the kernel does, or nothing. -/
theorem leads_issue
    {change : Nat → Contents → Contents → Prop}
    (same : ∀ place contents, change place contents contents)
    {call : Call}
    {descriptor : Descriptor}
    (keeps : ∀ kernel : Kernel,
      (kernel.answer call).2.descriptors = kernel.descriptors ∧
        (kernel.answer call).2.opened = kernel.opened)
    (changes : ∀ {kernel : Kernel} {place : Nat} {table : Table},
      kernel.resolve descriptor = .ok (place, table) →
        change place kernel.contents (kernel.answer call).2.contents)
    (place : Nat) :
    (host.issue call).Leads (Alters change descriptor place) := by
  intro bed sound
  obtain ⟨after, replies⟩ := sound.issue call
  refine ⟨after, ?_⟩
  generalize ((host.issue call).run bed).2.kernel = next at replies ⊢
  generalize ((host.issue call).run bed).1.outcome = outcome at replies
  cases replies with
  | answered =>
      obtain ⟨descriptors, count⟩ := keeps bed.kernel
      rw [descriptors, count]
      refine ⟨Nat.le_refl _, fun _ => ⟨rfl, ?_⟩⟩
      intro opened
      obtain ⟨table, resolved⟩ := sound.valid.resolve_isSome opened
      exact changes resolved
  | refused => exact ⟨Nat.le_refl _, fun _ => ⟨rfl, fun _ => same place _⟩⟩

theorem leads_delete
    {text : String}
    {key : Bytes}
    (parsed : Hex.parse text = .ok key)
    (descriptor : Descriptor)
    (place : Nat) :
    (host.delete descriptor key).Leads
      (Alters (KeyRemoved text) descriptor place) := by
  intro bed
  refine leads_issue (fun _ _ => .same) (fun _ => Kernel.answer_kept rfl) ?_ place bed
  intro kernel place table resolved
  have present := (Kernel.resolve_eq_ok_iff.1 resolved).2
  rw [Kernel.answer_resolved rfl resolved]
  simp only [Table.respond, Table.attempt]
  cases answered : table.delete (key.fit table.keySize) with
  | error errno =>
      simp only [Except.map, Kernel.replace_self resolved]
      exact .same
  | ok taken =>
      obtain ⟨_, held, next⟩ := Table.delete_accepted answered
      simp only [Except.map, next]
      exact .removed parsed present held

theorem leads_freeze
    (descriptor : Descriptor)
    (place : Nat) :
    (host.freeze descriptor).Leads (Alters Frozen descriptor place) := by
  intro bed
  refine leads_issue (fun _ _ => .same) (fun _ => Kernel.answer_kept rfl) ?_ place bed
  intro kernel place table resolved
  have present := (Kernel.resolve_eq_ok_iff.1 resolved).2
  rw [Kernel.answer_resolved rfl resolved]
  simp only [Table.respond, Table.attempt]
  cases answered : table.freeze with
  | error errno =>
      simp only [Except.map, Kernel.replace_self resolved]
      exact .same
  | ok next =>
      obtain ⟨_, rfl⟩ := Table.freeze_accepted answered
      simp only [Except.map]
      exact .frozen present

theorem leads_pin
    (path : String)
    (descriptor : Descriptor)
    (place : Nat) :
    (host.pin descriptor path).Leads (Alters (Pinned path) descriptor place) := by
  rw [Host.pin]
  split
  · intro bed
    refine leads_issue (fun _ _ => .same) ?_ ?_ place bed
    · intro kernel
      simp only [Kernel.answer, Kernel.pin]
      cases kernel.resolve descriptor with
      | error errno => exact ⟨rfl, rfl⟩
      | ok found => cases kernel.pins.lookup path <;> exact ⟨rfl, rfl⟩
    · intro kernel place table resolved
      simp only [Kernel.answer, Kernel.pin, resolved]
      cases free : kernel.pins.lookup path with
      | some other => exact .same
      | none => exact .pinned free
  · intro bed
    exact (Quiet.refl bed).restores fun _ _ => .same

/-! ## Creation -/

/-- The directory of a path is no matter of the kernel. -/
theorem leads_pinTask
    (machine : Machine)
    (path : String)
    (descriptor : Descriptor)
    (place : Nat) :
    (Inspect.pin host machine descriptor path).Leads
      (Alters (Pinned path) descriptor place) := by
  have pins : Task.Leads (Alters (Pinned path) descriptor place) (do
      let status ← Task.lift (host.pin descriptor path)
      let pinned ← Task.attempt status.toResult
      let _ ← Task.ofExcept (fun errno => .unpinned path (.os errno)) pinned) := by
    have reports : ∀ status : Status, Task.Leads Quiet (do
        let pinned ← Task.attempt status.toResult
        let _ ← Task.ofExcept (fun errno => .unpinned path (.os errno))
          pinned : Task Testbed Unit) :=
      fun status => (Task.leads_ofExcept _ _).bind fun _ =>
        (Task.leads_ofExcept _ _).bind fun _ => Task.leads_pure ()
    exact (leads_pin path descriptor place).lift.sequence reports id
      Restores.before_quiet
  rw [Inspect.pin]
  cases FilePath.parent? path with
  | none => exact pins
  | some parent =>
      simp only
      cases machine.directoryError parent with
      | none => exact pins
      | some error =>
          intro bed
          exact (Quiet.refl bed).restores fun _ _ => .same

/-- A new map comes with a descriptor, or there is none. -/
theorem Sound.create
    {bed : Testbed}
    (sound : bed.Sound)
    (options : CreateOptions) :
    let ended := (host.create options).run bed
    ended.2.Sound ∧
      ((∃ errno, 0 < errno ∧ ended.1 = .ofErrno errno ∧
          ended.2.kernel = bed.kernel) ∨
        options.spec.Creatable ∧ ended.1 = .word bed.kernel.fresh ∧
          ended.2.kernel =
            ((bed.kernel.withMap options.spec).handOut bed.kernel.tables.length).2) := by
  obtain ⟨after, replies⟩ := sound.issue (.create options.spec)
  refine ⟨after, ?_⟩
  have positive : ∀ errno, bed.kernel.create options.spec = .error errno → 0 < errno := by
    intro errno failed
    rw [Kernel.create] at failed
    split at failed
    · cases failed
      decide
    · split at failed
      · cases failed
        decide
      · cases failed
  obtain refused | ⟨descriptor, created, status⟩ := replies.opening rfl positive
  · exact Or.inl refused
  · obtain ⟨creatable, opened⟩ := Kernel.creatable_of_create created
    obtain ⟨rfl, next⟩ := Prod.mk.inj opened
    exact Or.inr ⟨creatable, status, next⟩

/-- A map is created and worked with through the descriptor that came with it,
and the work may pin it. -/
theorem leads_created
    (creation : Inspect.Creation)
    {work : Descriptor → Task Testbed α}
    (works : ∀ descriptor place,
      (work descriptor).Leads (Alters (Pinned creation.path) descriptor place)) :
    Task.Leads (Restores (MapCreated creation)) (do
      let status ← Task.lift (host.create creation.options)
      let handle ← Task.own .uncreated "bpf_map_create" status
      Task.holding host handle work) := by
  intro bed sound
  have ended := sound.create creation.options
  rw [Task.run_bind, Task.run_lift]
  simp only at ended ⊢
  generalize (host.create creation.options).run bed = created at ended ⊢
  obtain ⟨status, opened⟩ := created
  obtain ⟨openedSound, ⟨errno, positive, rfl, kept⟩ | ⟨creatable, rfl, next⟩⟩ := ended
  · rw [Task.run_bind_of_error (Task.run_own_ofErrno _ _ positive _)]
    have quiet : Quiet bed opened := fun _ => ⟨openedSound, kept⟩
    exact quiet.restores (fun _ => .same) sound
  simp only at next
  have counted : opened.kernel.opened = bed.kernel.opened + 1 := by rw [next]; rfl
  have descriptors : opened.kernel.descriptors =
      (bed.kernel.fresh, bed.kernel.tables.length) :: bed.kernel.descriptors := by
    rw [next]
    rfl
  have contents : opened.kernel.contents =
      (bed.kernel.withMap creation.options.spec).contents := by
    rw [next]
    rfl
  obtain made | ⟨full, report, none⟩ :=
    run_own_fresh .uncreated "bpf_map_create" bed.kernel opened
  · rw [Task.run_bind_of_ok made]
    obtain ⟨heldSound, grows, held⟩ := openedSound.holding sound.valid descriptors
      counted (works bed.kernel.fresh bed.kernel.tables.length)
    rw [counted] at grows
    refine ⟨heldSound, Nat.le_of_succ_le grows, ?_⟩
    intro spare
    obtain ⟨restored, changed⟩ := held spare
    rw [contents, descriptors] at changed
    exact ⟨restored, .created creatable (changed List.lookup_cons_self)⟩
  · rw [Task.run_bind_of_error none]
    have more := Nat.le_of_eq counted.symm
    refine ⟨openedSound, Nat.le_of_succ_le more, ?_⟩
    intro spare
    exact absurd (Nat.le_trans more spare) (Nat.not_le_of_lt (Nat.lt_succ_of_le full))

theorem leads_create (machine : Machine) (creation : Inspect.Creation) :
    (Inspect.create host machine creation).Leads (Restores (MapCreated creation)) := by
  have same : ∀ {before after : Testbed}, Quiet before after →
      Restores (MapCreated creation) before after :=
    fun quiet => quiet.restores fun _ => .same
  rw [Inspect.create]
  refine (Task.leads_require _ _).sequence ?_ same Quiet.restores_after
  intro _
  refine (Task.leads_require _ _).sequence ?_ same Quiet.restores_after
  intro _
  refine leads_created creation ?_
  intro descriptor place
  exact (leads_pinTask machine creation.path descriptor place).sequence
    (fun _ => quiet_taskInfo descriptor) id Restores.before_quiet

/-! ## All commands -/

theorem leads_deleteKey (target : Target) (text : String) :
    (Inspect.deleteKey host target text).Leads (Restores fun kernel contents =>
      contents = kernel.contents ∨ ∃ place, kernel.located target = some place ∧
        KeyRemoved text place kernel.contents contents) := by
  refine leads_use (fun _ _ => .same) ?_ target
  intro map place
  have stops : ∀ {before between}, Quiet before between →
      Alters (KeyRemoved text) map.descriptor place before between :=
    fun quiet => quiet.restores fun _ _ => .same
  cases parsed : Hex.parse text with
  | error error => exact fun bed => stops (Quiet.refl bed)
  | ok key =>
      have checked : ∀ status, Task.Leads Quiet (do
          let _ ← Task.check "bpf_map_delete_elem" status : Task Testbed Unit) :=
        fun status => (Task.leads_check _ status).bind fun _ => Task.leads_pure ()
      have deletes := (leads_delete parsed map.descriptor place).lift.sequence checked id
        Restores.before_quiet
      have guards : Task.Leads Quiet (Task.require (key.length = map.info.keySize.toNat)
          (.keyLength key.length map.info.id map.info.keySize) : Task Testbed Unit) :=
        Task.leads_require _ _
      have works := guards.sequence (fun _ => deletes) stops Quiet.restores_after
      exact fun bed => works bed

theorem leads_freezeTarget (target : Target) :
    (Inspect.freeze host target).Leads (Restores fun kernel contents =>
      contents = kernel.contents ∨ ∃ place, kernel.located target = some place ∧
        Frozen place kernel.contents contents) := by
  refine leads_use (fun _ _ => .same) ?_ target
  intro map place
  have checked : ∀ status, Task.Leads Quiet (do
      let _ ← Task.check "bpf_map_freeze" status : Task Testbed Unit) :=
    fun status => (Task.leads_check _ status).bind fun _ => Task.leads_pure ()
  exact (leads_freeze map.descriptor place).lift.sequence checked id
    Restores.before_quiet

/-- What a command leads to, whichever of its calls are refused. -/
theorem leads_command (machine : Machine) (command : CommandLine.Command) :
    (command.run host machine).Leads (Restores command.May) := by
  have nothing : ∀ {before after : Testbed}, Untouched before after →
      Restores command.May before after := by
    intro before after untouched
    refine untouched.mono ?_
    rintro kernel _ rfl
    exact .nothing
  cases command with
  | info target =>
      have shown : (Inspect.showInfo host target).Leads Untouched :=
        untouched_use (fun _ => Task.leads_pure _) target
      exact (shown.mono nothing).result _
  | list =>
      have listed : (Inspect.list host).Leads Untouched :=
        (quiet_patience.mono Quiet.untouched).bind fun patience =>
          untouched_listFrom patience 0
      exact (listed.mono nothing).result _
  | dump target =>
      have dumped : (Dump.byKeys host machine target).Leads Untouched :=
        untouched_use (fun map => (quiet_bufferLength machine map.info).bind fun _ =>
          (Task.leads_ofExcept _ _).bind fun _ =>
            quiet_patience.bind fun _ => quiet_lookupAll _ _ _ _ _) target
      exact (dumped.mono nothing).result _
  | batchDump target chunk =>
      have dumped : (Dump.byBatches host machine target chunk).Leads Untouched :=
        (Task.leads_require _ _).bind fun _ =>
          untouched_use (fun map => (quiet_bufferLength machine map.info).bind fun _ =>
            quiet_patience.bind fun _ => quiet_collectBatches _ _) target
      exact (dumped.mono nothing).result _
  | delete target key =>
      refine ((leads_deleteKey target key).mono fun restores => restores.mono ?_).result _
      rintro kernel contents (rfl | ⟨place, located, removed⟩)
      · exact .nothing
      · exact .delete located removed
  | freeze target =>
      refine ((leads_freezeTarget target).mono fun restores => restores.mono ?_).result _
      rintro kernel contents (rfl | ⟨place, located, frozen⟩)
      · exact .nothing
      · exact .freeze located frozen
  | create creation =>
      refine ((leads_create machine creation).mono fun restores => restores.mono ?_).result _
      intro kernel contents created
      exact .create created
  | watch target interval =>
      have watched : (Inspect.watch host target).Leads Untouched :=
        untouched_use (fun map =>
          (quiet_count map.descriptor map.info.keySize).result _) target
      exact (watched.mono nothing).result _
  | version => exact fun bed => nothing (Quiet.refl bed).untouched

end Testbed

namespace CommandLine
namespace Command

/-- No command leaks a descriptor or takes one that is not its own, however it
ends and whichever of its calls are refused with an error number. Maps and pins
are as they were, but for what the command is there for. Descriptors are numbered
in the order in which they are handed out, so the result is about commands that
end before the numbers run out. -/
theorem run_restores
    {bed ended : Testbed}
    (valid : bed.kernel.Valid)
    (refuses : ∀ fault ∈ bed.faults, fault.Refuses)
    {machine : Machine}
    {command : Command}
    {result : Except Report Output}
    (runs : (command.run Testbed.host machine).run.run bed = (result, ended))
    (spare : ended.kernel.opened ≤ Kernel.descriptorLimit) :
    ended.kernel.descriptors = bed.kernel.descriptors ∧
      command.May bed.kernel ended.kernel.contents := by
  have restored := Testbed.leads_command machine command bed ⟨valid, refuses⟩
  rw [runs] at restored
  exact restored.2.2 spare

/-- A kernel with two open maps, on which maps cannot be pinned any more. -/
def unpinnable : Testbed where
  kernel := ({} : Kernel).run Kernel.sampleMoves
  faults := [{
    kind := .command Abi.Command.objectPin
    skip := 0
    times := 1
    outcome := .error ⟨-1, .os Errno.notPermitted⟩ }]

/-- A map that cannot be pinned stays, without a path and without a descriptor. -/
theorem run_restores_unpinnable :
    let command := Command.create {
      path := "/sys/fs/bpf/second", mapType := 1, keySize := 1, valueSize := 1,
      maxEntries := 1 }
    let runs := (command.run Testbed.host (.plain "0")).run.run unpinnable
    runs.1.isOk = false ∧ runs.2.kernel.opened = unpinnable.kernel.opened + 1 ∧
      runs.2.kernel.tables.length = unpinnable.kernel.tables.length + 1 ∧
      runs.2.kernel.descriptors = unpinnable.kernel.descriptors ∧
      command.May unpinnable.kernel runs.2.kernel.contents := by
  intro command runs
  have refuses : ∀ fault ∈ unpinnable.faults, fault.Refuses := by
    intro fault member
    rw [List.mem_singleton.1 member]
    exact ⟨⟨_, rfl⟩, _, _, rfl, by decide⟩
  have valid : unpinnable.kernel.Valid := Kernel.valid_empty.run Kernel.sampleMoves
  have opened : runs.2.kernel.opened = unpinnable.kernel.opened + 1 := by decide +kernel
  have spare : runs.2.kernel.opened ≤ Kernel.descriptorLimit := by decide +kernel
  have restores := run_restores valid refuses (rfl : runs = (runs.1, runs.2)) spare
  exact ⟨by decide +kernel, opened, by decide +kernel, restores⟩

end Command
end CommandLine
end KernelMaps
