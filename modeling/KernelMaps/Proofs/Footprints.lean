import KernelMaps.Proofs.Quiet
import KernelMaps.Proofs.Targets

/-!
# Footprints of work with a map

Work with a map opens a descriptor and gives it back, whatever is done in between
and wherever it stops, also when calls are made to fail. What such work leaves
behind are the changes that are made in between to the map it works on.
-/

namespace KernelMaps

/-- The maps and the pins of a kernel. -/
structure Contents where
  tables : List Table
  pins : List (String × Nat)
  deriving DecidableEq, Repr

/-- The maps and the pins of a kernel. -/
def Kernel.contents (kernel : Kernel) : Contents :=
  ⟨kernel.tables, kernel.pins⟩

namespace Testbed

/-- A sound testbed comes, as long as descriptors are left, to the descriptors
that it had before, and its maps and pins have changed in a certain way. -/
def Restores
    (change : Kernel → Contents → Prop)
    (before after : Testbed) : Prop :=
  before.Sound →
    after.Sound ∧ before.kernel.opened ≤ after.kernel.opened ∧
      (after.kernel.opened ≤ Kernel.descriptorLimit →
        after.kernel.descriptors = before.kernel.descriptors ∧
          change before.kernel after.kernel.contents)

/-- Quiet work restores everything. -/
theorem Quiet.restores
    {change : Kernel → Contents → Prop}
    {before after : Testbed}
    (quiet : Quiet before after)
    (same : ∀ kernel : Kernel, change kernel kernel.contents) :
    Restores change before after := by
  intro sound
  obtain ⟨afterSound, kept⟩ := quiet sound
  rw [kept]
  exact ⟨afterSound, Nat.le_refl _, fun _ => ⟨rfl, same before.kernel⟩⟩

/-- Quiet work before other work makes no difference. -/
theorem Quiet.restores_after
    {change : Kernel → Contents → Prop}
    {before between after : Testbed}
    (quiet : Quiet before between)
    (restores : Restores change between after) :
    Restores change before after := by
  intro sound
  obtain ⟨betweenSound, kept⟩ := quiet sound
  have restored := restores betweenSound
  rwa [kept] at restored

/-- Quiet work after other work makes no difference. -/
theorem Restores.before_quiet
    {change : Kernel → Contents → Prop}
    {before between after : Testbed}
    (restores : Restores change before between)
    (quiet : Quiet between after) :
    Restores change before after := by
  intro sound
  obtain ⟨betweenSound, restored⟩ := restores sound
  obtain ⟨afterSound, kept⟩ := quiet betweenSound
  rw [← kept] at restored
  exact ⟨afterSound, restored⟩

theorem Restores.mono
    {change weaker : Kernel → Contents → Prop}
    {before after : Testbed}
    (restores : Restores change before after)
    (weakens : ∀ {kernel contents}, change kernel contents → weaker kernel contents) :
    Restores weaker before after := by
  intro sound
  obtain ⟨afterSound, grows, restored⟩ := restores sound
  exact ⟨afterSound, grows, fun spare => (restored spare).imp_right weakens⟩

/-- The maps and pins stay as they are. -/
def Untouched : Testbed → Testbed → Prop :=
  Restores fun kernel contents => contents = kernel.contents

instance : IsPreorder Testbed Untouched where
  refl _ := fun sound => ⟨sound, Nat.le_refl _, fun _ => ⟨rfl, rfl⟩⟩
  trans _ _ _ := by
    intro first second sound
    obtain ⟨betweenSound, grows, restored⟩ := first sound
    obtain ⟨afterSound, growsAgain, restoredAgain⟩ := second betweenSound
    refine ⟨afterSound, Nat.le_trans grows growsAgain, ?_⟩
    intro spare
    obtain ⟨descriptors, contents⟩ := restored (Nat.le_trans growsAgain spare)
    obtain ⟨descriptorsAgain, contentsAgain⟩ := restoredAgain spare
    exact ⟨descriptorsAgain.trans descriptors, contentsAgain.trans contents⟩

theorem Quiet.untouched
    {before after : Testbed}
    (quiet : Quiet before after) :
    Untouched before after :=
  quiet.restores fun _ => rfl

/-- Maps and pins change in the way that belongs to the place of a map, as long
as the descriptor is one for this map. -/
def Alters
    (change : Nat → Contents → Contents → Prop)
    (descriptor : Descriptor)
    (place : Nat) : Testbed → Testbed → Prop :=
  Restores fun kernel contents =>
    kernel.descriptors.lookup descriptor = some place →
      change place kernel.contents contents

/-! ## Opening and closing -/

/-- A call that opens a map is refused with an error number, or it hands the next
descriptor out for the map that it found in the kernel. -/
inductive HandsOut (kernel : Kernel) (found : Option Nat) : Status → Kernel → Prop
  | refused
      {errno : Errno}
      (positive : 0 < errno) :
      HandsOut kernel found (.ofErrno errno) kernel
  | handedOut
      {place : Nat}
      (located : found = some place) :
      HandsOut kernel found (.word kernel.fresh) (kernel.handOut place).2

/-- A call is refused, or it comes to what the kernel makes of it. -/
theorem Replies.opening
    {kernel next : Kernel}
    {call : Call}
    {outcome : Outcome}
    (replies : Replies kernel call outcome next)
    {result : Except Errno (Descriptor × Kernel)}
    {left : call.Left}
    (opens : kernel.answer call = Kernel.afterOpen call kernel result left)
    (positive : ∀ errno, result = .error errno → 0 < errno) :
    (∃ errno, 0 < errno ∧ Status.ofOutcome outcome = .ofErrno errno ∧ next = kernel) ∨
      ∃ descriptor, result = .ok (descriptor, next) ∧
        Status.ofOutcome outcome = .word descriptor := by
  cases replies with
  | answered =>
      rw [opens]
      cases result with
      | error errno =>
          have errnoPos := positive errno rfl
          exact Or.inl ⟨errno, errnoPos, Answer.status_refuse call errnoPos, rfl⟩
      | ok opened =>
          refine Or.inr ⟨opened.1, rfl, ?_⟩
          exact congrArg Status.word (Int32.toInt32_toInt64 opened.1)
  | @refused number code errno command errnoPos =>
      exact Or.inl ⟨errno, errnoPos, Status.ofOutcome_error_of_pos errnoPos rfl, rfl⟩

/-- A call that looks a map up hands a descriptor out if there is one. -/
theorem Replies.handsOut
    {kernel next : Kernel}
    {call : Call}
    {outcome : Outcome}
    (replies : Replies kernel call outcome next)
    {found : Option Nat}
    (left : call.Left)
    (opens : kernel.answer call = Kernel.afterOpen call kernel
      (found.elim (.error Errno.noEntry) fun place => .ok (kernel.handOut place)) left) :
    HandsOut kernel found (.ofOutcome outcome) next := by
  cases found with
  | none =>
      have positive : ∀ errno, (.error Errno.noEntry : Except Errno (Descriptor × Kernel)) =
          .error errno → 0 < errno := by
        rintro _ ⟨⟩
        decide
      obtain ⟨errno, errnoPos, status, rfl⟩ | ⟨_, absurdity, _⟩ :=
        replies.opening opens positive
      · rw [status]
        exact .refused errnoPos
      · cases absurdity
  | some place =>
      obtain ⟨errno, errnoPos, status, rfl⟩ | ⟨descriptor, opened, status⟩ :=
        replies.opening opens nofun
      · rw [status]
        exact .refused errnoPos
      · cases opened
        rw [status]
        exact .handedOut rfl

/-- A map is opened by its identifier. -/
theorem Sound.openId
    {bed : Testbed}
    (sound : bed.Sound)
    (number : UInt32) :
    ((host.openId number).run bed).2.Sound ∧
      HandsOut bed.kernel (bed.kernel.located (.id number))
        ((host.openId number).run bed).1 ((host.openId number).run bed).2.kernel := by
  obtain ⟨after, replies⟩ := sound.issue (.openId number)
  refine ⟨after, replies.handsOut () ?_⟩
  rw [Kernel.answer, Kernel.openId, Kernel.located]
  cases bed.kernel.tables.findIdx? fun table => table.id == number <;> rfl

/-- A map is opened by the path that it is pinned to. -/
theorem Sound.openPath
    {bed : Testbed}
    (sound : bed.Sound)
    (path : String) :
    ((host.openPath path).run bed).2.Sound ∧
      HandsOut bed.kernel (bed.kernel.located (.pin path))
        ((host.openPath path).run bed).1 ((host.openPath path).run bed).2.kernel := by
  rw [Host.openPath, Kernel.located]
  by_cases isPath : Host.isPath path
  · rw [if_pos isPath, if_pos isPath]
    obtain ⟨after, replies⟩ := sound.issue (.openPath path)
    refine ⟨after, replies.handsOut () ?_⟩
    rw [Kernel.answer, Kernel.openPath]
    cases bed.kernel.pins.lookup path <;> rfl
  · rw [if_neg isPath, if_neg isPath]
    have invalid : 0 < Errno.invalid := by decide
    exact ⟨sound, .refused invalid⟩

/-- A call that is no command is answered by the kernel. -/
theorem Replies.eq_of_noCommand
    {kernel next : Kernel}
    {call : Call}
    {outcome : Outcome}
    (replies : Replies kernel call outcome next)
    (noCommand : ∀ number, call.kind ≠ .command number) :
    next = (kernel.answer call).2 := by
  cases replies with
  | answered => rfl
  | refused command => exact absurd command (noCommand _)

/-- A close call changes no more than the descriptors. -/
theorem answer_close_kept (kernel : Kernel) (descriptor : Descriptor) :
    (kernel.answer (.close descriptor)).2.opened = kernel.opened ∧
      (kernel.answer (.close descriptor)).2.contents = kernel.contents := by
  rw [Kernel.answer, Kernel.close]
  cases kernel.descriptors.lookup descriptor <;> exact ⟨rfl, rfl⟩

/-- Whatever becomes of the close call, nothing else happens to the kernel. -/
theorem Sound.close
    {bed : Testbed}
    (sound : bed.Sound)
    (descriptor : Descriptor) :
    let closed := (((Handle.own descriptor).close host).run bed).2
    closed.Sound ∧ closed.kernel = (bed.kernel.answer (.close descriptor)).2 := by
  obtain ⟨after, replies⟩ := sound.issue (.close descriptor)
  have closes := replies.eq_of_noCommand nofun
  rw [Handle.close, Handle.own, Action.run_bind]
  cases ((host.issue (.close descriptor)).run bed).1.outcome with
  | ok returned => exact ⟨after, closes⟩
  | error failure => exact ⟨after.note _, closes⟩

/-! ## Working with an open map -/

/-- Work with the descriptor that was handed out last gives it back in the end. -/
theorem Sound.holding
    {kernel : Kernel}
    {bed : Testbed}
    (sound : bed.Sound)
    (valid : kernel.Valid)
    {place : Nat}
    (opened : bed.kernel.descriptors = (kernel.fresh, place) :: kernel.descriptors)
    (counted : bed.kernel.opened = kernel.opened + 1)
    {change : Kernel → Contents → Prop}
    {work : Descriptor → Task Testbed α}
    (works : (work kernel.fresh).Leads (Restores change)) :
    let ended := ((Task.holding host (.own kernel.fresh) work).run.run bed).2
    ended.Sound ∧ bed.kernel.opened ≤ ended.kernel.opened ∧
      (ended.kernel.opened ≤ Kernel.descriptorLimit →
        ended.kernel.descriptors = kernel.descriptors ∧
          change bed.kernel ended.kernel.contents) := by
  rw [Task.run_holding]
  obtain ⟨workedSound, grows, restored⟩ := works bed sound
  obtain ⟨endedSound, closes⟩ := workedSound.close kernel.fresh
  obtain ⟨count, contents⟩ := answer_close_kept
    ((work kernel.fresh).run.run bed).2.kernel kernel.fresh
  refine ⟨endedSound, ?_⟩
  simp only
  rw [closes, count, contents]
  refine ⟨grows, ?_⟩
  intro spare
  obtain ⟨descriptors, changed⟩ := restored spare
  refine ⟨?_, changed⟩
  have left : kernel.opened < Kernel.descriptorLimit := by omega
  rw [valid.answer_close_fresh left (descriptors.trans opened)]

/-- What a client has in its hands after a call that opens a map. -/
inductive Opens (kernel : Kernel) (found : Option Nat) : Except ε Handle → Kernel → Prop
  | refused
      {error : ε} :
      Opens kernel found (.error error) kernel
  | handle
      {place : Nat}
      (located : found = some place) :
      Opens kernel found (.ok (.own kernel.fresh)) (kernel.handOut place).2
  /-- No descriptor was left to hand out. -/
  | exhausted
      {place : Nat}
      {error : ε}
      (full : Kernel.descriptorLimit ≤ kernel.opened) :
      Opens kernel found (.error error) (kernel.handOut place).2

/-- A new descriptor makes a handle, unless there are too many. -/
theorem ofStatus_fresh (call : String) (kernel : Kernel) :
    Handle.ofStatus call (.word kernel.fresh) = .ok (.ok (.own kernel.fresh)) ∨
      Kernel.descriptorLimit ≤ kernel.opened ∧
        ((∃ error, Handle.ofStatus call (.word kernel.fresh) = .ok (.error error)) ∨
          ∃ panic, Handle.ofStatus call (.word kernel.fresh) = .error panic) := by
  by_cases spare : kernel.opened < Kernel.descriptorLimit
  · exact Or.inl (Handle.ofStatus_of_nonneg call (Kernel.fresh_nonneg spare))
  · obtain ⟨descriptor, fresh, made⟩ | none :=
      Handle.ofStatus_cases call (.word kernel.fresh)
    · cases fresh
      exact Or.inl made
    · exact Or.inr ⟨Nat.le_of_not_lt spare, none⟩

/-- A task that owns a new descriptor goes on with its handle, unless there are too many. -/
theorem run_own_fresh
    (explain : HandleError → Report)
    (call : String)
    (kernel : Kernel)
    (state : σ) :
    let ended := (Task.own explain call (.word kernel.fresh) : Task σ Handle).run.run state
    ended = (.ok (.own kernel.fresh), state) ∨
      Kernel.descriptorLimit ≤ kernel.opened ∧ ∃ report, ended = (.error report, state) := by
  rw [Task.own]
  obtain made | ⟨full, ⟨error, none⟩ | ⟨panic, stops⟩⟩ := ofStatus_fresh call kernel
  · rw [made]
    exact Or.inl rfl
  · rw [none]
    exact Or.inr ⟨full, _, rfl⟩
  · rw [stops]
    exact Or.inr ⟨full, _, rfl⟩

theorem HandsOut.opens
    {kernel next : Kernel}
    {found : Option Nat}
    {status : Status}
    (handsOut : HandsOut kernel found status next)
    (call : String) :
    (∃ result, Handle.ofStatus call status = .ok result ∧
        Opens kernel found result next) ∨
      ∃ panic, Handle.ofStatus call status = .error panic ∧
        ∀ report, Opens kernel found (.error report : Except Report Handle) next := by
  cases handsOut with
  | refused positive =>
      exact Or.inl ⟨_, Handle.ofStatus_ofErrno call positive, .refused⟩
  | handedOut located =>
      obtain made | ⟨full, ⟨error, none⟩ | ⟨panic, stops⟩⟩ := ofStatus_fresh call kernel
      · exact Or.inl ⟨_, made, .handle located⟩
      · exact Or.inl ⟨_, none, .exhausted full⟩
      · exact Or.inr ⟨panic, stops, fun _ => .exhausted full⟩

/-- A handle that was opened is held during some work, and then the command goes
on; without a handle it goes on at once. -/
theorem Opens.restores
    {bed opened after : Testbed}
    (sound : bed.Sound)
    (openedSound : opened.Sound)
    {found : Option Nat}
    {result : Except ε Handle}
    (opens : Opens bed.kernel found result opened.kernel)
    {change : Nat → Contents → Contents → Prop}
    (work : Descriptor → Task Testbed α)
    (works : ∀ place,
      (work bed.kernel.fresh).Leads (Alters change bed.kernel.fresh place))
    (fails : ∀ error, result = .error error → Untouched opened after)
    (holds : ∀ handle, result = .ok handle →
      Untouched ((Task.holding host handle work).run.run opened).2 after) :
    after.Sound ∧ bed.kernel.opened ≤ after.kernel.opened ∧
      (after.kernel.opened ≤ Kernel.descriptorLimit →
        after.kernel.descriptors = bed.kernel.descriptors ∧
          (after.kernel.contents = bed.kernel.contents ∨
            ∃ place, found = some place ∧
              change place bed.kernel.contents after.kernel.contents)) := by
  generalize known : opened.kernel = next at opens
  cases opens with
  | @refused error =>
      obtain ⟨afterSound, grows, restored⟩ := fails error rfl openedSound
      rw [known] at grows restored
      exact ⟨afterSound, grows, fun spare => (restored spare).imp_right Or.inl⟩
  | @exhausted place error full =>
      obtain ⟨afterSound, grows, _⟩ := fails error rfl openedSound
      have counted : opened.kernel.opened = bed.kernel.opened + 1 := by rw [known]; rfl
      refine ⟨afterSound, by omega, ?_⟩
      intro spare
      omega
  | @handle place located =>
      have counted : opened.kernel.opened = bed.kernel.opened + 1 := by rw [known]; rfl
      have descriptors : opened.kernel.descriptors =
          (bed.kernel.fresh, place) :: bed.kernel.descriptors := by rw [known]; rfl
      obtain ⟨heldSound, heldGrows, held⟩ :=
        openedSound.holding sound.valid descriptors counted (works place)
      obtain ⟨afterSound, grows, restored⟩ := holds _ rfl heldSound
      refine ⟨afterSound, by omega, ?_⟩
      intro spare
      obtain ⟨afterDescriptors, afterContents⟩ := restored spare
      obtain ⟨heldDescriptors, changed⟩ := held (Nat.le_trans grows spare)
      refine ⟨afterDescriptors.trans heldDescriptors, Or.inr ⟨place, located, ?_⟩⟩
      rw [afterContents]
      have contents : opened.kernel.contents = bed.kernel.contents := by rw [known]; rfl
      rw [contents] at changed
      apply changed
      rw [descriptors]
      exact List.lookup_cons_self

/-- A report about a missing handle changes nothing about what was opened. -/
theorem Opens.run_ofExcept
    {kernel next : Kernel}
    {found : Option Nat}
    {result : Except ε Handle}
    (opens : Opens kernel found result next)
    (explain : ε → Report)
    (state : σ) :
    ((Task.ofExcept explain result : Task σ Handle).run.run state).2 = state ∧
      Opens kernel found
        ((Task.ofExcept explain result : Task σ Handle).run.run state).1 next := by
  cases opens with
  | refused => exact ⟨rfl, .refused⟩
  | handle located => exact ⟨rfl, .handle located⟩
  | exhausted full => exact ⟨rfl, .exhausted full⟩

/-- A task that asks for a handle has one, or a report why there is none. -/
theorem HandsOut.run_own
    {kernel next : Kernel}
    {found : Option Nat}
    {status : Status}
    (handsOut : HandsOut kernel found status next)
    (explain : HandleError → Report)
    (call : String)
    (state : σ) :
    let ended := (Task.own explain call status : Task σ Handle).run.run state
    ended.2 = state ∧ Opens kernel found ended.1 next := by
  obtain ⟨result, made, opens⟩ | ⟨panic, stops, opens⟩ := handsOut.opens call
  · rw [Task.own, made, Task.run_bind_of_ok (Task.run_attempt_ok _ _)]
    exact opens.run_ofExcept explain state
  · rw [Task.own, stops, Task.run_bind_of_error (Task.run_attempt_error _ _)]
    exact ⟨rfl, opens _⟩

/-- A target is opened by one call. -/
theorem Sound.openHandle
    {bed : Testbed}
    (sound : bed.Sound)
    (target : Target) :
    let ended := (target.openHandle host).run.run bed
    ended.2.Sound ∧ Opens bed.kernel (bed.kernel.located target) ended.1
      ended.2.kernel := by
  cases target with
  | pin path =>
      obtain ⟨after, handsOut⟩ := sound.openPath path
      obtain ⟨kept, ended⟩ := handsOut.run_own (.pinUnopened path) "bpf_obj_get"
        ((host.openPath path).run bed).2
      rw [Target.openHandle, Task.run_bind, Task.run_lift]
      simp only [kept]
      exact ⟨after, ended⟩
  | id number =>
      obtain ⟨after, handsOut⟩ := sound.openId number
      obtain ⟨kept, ended⟩ := handsOut.run_own (.idUnopened number)
        "bpf_map_get_fd_by_id" ((host.openId number).run bed).2
      rw [Target.openHandle, Task.run_bind, Task.run_lift]
      simp only [kept]
      exact ⟨after, ended⟩

/-- The footprint of work with a target: that of the work, on the map that the
target names. -/
theorem leads_use
    {change : Nat → Contents → Contents → Prop}
    (same : ∀ place contents, change place contents contents)
    {work : OpenMap → Task Testbed α}
    (works : ∀ map place, (work map).Leads (Alters change map.descriptor place))
    (target : Target) :
    (target.use host work).Leads (Restores fun kernel contents =>
      contents = kernel.contents ∨ ∃ place, kernel.located target = some place ∧
        change place kernel.contents contents) := by
  intro bed sound
  let whole := fun descriptor => do
    let info ← Task.info host descriptor
    Task.lift (host.tell (.opened info.id descriptor info.mapType))
    work ⟨descriptor, info⟩
  have wholeWorks : ∀ place, (whole bed.kernel.fresh).Leads
      (Alters change bed.kernel.fresh place) := by
    intro place
    have stops : ∀ {before between}, Quiet before between →
        Alters change bed.kernel.fresh place before between :=
      fun quiet => quiet.restores fun kernel _ => same place kernel.contents
    refine (quiet_taskInfo _).sequence ?_ stops Quiet.restores_after
    intro info
    refine (quiet_tell _).lift.sequence ?_ stops Quiet.restores_after
    intro _
    exact works _ place
  obtain ⟨openedSound, opens⟩ := sound.openHandle target
  rw [Target.use, Task.run_bind]
  refine opens.restores sound openedSound whole wholeWorks ?_ ?_
  · intro error failed
    rw [failed]
    exact Std.Refl.refl _
  · intro handle made
    rw [made]
    exact Std.Refl.refl _

/-- No change at all, at whatever place. -/
def Unchanged (_ : Nat) (before after : Contents) : Prop :=
  after = before

/-- Quiet work changes nothing, whatever map it works on. -/
theorem Quiet.restores_unchanged
    {before after : Testbed}
    (quiet : Quiet before after)
    (descriptor : Descriptor)
    (place : Nat) :
    Alters Unchanged descriptor place before after :=
  quiet.restores fun _ _ => rfl

/-- A handle that is held during quiet work leaves no trace. -/
theorem Opens.untouched
    {bed opened after : Testbed}
    (sound : bed.Sound)
    (openedSound : opened.Sound)
    {found : Option Nat}
    {result : Except ε Handle}
    (opens : Opens bed.kernel found result opened.kernel)
    {work : Descriptor → Task Testbed α}
    (quiet : ∀ descriptor, (work descriptor).Leads Quiet)
    (fails : ∀ error, result = .error error → Untouched opened after)
    (holds : ∀ handle, result = .ok handle →
      Untouched ((Task.holding host handle work).run.run opened).2 after) :
    Untouched bed after := by
  intro _
  obtain ⟨afterSound, grows, restored⟩ := opens.restores sound openedSound work
    (fun place => (quiet bed.kernel.fresh).mono fun quiet =>
      quiet.restores_unchanged bed.kernel.fresh place) fails holds
  refine ⟨afterSound, grows, ?_⟩
  intro spare
  obtain ⟨descriptors, same | ⟨_, _, same⟩⟩ := restored spare
  · exact ⟨descriptors, same⟩
  · exact ⟨descriptors, same⟩

/-- Quiet work with a target leaves no trace. -/
theorem untouched_use
    {work : OpenMap → Task Testbed α}
    (quiet : ∀ map, (work map).Leads Quiet)
    (target : Target) :
    (target.use host work).Leads Untouched := by
  have unchanged : ∀ place contents, Unchanged place contents contents :=
    fun _ _ => rfl
  have leads := leads_use unchanged (fun map place => (quiet map).mono
    fun quiet => quiet.restores_unchanged map.descriptor place) target
  refine leads.mono fun restores => restores.mono ?_
  rintro kernel contents (same | ⟨_, _, same⟩)
  · exact same
  · exact same

end Testbed
end KernelMaps
