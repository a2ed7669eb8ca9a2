import KernelMaps.Inspect.Command
import KernelMaps.Proofs.Faults
import KernelMaps.Proofs.OpenBatches
import KernelMaps.Proofs.Tasks
import Mathlib.Order.Defs.Unbundled

/-!
# Quiet work

What a piece of a command can do to a testbed is a relation between the states
before and after it. Relations of parts give the relation of the whole, whatever
the parts return and wherever they stop. Work that only reads is quiet: it leaves
the kernel as it is, whether or not its calls are made to fail.
-/

namespace KernelMaps

/-! ## Where actions and tasks lead -/

/-- Wherever an action starts, it ends in a state that is related to the start. -/
def Action.Leads (relation : σ → σ → Prop) (action : Action σ α) : Prop :=
  ∀ state, relation state (action.run state).2

/-- Wherever a task starts and however it ends, it ends in a state that is
related to the start. -/
def Task.Leads (relation : σ → σ → Prop) (task : Task σ α) : Prop :=
  ∀ state, relation state (task.run.run state).2

namespace Action

variable {relation : σ → σ → Prop}

theorem leads_pure [Std.Refl relation] (value : α) :
    Leads relation (pure value : Action σ α) :=
  fun state => Std.Refl.refl state

theorem Leads.bind
    [IsTrans σ relation]
    {action : Action σ α}
    {next : α → Action σ β}
    (first : action.Leads relation)
    (second : ∀ value, (next value).Leads relation) :
    Leads relation (action >>= next) := by
  intro state
  rw [run_bind]
  exact IsTrans.trans _ _ _ (first state) (second _ _)

theorem Leads.lift
    {action : Action σ α}
    (leads : action.Leads relation) :
    (Task.lift action).Leads relation := by
  intro state
  rw [Task.run_lift]
  exact leads state

end Action

namespace Task

variable {relation : σ → σ → Prop}

theorem leads_pure [Std.Refl relation] (value : α) :
    Leads relation (pure value : Task σ α) :=
  fun state => Std.Refl.refl state

theorem leads_fail [Std.Refl relation] (report : Report) :
    Leads relation (fail report : Task σ α) :=
  fun state => Std.Refl.refl state

theorem leads_ofExcept
    [Std.Refl relation]
    (explain : ε → Report)
    (value : Except ε α) :
    Leads relation (ofExcept explain value : Task σ α) := by
  cases value with
  | ok value => exact leads_pure value
  | error error => exact leads_fail (explain error)

theorem leads_check [Std.Refl relation] (call : String) (status : Status) :
    Leads relation (check call status : Task σ UInt32) := by
  rw [check, attempt]
  cases status.toResult with
  | error panic => exact leads_fail (.panicked panic)
  | ok result => exact leads_ofExcept _ result

theorem leads_require [Std.Refl relation] (condition : Bool) (report : Report) :
    Leads relation (require condition report : Task σ Unit) := by
  cases condition with
  | true => exact leads_pure ()
  | false => exact leads_fail report

/-- The first task may stop the whole, or the second goes on from where it ended. -/
theorem Leads.sequence
    {first second : σ → σ → Prop}
    {task : Task σ α}
    {next : α → Task σ β}
    (begins : task.Leads first)
    (goesOn : ∀ value, (next value).Leads second)
    (stops : ∀ {before between}, first before between → relation before between)
    (joins : ∀ {before between after}, first before between →
      second between after → relation before after) :
    Leads relation (task >>= next) := by
  intro state
  rw [run_bind]
  cases (task.run.run state).1 with
  | ok value => exact joins (begins state) (goesOn value _)
  | error report => exact stops (begins state)

theorem Leads.bind
    [IsTrans σ relation]
    {task : Task σ α}
    {next : α → Task σ β}
    (first : task.Leads relation)
    (second : ∀ value, (next value).Leads relation) :
    Leads relation (task >>= next) :=
  first.sequence second id (IsTrans.trans _ _ _)

/-- What is made of the result is no matter of the state. -/
theorem Leads.result
    {task : Task σ α}
    (leads : task.Leads relation)
    (make : α → β) :
    Leads relation (task >>= fun value => pure (make value)) := by
  have same : ∀ value, Leads Eq (pure (make value) : Task σ β) := fun _ _ => rfl
  refine leads.sequence same id ?_
  rintro before between _ first rfl
  exact first

/-- What comes after a task starts where the task ended. -/
theorem Leads.goesOn
    [Std.Refl relation]
    {next : α → Task σ β}
    (second : ∀ value, (next value).Leads relation)
    (task : Task σ α)
    (state : σ) :
    relation (task.run.run state).2 ((task >>= next).run.run state).2 := by
  rw [run_bind]
  cases (task.run.run state).1 with
  | ok value => exact second value _
  | error report => exact Std.Refl.refl _

theorem Leads.mono
    {weaker : σ → σ → Prop}
    {task : Task σ α}
    (leads : task.Leads relation)
    (weakens : ∀ {before after}, relation before after → weaker before after) :
    task.Leads weaker :=
  fun state => weakens (leads state)

end Task

/-! ## Calls that read -/

/-- A call that asks for something and changes nothing. -/
def Call.reads : Call → Bool
  | .lookup .. | .nextKey .. | .nextId _ | .info .. => true
  | .lookupBatch query => !query.remove
  | _ => false

namespace Kernel

theorem afterRead_eq
    (call : Call)
    (kernel : Kernel)
    (result : Except Errno call.Left) :
    (afterRead call kernel result).2 = kernel := by
  cases result <;> rfl

/-- A call that reads leaves the kernel as it is. -/
theorem answer_of_reads
    (kernel : Kernel)
    {call : Call}
    (reads : call.reads = true) :
    (kernel.answer call).2 = kernel := by
  cases call with
  | lookup | nextKey | nextId | info => exact afterRead_eq _ kernel _
  | lookupBatch query =>
      have keeps : query.remove = false := by simpa [Call.reads] using reads
      cases resolved : kernel.resolve query.descriptor with
      | error errno => rw [answer_unresolved rfl resolved]
      | ok found =>
          have kept : (found.2.lookupBatch kernel.bucketSize query).2.2 = found.2 := by
            by_cases serves : found.2.Serves kernel.bucketSize query
            · rw [Table.lookupBatch_of_serves serves]
              exact found.2.afterBatch_of_reads keeps
            · obtain ⟨error, count, refused⟩ := Table.lookupBatch_of_not_serves serves
              rw [refused]
          rw [answer_resolved rfl resolved]
          show kernel.replace found.1 (found.2.lookupBatch kernel.bucketSize query).2.2 =
            kernel
          rw [kept]
          exact replace_self resolved
  | _ => cases reads

end Kernel

/-! ## Quiet work on a testbed -/

namespace Testbed

/-- Nothing happens to the kernel of a sound testbed. -/
def Quiet (before after : Testbed) : Prop :=
  before.Sound → after.Sound ∧ after.kernel = before.kernel

theorem Quiet.refl (bed : Testbed) : Quiet bed bed :=
  fun sound => ⟨sound, rfl⟩

instance : IsPreorder Testbed Quiet where
  refl := Quiet.refl
  trans _ _ _ := by
    intro first second sound
    obtain ⟨between, kept⟩ := first sound
    obtain ⟨after, keptAgain⟩ := second between
    exact ⟨after, keptAgain.trans kept⟩

theorem quiet_tell (note : Note) : (host.tell note).Leads Quiet :=
  fun _ sound => ⟨sound.note _, rfl⟩

theorem Replies.eq_of_reads
    {kernel next : Kernel}
    {call : Call}
    {outcome : Outcome}
    (replies : Replies kernel call outcome next)
    (reads : call.reads = true) :
    next = kernel := by
  cases replies with
  | answered => exact kernel.answer_of_reads reads
  | refused => rfl

theorem quiet_issue
    {call : Call}
    (reads : call.reads = true) :
    (host.issue call).Leads Quiet := by
  intro bed sound
  obtain ⟨after, replies⟩ := sound.issue call
  exact ⟨after, replies.eq_of_reads reads⟩

theorem quiet_nextId (start : UInt32) : (host.nextId start).Leads Quiet :=
  (quiet_issue rfl).bind fun _ => Action.leads_pure _

theorem quiet_lookup
    (descriptor : Descriptor)
    (key buffer : Bytes)
    (flags : UInt64) :
    (host.lookup descriptor key buffer flags).Leads Quiet :=
  (quiet_issue rfl).bind fun _ => Action.leads_pure _

theorem quiet_nextKey
    (descriptor : Descriptor)
    (key : Option Bytes)
    (buffer : Bytes) :
    (host.nextKey descriptor key buffer).Leads Quiet :=
  (quiet_issue rfl).bind fun _ => Action.leads_pure _

theorem quiet_info (descriptor : Descriptor) : (host.info descriptor).Leads Quiet := by
  refine (quiet_issue rfl).bind ?_
  intro answer
  simp only
  split <;> exact Action.leads_pure _

/-- The metadata of a map are read quietly. -/
theorem quiet_taskInfo (descriptor : Descriptor) :
    (Task.info host descriptor).Leads Quiet := by
  refine (quiet_info descriptor).lift.bind ?_
  rintro ⟨status, info⟩
  exact (Task.leads_check _ status).bind fun _ => Task.leads_pure info

/-! ## Quiet walks -/

theorem quiet_keyWalk (walk : KeyWalk) : (walk.next host).Leads Quiet := by
  rw [KeyWalk.next]
  split
  · exact Action.leads_pure _
  · refine (quiet_nextKey _ _ _).bind ?_
    intro reply
    simp only
    split
    · exact Action.leads_pure _
    · split <;> exact Action.leads_pure _

theorem quiet_fetch (walk : BatchWalk) : (walk.fetch host).Leads Quiet := by
  induction walk using BatchWalk.fetch.induct with
  | case1 walk panic noBuffers =>
      rw [BatchWalk.fetch, noBuffers]
      exact Action.leads_pure _
  | case2 walk buffers inductionHypothesis =>
      rw [BatchWalk.fetch, buffers]
      refine (quiet_issue rfl).bind ?_
      intro answer
      split
      · exact Action.leads_pure _
      · rename_i overflows _
        split
        · rename_i grows
          exact (quiet_tell _).bind fun _ => inductionHypothesis overflows grows
        · exact Action.leads_pure _

theorem quiet_batchWalk (walk : BatchWalk) : (walk.next host).Leads Quiet := by
  rw [BatchWalk.next]
  split
  · exact Action.leads_pure _
  · refine (quiet_fetch walk).bind ?_
    rintro ⟨fetched, walk⟩
    cases fetched with
    | error panic => exact Action.leads_pure _
    | ok answered =>
        simp only
        split
        · exact Action.leads_pure _
        · split
          · exact Action.leads_pure _
          · split <;> exact Action.leads_pure _

/-! ## Quiet dumps -/

theorem quiet_failWith (explain : String → Report) (status : Status) :
    (Dump.failWith explain status : Task Testbed α).Leads Quiet :=
  (Task.leads_ofExcept _ _).bind fun _ => Task.leads_fail _

theorem quiet_lookupAll
    (descriptor : Descriptor)
    (length patience : Nat)
    (walk : KeyWalk)
    (written : Bytes) :
    (Dump.lookupAll host descriptor length patience walk written).Leads Quiet := by
  induction patience generalizing walk written with
  | zero => exact Task.leads_fail _
  | succ patience inductionHypothesis =>
      rw [Dump.lookupAll]
      refine (quiet_keyWalk walk).lift.bind ?_
      rintro ⟨step, walk⟩
      cases step with
      | finished => exact Task.leads_pure _
      | failed status => exact quiet_failWith _ status
      | panicked panic => exact Task.leads_fail _
      | item key =>
          refine (quiet_lookup _ _ _ _).lift.bind ?_
          intro reply
          refine (Task.leads_ofExcept _ _).bind ?_
          intro gone
          split
          · exact inductionHypothesis walk reply.buffer
          · refine (Task.leads_check _ _).bind ?_
            intro _
            exact (inductionHypothesis walk reply.buffer).bind fun _ =>
              Task.leads_pure _

theorem quiet_collectBatches (patience : Nat) (walk : BatchWalk) :
    (Dump.collectBatches host patience walk).Leads Quiet := by
  induction patience generalizing walk with
  | zero => exact Task.leads_fail _
  | succ patience inductionHypothesis =>
      rw [Dump.collectBatches]
      refine (quiet_batchWalk walk).lift.bind ?_
      rintro ⟨step, walk⟩
      cases step with
      | finished => exact Task.leads_pure _
      | failed status => exact quiet_failWith _ status
      | panicked panic => exact Task.leads_fail _
      | entries batch =>
          exact (inductionHypothesis walk).bind fun _ => Task.leads_pure _

theorem quiet_countKeys (patience : Nat) (walk : KeyWalk) :
    (Dump.countKeys host patience walk).Leads Quiet := by
  induction patience generalizing walk with
  | zero => exact Task.leads_fail _
  | succ patience inductionHypothesis =>
      rw [Dump.countKeys]
      refine (quiet_keyWalk walk).lift.bind ?_
      rintro ⟨step, walk⟩
      cases step with
      | finished => exact Task.leads_pure _
      | failed status => exact quiet_failWith _ status
      | panicked panic => exact Task.leads_fail _
      | item key => exact (inductionHypothesis walk).bind fun _ => Task.leads_pure _

theorem quiet_patience : (Dump.patience host).Leads Quiet :=
  fun _ sound => ⟨sound, rfl⟩

theorem quiet_bufferLength (machine : Machine) (info : MapInfo) :
    (Dump.bufferLength machine info : Task Testbed UInt64).Leads Quiet := by
  rw [Dump.bufferLength]
  split
  · rw [Dump.processors]
    refine Task.Leads.bind ?_ fun _ => Task.leads_ofExcept _ _
    refine (Task.leads_ofExcept _ _).bind fun _ => ?_
    exact (Task.leads_ofExcept _ _).bind fun _ => Task.leads_ofExcept _ _
  · exact Task.leads_ofExcept _ _

theorem quiet_count (descriptor : Descriptor) (keySize : UInt32) :
    (Dump.count host descriptor keySize).Leads Quiet :=
  quiet_patience.bind fun _ => quiet_countKeys _ _

end Testbed
end KernelMaps
