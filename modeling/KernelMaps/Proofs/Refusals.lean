import KernelMaps.Proofs.Targets

/-!
# Kernels that refuse calls

A host in front of a kernel, by which chosen calls are refused: they are answered with
an error number and do not reach the kernel, which answers all other calls.
-/

namespace KernelMaps

/-- Which calls are refused, each with its error number. -/
structure Refusals where
  errno? : Call → Option Errno
  positive : ∀ {call : Call} {errno : Errno}, errno? call = some errno → 0 < errno

namespace Refusals

/-- Nothing is refused. -/
def nothing : Refusals where
  errno? := fun _ => none
  positive := nofun

variable (refusals : Refusals)

/-- The answer to a call, and the kernel after it. -/
def answer (call : Call) (kernel : Kernel) : Answer call × Kernel :=
  match refusals.errno? call with
  | some errno => (.refuse call errno, kernel)
  | none => kernel.answer call

/-- The kernel behind refusals as a host. -/
def host : Host Kernel where
  call := refusals.answer
  note := Kernel.host.note
  patience := Kernel.host.patience

/-- A kernel by which nothing is refused is the kernel itself. -/
theorem host_nothing : nothing.host = Kernel.host := rfl

theorem run_issue (call : Call) (kernel : Kernel) :
    (refusals.host.issue call).run kernel = refusals.answer call kernel := by
  simp only [Host.issue, Host.tell, host, Kernel.host, StateT.run_bind]
  simp only [StateT.run, bind]
  cases call.kind with
  | close | duplicate => rfl
  | command number => cases (refusals.answer call kernel).1.outcome <;> rfl

theorem run_closeHandle (descriptor : Descriptor) (kernel : Kernel) :
    ((Handle.own descriptor).close refusals.host).run kernel =
      (.spent, (refusals.answer (.close descriptor) kernel).2) := by
  rw [Handle.close, Handle.own, Action.run_bind, refusals.run_issue]
  cases (refusals.answer (.close descriptor) kernel).1.outcome <;> rfl

theorem run_holding
    (descriptor : Descriptor)
    (work : Descriptor → Task Kernel α)
    (kernel : Kernel) :
    (Task.holding refusals.host (.own descriptor) work).run.run kernel =
      let ended := (work descriptor).run.run kernel
      (ended.1, (refusals.answer (.close descriptor) ended.2).2) := by
  rw [Task.run_holding]
  simp only [refusals.run_closeHandle]

section Passed

variable
  {refusals : Refusals}
  {call : Call}

theorem answer_of_passed
    (passed : refusals.errno? call = none)
    (kernel : Kernel) :
    refusals.answer call kernel = kernel.answer call := by
  rw [answer, passed]

/-- A call that passes is put to the kernel. -/
theorem run_issueStatus_of_passed
    (passed : refusals.errno? call = none)
    (kernel : Kernel) :
    (refusals.host.issueStatus call).run kernel =
      (Kernel.host.issueStatus call).run kernel := by
  rw [Host.issueStatus, Action.run_bind, refusals.run_issue, answer_of_passed passed,
    Kernel.run_issueStatus]
  rfl

theorem run_nextId_of_passed
    {start : UInt32}
    (passed : refusals.errno? (.nextId start) = none)
    (kernel : Kernel) :
    (refusals.host.nextId start).run kernel = (Kernel.host.nextId start).run kernel := by
  rw [Host.nextId, Action.run_bind, refusals.run_issue, answer_of_passed passed,
    Host.nextId, Action.run_bind, Kernel.run_issue]

/-- The metadata query that passes. -/
theorem run_info_of_passed
    {descriptor : Descriptor}
    (passed : refusals.errno? (.info descriptor (UInt32.ofNat MapRecord.size)) = none)
    (kernel : Kernel) :
    (Task.info refusals.host descriptor).run.run kernel =
      (Task.info Kernel.host descriptor).run.run kernel := by
  have queried : (refusals.host.info descriptor).run kernel =
      (Kernel.host.info descriptor).run kernel := by
    simp only [Host.info, Action.run_bind, refusals.run_issue, answer_of_passed passed,
      Kernel.run_issue]
  rw [Task.info, Task.run_bind, Task.run_lift, queried, Task.info, Task.run_bind,
    Task.run_lift]

end Passed

section Refused

variable
  {refusals : Refusals}
  {call : Call}
  {errno : Errno}

theorem answer_of_refused
    (refused : refusals.errno? call = some errno)
    (kernel : Kernel) :
    refusals.answer call kernel = (.refuse call errno, kernel) := by
  rw [answer, refused]

/-- A call that is refused changes nothing. -/
theorem run_issueStatus_of_refused
    (refused : refusals.errno? call = some errno)
    (kernel : Kernel) :
    (refusals.host.issueStatus call).run kernel = (.ofErrno errno, kernel) := by
  rw [Host.issueStatus, Action.run_bind, refusals.run_issue, answer_of_refused refused,
    ← Answer.status_refuse call (refusals.positive refused)]
  rfl

/-- The metadata query that is refused. -/
theorem run_info_of_refused
    {descriptor : Descriptor}
    (refused : refusals.errno? (.info descriptor (UInt32.ofNat MapRecord.size)) =
      some errno)
    (kernel : Kernel) :
    (Task.info refusals.host descriptor).run.run kernel =
      (.error (.callFailed "bpf_obj_get_info_by_fd" (.os errno)), kernel) := by
  have positive := refusals.positive refused
  have queried : (refusals.host.info descriptor).run kernel =
      ((.ofErrno errno, {}), kernel) := by
    simp only [Host.info, Action.run_bind, refusals.run_issue,
      answer_of_refused refused, Answer.status_refuse _ positive,
      Status.isOk_ofErrno positive]
    rfl
  rw [Task.info, Task.run_bind, Task.run_lift, queried]
  exact Task.run_bind_of_error (Task.run_check_ofErrno _ positive _) _

end Refused

end Refusals
end KernelMaps
