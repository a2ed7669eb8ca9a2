import KernelMaps.Inspect.Report

/-!
# Runs of tasks

What a task gives in a state, and the state after it, from its parts.
-/

namespace KernelMaps
namespace Task

@[simp] theorem run_pure (value : α) (state : σ) :
    (pure value : Task σ α).run.run state = (.ok value, state) := rfl

@[simp] theorem run_lift (action : Action σ α) (state : σ) :
    (lift action).run.run state =
      (.ok (action.run state).1, (action.run state).2) := rfl

/-- The second task starts where the first ended, unless that one failed. -/
theorem run_bind
    (task : Task σ α)
    (next : α → Task σ β)
    (state : σ) :
    (task >>= next).run.run state =
      match (task.run.run state).1 with
      | .ok value => (next value).run.run (task.run.run state).2
      | .error report => (.error report, (task.run.run state).2) := by
  rw [ExceptT.run_bind, StateT.run_bind]
  simp only [bind]
  cases (task.run.run state).1 <;> rfl

theorem run_bind_of_ok
    {task : Task σ α}
    {state after : σ}
    {value : α}
    (returned : task.run.run state = (.ok value, after))
    (next : α → Task σ β) :
    (task >>= next).run.run state = (next value).run.run after := by
  rw [run_bind, returned]

theorem run_bind_of_error
    {task : Task σ α}
    {state after : σ}
    {report : Report}
    (failed : task.run.run state = (.error report, after))
    (next : α → Task σ β) :
    (task >>= next).run.run state = (.error report, after) := by
  rw [run_bind, failed]

@[simp] theorem run_require_true (report : Report) (state : σ) :
    (require true report : Task σ Unit).run.run state = (.ok (), state) := rfl

@[simp] theorem run_ofExcept_ok
    (explain : ε → Report)
    (value : α)
    (state : σ) :
    (ofExcept explain (.ok value) : Task σ α).run.run state =
      (.ok value, state) := rfl

@[simp] theorem run_ofExcept_error
    (explain : ε → Report)
    (error : ε)
    (state : σ) :
    (ofExcept explain (.error error) : Task σ α).run.run state =
      (.error (explain error), state) := rfl

@[simp] theorem run_attempt_ok (value : α) (state : σ) :
    (attempt (.ok value) : Task σ α).run.run state = (.ok value, state) := rfl

@[simp] theorem run_attempt_error (panic : Panic) (state : σ) :
    (attempt (.error panic) : Task σ α).run.run state =
      (.error (.panicked panic), state) := rfl

@[simp] theorem run_check_ok (call : String) (state : σ) :
    (check call .ok : Task σ UInt32).run.run state = (.ok 0, state) := rfl

/-- What is done afterwards has no part in the result. -/
theorem run_ensuring
    (finish : Action σ Unit)
    (task : Task σ α)
    (state : σ) :
    (ensuring finish task).run.run state =
      ((task.run.run state).1, (finish.run (task.run.run state).2).2) := rfl

end Task
end KernelMaps
