import KernelMaps.Kernel.Answer
import KernelMaps.Note

/-!
# Hosts

Whatever answers calls: the kernel itself, a kernel whose calls are made to fail, or any other
system with a state. All operations are written over a host, so that they can be studied on each.
-/

namespace KernelMaps

/-- A system with states `σ` that answers calls. -/
structure Host (σ : Type) where
  /-- The answer to a call, and the state after it. -/
  call : (call : Call) → σ → Answer call × σ
  /-- Take down a note. -/
  note : Note → σ → σ
  /-- How many steps a walk that starts in a state may take. -/
  patience : σ → Nat

/-- A computation on the state of a host. -/
abbrev Action (σ α : Type) := StateM σ α

namespace Host

/-- Take down a note. -/
def tell (host : Host σ) (note : Note) : Action σ Unit :=
  modify (host.note note)

/-- Put a call, and take down a note when a command is refused. -/
def issue (host : Host σ) (call : Call) : Action σ (Answer call) := do
  let answer ← (fun state => host.call call state : StateM σ (Answer call))
  match call.kind, answer.outcome with
  | .command number, .error failure =>
      host.tell (.refused number failure)
      pure answer
  | _, _ => pure answer

/-- Put a call of which only the status counts. -/
def issueStatus (host : Host σ) (call : Call) : Action σ Status := do
  let answer ← host.issue call
  pure answer.status

end Host

/-- The kernel as a host: notes are dropped, and no walk takes more steps than there is to see. -/
def Kernel.host : Host Kernel where
  call := Kernel.answer
  note := fun _ kernel => kernel
  patience := fun kernel => kernel.size + 2

end KernelMaps
