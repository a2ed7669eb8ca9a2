import KernelMaps.Operation.Object

/-!
# Handles

A handle owns one descriptor and gives it back once. After it was closed or has given its
descriptor away it owns nothing, and puts no more calls.
-/

namespace KernelMaps

/-- The owner of a descriptor, or of none any more. -/
structure Handle where
  descriptor : Option Descriptor
  deriving DecidableEq, Repr

namespace Handle

/-- The handle that owns a descriptor. -/
def own (descriptor : Descriptor) : Handle :=
  ⟨some descriptor⟩

/-- The handle that owns nothing. -/
def spent : Handle :=
  ⟨none⟩

/-- The handle for the descriptor that a successful status carries. -/
def ofStatus (call : String) (status : Status) : Checked (Except HandleError Handle) := do
  match ← status.toResult with
  | .ok number => pure (.ok (own number.toInt32))
  | .error errno => pure (.error (.refused call (.os errno)))

/-- The descriptor of a handle. -/
def value (handle : Handle) : Except HandleError Descriptor :=
  match handle.descriptor with
  | some descriptor => .ok descriptor
  | none => .error .closed

/-- Whether a handle owns nothing. -/
def isClosed (handle : Handle) : Bool :=
  handle.descriptor.isNone

/-- Give the descriptor back; a refusal is noted, and not tried again. -/
def close (host : Host σ) (handle : Handle) : Action σ Handle :=
  match handle.descriptor with
  | none => pure spent
  | some descriptor => do
      let answer ← host.issue (.close descriptor)
      match answer.outcome with
      | .ok _ => pure spent
      | .error failure => do
          host.tell (.closeRefused descriptor failure)
          pure spent

/-- Take the descriptor out of a handle, which owns nothing afterwards. -/
def intoRaw (handle : Handle) : Except HandleError Descriptor × Handle :=
  (handle.value, spent)

/-- Make a second handle for the same map. -/
def tryClone (host : Host σ) (handle : Handle) :
    Action σ (Checked (Except HandleError Handle)) :=
  match handle.descriptor with
  | none => pure (.ok (.error .closed))
  | some descriptor => do
      let status ← host.duplicate descriptor
      pure (ofStatus "dup" status)

/-- The written form of a handle. -/
def toText (handle : Handle) : String :=
  match handle.descriptor with
  | some descriptor => "valid: " ++ toString descriptor
  | none => "closed"

/-- The written form of a handle, marked as one. -/
def detail (handle : Handle) : String :=
  "MapFd(" ++ handle.toText ++ ")"

end Handle
end KernelMaps
