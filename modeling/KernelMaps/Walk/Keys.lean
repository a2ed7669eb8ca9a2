import KernelMaps.Operation.Element

/-!
# Walks over keys

A walk asks for the key after the last one until there is none. A failing call is reported once
and ends the walk.
-/

namespace KernelMaps

/-- What one step of a walk gives. -/
inductive Step (α : Type)
  | item (value : α)
  | failed (status : Status)
  | finished
  /-- The program stops in the step. -/
  | panicked (panic : Panic)
  deriving DecidableEq, Repr

/-- A walk over the keys of a map. -/
structure KeyWalk where
  descriptor : Descriptor
  keySize : UInt32
  /-- The key of the last step. -/
  current : Option Bytes := none
  done : Bool := false
  deriving DecidableEq, Repr

namespace KeyWalk

/-- The walk from the start. -/
def new (descriptor : Descriptor) (keySize : UInt32) : KeyWalk :=
  { descriptor, keySize }

/-- One step, and the walk after it. -/
def next (host : Host σ) (walk : KeyWalk) : Action σ (Step Bytes × KeyWalk) := do
  if walk.done then pure (.finished, walk)
  else
    let reply ← host.nextKey walk.descriptor walk.current []
    if reply.status.isOk then
      let key := Bytes.padded walk.keySize.toNat reply.buffer
      pure (.item key, { walk with current := some key })
    else
      match reply.status.isErrno Errno.noEntry with
      | .ok true => pure (.finished, { walk with done := true })
      | .ok false => pure (.failed reply.status, { walk with done := true })
      -- As long as there is no status, the walk is not done.
      | .error panic =>
          pure (.panicked panic, { walk with done := reply.status != .overflowed })

/-- The steps up to the end, at most `limit` of them, and the walk after them. -/
def steps (host : Host σ) : Nat → KeyWalk → Action σ (List (Step Bytes) × KeyWalk)
  | 0, walk => pure ([], walk)
  | limit + 1, walk => do
      let (step, walk) ← walk.next host
      match step with
      | .finished => pure ([], walk)
      | .panicked panic => pure ([.panicked panic], walk)
      | step =>
          let (rest, walk) ← steps host limit walk
          pure (step :: rest, walk)

end KeyWalk
end KernelMaps
