import KernelMaps.Host

/-!
# Operations on one element

Each operation puts one call. A buffer that is lent for an answer comes back with what the kernel
wrote at its start.
-/

namespace KernelMaps

/-- A status, and a lent buffer after the call. -/
structure Reply where
  status : Status
  buffer : Bytes
  deriving DecidableEq, Repr

namespace Host

/-- Insert or overwrite the value of a key, as the flags demand. -/
def update (host : Host σ) (descriptor : Descriptor) (key value : Bytes) (flags : UInt64) :
    Action σ Status :=
  host.issueStatus (.update descriptor key value flags)

/-- Read the value of a key. -/
def lookup (host : Host σ) (descriptor : Descriptor) (key buffer : Bytes) (flags : UInt64) :
    Action σ Reply := do
  let answer ← host.issue (.lookup descriptor key flags)
  pure ⟨answer.status, Bytes.overlay answer.left buffer⟩

/-- Read the value of a key and take its entry out. -/
def lookupAndDelete (host : Host σ) (descriptor : Descriptor) (key buffer : Bytes) :
    Action σ Reply := do
  let answer ← host.issue (.lookupAndDelete descriptor key)
  pure ⟨answer.status, Bytes.overlay answer.left buffer⟩

/-- Take the entry of a key out. -/
def delete (host : Host σ) (descriptor : Descriptor) (key : Bytes) : Action σ Status :=
  host.issueStatus (.delete descriptor key)

/-- Read the key after the given one, or the first. -/
def nextKey (host : Host σ) (descriptor : Descriptor) (key : Option Bytes) (buffer : Bytes) :
    Action σ Reply := do
  let answer ← host.issue (.nextKey descriptor key)
  pure ⟨answer.status, Bytes.overlay answer.left buffer⟩

end Host
end KernelMaps
