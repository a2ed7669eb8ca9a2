import KernelMaps.Abi.MapInfo
import KernelMaps.Host

/-!
# The metadata query

One call that asks for a whole record of metadata. What the kernel does not write reads zero.
-/

namespace KernelMaps
namespace Host

/-- Ask for the metadata of a map; it counts only if the status is ok. -/
def info (host : Host σ) (descriptor : Descriptor) : Action σ (Status × MapInfo) := do
  let answer ← host.issue (.info descriptor (UInt32.ofNat MapRecord.size))
  let status := answer.status
  if status.isOk then
    pure (status, .ofRecord (.decode answer.left.record) answer.left.length)
  else pure (status, {})

end Host
end KernelMaps
