import KernelMaps.Host

/-!
# Operations on batches

One call for many elements. The count that comes back says how many elements the call got
through, also when it failed on the way.
-/

namespace KernelMaps

/-- The outcome of a reading batch, and the lent buffers after the call. -/
structure BatchReply where
  status : Status
  count : UInt32
  token : Bytes
  keys : Bytes
  values : Bytes
  deriving DecidableEq, Repr

namespace Host

/-- Insert or overwrite elements from packed arrays. -/
def updateBatch (host : Host σ) (descriptor : Descriptor) (keys values : Bytes)
    (count : UInt32) (options : BatchOptions) : Action σ (Status × UInt32) := do
  let answer ← host.issue (.updateBatch descriptor keys values count options)
  pure (answer.status, answer.left)

/-- Take out the elements named in a packed array. -/
def deleteBatch (host : Host σ) (descriptor : Descriptor) (keys : Bytes) (count : UInt32)
    (options : BatchOptions) : Action σ (Status × UInt32) := do
  let answer ← host.issue (.deleteBatch descriptor keys count options)
  pure (answer.status, answer.left)

/-- Read elements, or take them out, from where a token says. -/
def lookupBatch (host : Host σ) (query : BatchQuery) (token keys values : Bytes) :
    Action σ BatchReply := do
  let answer ← host.issue (.lookupBatch query)
  pure
    { status := answer.status
      count := answer.left.count
      token := Bytes.overlay answer.left.token token
      keys := Bytes.overlay answer.left.keys keys
      values := Bytes.overlay answer.left.values values }

end Host
end KernelMaps
