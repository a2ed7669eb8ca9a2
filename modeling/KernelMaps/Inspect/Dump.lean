import KernelMaps.Inspect.Machine
import KernelMaps.Inspect.Target
import KernelMaps.Walk.Batches

/-!
# Dumps

All entries of a map, read in two ways: key by key, with a lookup for each key, or batch by batch.
A key that has gone before it is looked up is passed over.
-/

namespace KernelMaps
namespace Dump

/-- Round up to a multiple of eight. -/
def roundUp (number : Nat) : Nat :=
  (number + 7) / 8 * 8

/--
The number of bytes that a lookup fills in: one value, or one for each processor, each rounded up
to a multiple of eight.
-/
def valueLength (mapType valueSize : UInt32) (processors : UInt64) : Checked UInt64 :=
  if Abi.MapType.isPerCpu mapType then
    Checked.word (roundUp valueSize.toNat * processors.toNat)
  else pure valueSize.toUInt64

/-- The number of processors of a machine. -/
def processors (machine : Machine) : Task σ UInt64 := do
  let list ← Task.ofExcept (.cpuListUnreadable Machine.processorsPath) machine.processors
  let count ← Task.attempt (CpuList.count list)
  Task.ofExcept .cpuListInvalid count

/-- The number of bytes that a lookup in an open map fills in. -/
def bufferLength (machine : Machine) (info : MapInfo) : Task σ UInt64 := do
  if Abi.MapType.isPerCpu info.mapType then
    let processors ← processors machine
    Task.attempt (valueLength info.mapType info.valueSize processors)
  else Task.attempt (valueLength info.mapType info.valueSize 1)

/-- Give up because a walk fails with a status, which is written out. -/
def failWith (explain : String → Report) (status : Status) : Task σ α := do
  let written ← Task.attempt status.toText
  Task.fail (explain written)

/--
Look up each key of a walk, for at most `patience` steps. One buffer of the given length, at first
all zeros, is lent to each lookup in turn; of it only the start that was written is kept.
-/
def lookupAll (host : Host σ) (descriptor : Descriptor) (length : Nat) :
    Nat → KeyWalk → Bytes → Task σ Entries
  | 0, _, _ => Task.fail .unending
  | patience + 1, walk, written => do
      let (step, walk) ← Task.lift (walk.next host)
      match step with
      | .finished => pure []
      | .failed status => failWith .walkFailed status
      | .panicked panic => Task.fail (.panicked panic)
      | .item key => do
          let reply ← Task.lift (host.lookup descriptor key written 0)
          let gone ← Task.attempt (reply.status.isErrno Errno.noEntry)
          if gone then
            lookupAll host descriptor length patience walk reply.buffer
          else do
            let _ ← Task.check "bpf_map_lookup_elem" reply.status
            let rest ← lookupAll host descriptor length patience walk reply.buffer
            pure ((key, Bytes.padded length reply.buffer) :: rest)

/-- The entries of the batches of a walk, for at most `patience` steps. -/
def collectBatches (host : Host σ) : Nat → BatchWalk → Task σ Entries
  | 0, _ => Task.fail .unending
  | patience + 1, walk => do
      let (step, walk) ← Task.lift (walk.next host)
      match step with
      | .finished => pure []
      | .failed status => failWith .batchFailed status
      | .panicked panic => Task.fail (.panicked panic)
      | .entries batch => do
          let rest ← collectBatches host patience walk
          pure (batch ++ rest)

/-- Count the keys of a walk, for at most `patience` steps. -/
def countKeys (host : Host σ) : Nat → KeyWalk → Task σ Nat
  | 0, _ => Task.fail .unending
  | patience + 1, walk => do
      let (step, walk) ← Task.lift (walk.next host)
      match step with
      | .finished => pure 0
      | .failed status => failWith .walkFailed status
      | .panicked panic => Task.fail (.panicked panic)
      | .item _ => do
          let rest ← countKeys host patience walk
          pure (rest + 1)

/-- How many steps a walk may take from now on. -/
def patience (host : Host σ) : Task σ Nat := do
  let state ← Task.lift (get : Action σ σ)
  pure (host.patience state)

/-- The entries of a map, key by key. -/
def byKeys (host : Host σ) (machine : Machine) (target : Target) : Task σ Entries :=
  target.use host fun map => do
    let length ← bufferLength machine map.info
    let _ ← Task.attempt (Checked.buffer length.toNat)
    let patience ← patience host
    lookupAll host map.descriptor length.toNat patience
      (KeyWalk.new map.descriptor map.info.keySize) []

/-- The entries of a map, `chunk` of them at a time. -/
def byBatches (host : Host σ) (machine : Machine) (target : Target) (chunk : UInt32) :
    Task σ Entries := do
  Task.require (0 < chunk) .zeroChunk
  target.use host fun map => do
    let length ← bufferLength machine map.info
    let patience ← patience host
    collectBatches host patience
      (BatchWalk.new map.descriptor map.info.keySize length.toUInt32 chunk {})

/-- The number of entries of an open map. -/
def count (host : Host σ) (descriptor : Descriptor) (keySize : UInt32) : Task σ Nat := do
  let patience ← patience host
  countKeys host patience (KeyWalk.new descriptor keySize)

end Dump
end KernelMaps
