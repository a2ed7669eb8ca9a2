import KernelMaps.Kernel.Table

/-!
# Batches of elements

The effect of one batch call on a table. Writing batches go through packed arrays element by
element and stop at the first that is refused. Reading batches go on from a token, which holds a
position among the entries. The offset of an element in its packed array is a 32-bit word; all this
is about batches that stay within such offsets.
-/

namespace KernelMaps
namespace Table

/-- How a writing batch ended: the error that stopped it, and the number of elements before. -/
structure BatchEnd where
  error : Option Errno
  done : Nat
  deriving DecidableEq, Repr

/-- One more element was done before the end. -/
def BatchEnd.succ (stop : BatchEnd) : BatchEnd :=
  { stop with done := stop.done + 1 }

/-- Write `count` elements from packed arrays of keys and values, up to the first failure. -/
def updateBatch (flags : UInt64) : Nat → Bytes → Bytes → Table → BatchEnd × Table
  | 0, _, _, table => (⟨none, 0⟩, table)
  | count + 1, keys, values, table =>
      match table.update (keys.fit table.keySize) (values.fit table.valueSize) flags with
      | .error errno => (⟨some errno, 0⟩, table)
      | .ok next =>
          let rest := updateBatch flags count (keys.drop table.keySize)
            (values.drop table.valueSize) next
          (rest.1.succ, rest.2)

/-- Take out `count` elements named by a packed array of keys, up to the first failure. -/
def deleteBatch : Nat → Bytes → Table → BatchEnd × Table
  | 0, _, table => (⟨none, 0⟩, table)
  | count + 1, keys, table =>
      match table.delete (keys.fit table.keySize) with
      | .error errno => (⟨some errno, 0⟩, table)
      | .ok (_, next) =>
          let rest := deleteBatch count (keys.drop table.keySize) next
          (rest.1.succ, rest.2)

/-- The number of bytes of a token that the kernel reads and writes. -/
def tokenWidth : Nat :=
  4

/-- The position that a token holds, never past the end. -/
def position (table : Table) (token : Option Bytes) : Nat :=
  min (token.elim 0 fun token => (token.fit tokenWidth).ofLittleEndian) table.entries.length

/-- Whether a batch is smaller than the bucket that comes next. -/
def overflowsBatch (bucketSize : Option UInt32) (count : UInt32) : Bool :=
  match bucketSize with
  | none => false
  | some size => count < size

/-- Drop the entries from `start` up to `stop`. -/
def dropRange (start stop : Nat) (entries : Entries) : Entries :=
  entries.take start ++ entries.drop stop

/-- Read up to `count` entries from where the token says, taking them out if asked. -/
def lookupBatch (bucketSize : Option UInt32) (query : BatchQuery) (table : Table) :
    Option Errno × BatchLeft × Table :=
  if query.remove && table.frozen then
    (some Errno.notPermitted, ⟨query.count, [], [], []⟩, table)
  else if query.count = 0 then (none, ⟨query.count, [], [], []⟩, table)
  else if !query.lendsToken then (some Errno.badAddress, ⟨query.count, [], [], []⟩, table)
  else
    let start := table.position query.token
    let available := table.entries.length - start
    if overflowsBatch bucketSize query.count && 0 < available then
      (some Errno.noSpace, ⟨0, [], [], []⟩, table)
    else
      let number := min available query.count.toNat
      let batch := (table.entries.drop start).take number
      let resume := if query.remove then start else start + number
      (if number = available then some Errno.noEntry else none,
        { count := UInt32.ofNat number
          token := Bytes.littleEndian tokenWidth resume
          keys := batch.flatMap Prod.fst
          values := batch.flatMap Prod.snd },
        if query.remove then
          { table with entries := dropRange start (start + number) table.entries }
        else table)

end Table
end KernelMaps
