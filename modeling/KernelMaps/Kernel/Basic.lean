import KernelMaps.Kernel.Batch

/-!
# The kernel

A kernel in memory: the maps in the order of their creation, the descriptors and pinned paths that
refer to them, and the effect of every call. Maps outlive their descriptors, and a descriptor is
never handed out twice.
-/

namespace KernelMaps

/-- The state of a kernel. Descriptors and paths refer to maps by their place in the list. -/
structure Kernel where
  tables : List Table := []
  descriptors : List (Descriptor × Nat) := []
  pins : List (String × Nat) := []
  /-- How many descriptors have been handed out. -/
  opened : Nat := 0
  /-- The greatest number of metadata bytes that is written. -/
  infoLimit : Option UInt32 := none
  /-- The number of entries in a bucket, below which no batch may be asked for. -/
  bucketSize : Option UInt32 := none
  deriving DecidableEq, Repr

namespace Kernel

/-- The first descriptor that is handed out. -/
def firstDescriptor : Nat :=
  101

/-- The identifier of the first map. -/
def firstId : Nat :=
  1000

/-- A number that bounds the maps and the entries together. -/
def size (kernel : Kernel) : Nat :=
  kernel.tables.foldr (fun table total => table.entries.length + 1 + total) 0

/-- The place of the map behind a descriptor, and the map. -/
def resolve (kernel : Kernel) (descriptor : Descriptor) : Except Errno (Nat × Table) :=
  match kernel.descriptors.lookup descriptor with
  | none => .error Errno.badDescriptor
  | some place =>
      match kernel.tables[place]? with
      | none => .error Errno.badDescriptor
      | some table => .ok (place, table)

/-- The map behind a descriptor. -/
def tableOf? (kernel : Kernel) (descriptor : Descriptor) : Option Table :=
  (kernel.resolve descriptor).toOption.map Prod.snd

/-- Put a map in the place of its earlier state. -/
def replace (kernel : Kernel) (place : Nat) (table : Table) : Kernel :=
  { kernel with tables := kernel.tables.set place table }

/-- Hand out a descriptor for the map at a place. -/
def handOut (kernel : Kernel) (place : Nat) : Descriptor × Kernel :=
  let descriptor := Int32.ofNat (firstDescriptor + kernel.opened)
  (descriptor,
    { kernel with
      descriptors := (descriptor, place) :: kernel.descriptors
      opened := kernel.opened + 1 })

/-- Give a descriptor back. -/
def close (kernel : Kernel) (descriptor : Descriptor) : Except Errno Kernel :=
  match kernel.descriptors.lookup descriptor with
  | none => .error Errno.badDescriptor
  | some _ =>
      .ok { kernel with
        descriptors := kernel.descriptors.filter fun pair => pair.1 != descriptor }

/-- Hand out a second descriptor for a map. -/
def duplicate (kernel : Kernel) (descriptor : Descriptor) : Except Errno (Descriptor × Kernel) :=
  match kernel.descriptors.lookup descriptor with
  | none => .error Errno.badDescriptor
  | some place => .ok (kernel.handOut place)

/-- Create a map and hand out a descriptor for it; only hash maps with room are created. -/
def create (kernel : Kernel) (spec : MapSpec) : Except Errno (Descriptor × Kernel) :=
  if spec.mapType ≠ Abi.MapType.hash then .error Errno.invalid
  else if spec.keySize = 0 ∨ spec.valueSize = 0 ∨ spec.maxEntries = 0 then .error Errno.invalid
  else
    let table : Table := { id := UInt32.ofNat (firstId + kernel.tables.length), spec }
    .ok (handOut { kernel with tables := kernel.tables ++ [table] } kernel.tables.length)

/-- The value of a key. -/
def lookup (kernel : Kernel) (descriptor : Descriptor) (key : Bytes) : Except Errno Bytes := do
  let (_, table) ← kernel.resolve descriptor
  match table.find? (key.fit table.keySize) with
  | none => .error Errno.noEntry
  | some value => .ok value

/-- Insert or overwrite one entry. -/
def update (kernel : Kernel) (descriptor : Descriptor) (key value : Bytes) (flags : UInt64) :
    Except Errno Kernel := do
  let (place, table) ← kernel.resolve descriptor
  let next ← table.update (key.fit table.keySize) (value.fit table.valueSize) flags
  .ok (kernel.replace place next)

/-- Take out one entry, and tell its value. -/
def delete (kernel : Kernel) (descriptor : Descriptor) (key : Bytes) :
    Except Errno (Bytes × Kernel) := do
  let (place, table) ← kernel.resolve descriptor
  let (value, next) ← table.delete (key.fit table.keySize)
  .ok (value, kernel.replace place next)

/-- The key after the given one. -/
def nextKey (kernel : Kernel) (descriptor : Descriptor) (key : Option Bytes) :
    Except Errno Bytes := do
  let (_, table) ← kernel.resolve descriptor
  table.nextKey (key.map fun key => key.fit table.keySize)

/-- Make a map read-only. -/
def freeze (kernel : Kernel) (descriptor : Descriptor) : Except Errno Kernel := do
  let (place, table) ← kernel.resolve descriptor
  let next ← table.freeze
  .ok (kernel.replace place next)

/-- Pin a map to a path that is free. -/
def pin (kernel : Kernel) (descriptor : Descriptor) (path : String) : Except Errno Kernel := do
  let (place, _) ← kernel.resolve descriptor
  match kernel.pins.lookup path with
  | some _ => .error Errno.alreadyExists
  | none => .ok { kernel with pins := (path, place) :: kernel.pins }

/-- Hand out a descriptor for the map pinned to a path. -/
def openPath (kernel : Kernel) (path : String) : Except Errno (Descriptor × Kernel) :=
  match kernel.pins.lookup path with
  | none => .error Errno.noEntry
  | some place => .ok (kernel.handOut place)

/-- Hand out a descriptor for the map with an identifier. -/
def openId (kernel : Kernel) (id : UInt32) : Except Errno (Descriptor × Kernel) :=
  match kernel.tables.findIdx? fun table => table.id == id with
  | none => .error Errno.noEntry
  | some place => .ok (kernel.handOut place)

/-- The least identifier above the given one. -/
def nextId (kernel : Kernel) (start : UInt32) : Except Errno UInt32 :=
  match ((kernel.tables.map Table.id).filter fun id => start < id).min? with
  | none => .error Errno.noEntry
  | some id => .ok id

/-- The number of metadata bytes written for a caller with room for `asked`. -/
def infoLength (kernel : Kernel) (asked : UInt32) : UInt32 :=
  let full := UInt32.ofNat MapRecord.size
  min (min asked full) (kernel.infoLimit.getD full)

/-- The metadata of a map, cut to the length written. -/
def info (kernel : Kernel) (descriptor : Descriptor) (asked : UInt32) :
    Except Errno InfoLeft := do
  let (_, table) ← kernel.resolve descriptor
  let length := kernel.infoLength asked
  .ok ⟨table.record.encode.take length.toNat, length⟩

/-- A batch of entries, and the kernel after the call. -/
def lookupBatch (kernel : Kernel) (query : BatchQuery) : Option Errno × BatchLeft × Kernel :=
  match kernel.resolve query.descriptor with
  | .error errno => (some errno, ⟨query.count, [], [], []⟩, kernel)
  | .ok (place, table) =>
      let (error, left, next) := table.lookupBatch kernel.bucketSize query
      (error, left, kernel.replace place next)

/-- The count that a writing batch leaves: how far it came, or all of what was asked. -/
def leftCount (count : UInt32) (stop : Table.BatchEnd) : UInt32 :=
  match stop.error with
  | none => count
  | some _ => UInt32.ofNat stop.done

/-- Write a batch of entries: the error that stopped it, the count left, the kernel after it. -/
def updateBatch (kernel : Kernel) (descriptor : Descriptor) (keys values : Bytes)
    (count : UInt32) (options : BatchOptions) : Option Errno × UInt32 × Kernel :=
  match kernel.resolve descriptor with
  | .error errno => (some errno, count, kernel)
  | .ok (place, table) =>
      let (stop, next) := table.updateBatch options.elementFlags count.toNat keys values
      (stop.error, leftCount count stop, kernel.replace place next)

/-- Take out a batch of entries: the error that stopped it, the count left, the kernel after. -/
def deleteBatch (kernel : Kernel) (descriptor : Descriptor) (keys : Bytes) (count : UInt32) :
    Option Errno × UInt32 × Kernel :=
  match kernel.resolve descriptor with
  | .error errno => (some errno, count, kernel)
  | .ok (place, table) =>
      let (stop, next) := table.deleteBatch count.toNat keys
      (stop.error, leftCount count stop, kernel.replace place next)

end Kernel
end KernelMaps
