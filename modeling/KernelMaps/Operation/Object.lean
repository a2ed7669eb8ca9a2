import KernelMaps.Host
import KernelMaps.Text.Utf8

/-!
# Operations on whole maps

Creation, freezing, and the ways to a descriptor: by identifier, by pinned path, or from another
descriptor.
-/

namespace KernelMaps

/-- What a client says about a map that is to be created. -/
structure CreateOptions where
  mapType : UInt32
  keySize : UInt32
  valueSize : UInt32
  maxEntries : UInt32
  mapFlags : UInt32 := 0
  numaNode : Option UInt32 := none
  innerMap : Option Descriptor := none
  interface : Option UInt32 := none
  name : Option String := none
  deriving DecidableEq, Repr

namespace CreateOptions

/-- Give the map a name. -/
def withName (options : CreateOptions) (name : String) : CreateOptions :=
  { options with name := some name }

/-- Set the flags of the map. -/
def withMapFlags (options : CreateOptions) (flags : UInt32) : CreateOptions :=
  { options with mapFlags := flags }

/-- Place the map on a NUMA node. -/
def withNumaNode (options : CreateOptions) (node : UInt32) : CreateOptions :=
  { options with numaNode := some node }

/-- Give the map a pattern for the maps it will hold. -/
def withInnerMap (options : CreateOptions) (descriptor : Descriptor) : CreateOptions :=
  { options with innerMap := some descriptor }

/-- Bind the map to a network interface. -/
def withInterface (options : CreateOptions) (interface : UInt32) : CreateOptions :=
  { options with interface := some interface }

/-- A name as the kernel keeps it: cut so that a zero follows, and filled up with zeros. -/
def objectName (name : String) : Bytes :=
  Bytes.fit Abi.nameLength ((Utf8.encode name).take (Abi.nameLength - 1))

/-- The flags of the map, with the mark that a NUMA node was chosen. -/
def allFlags (options : CreateOptions) : UInt32 :=
  if options.numaNode.isSome then options.mapFlags ||| Abi.MapFlag.numaNode
  else options.mapFlags

/-- What the kernel is asked to create. -/
def spec (options : CreateOptions) : MapSpec where
  mapType := options.mapType
  keySize := options.keySize
  valueSize := options.valueSize
  maxEntries := options.maxEntries
  mapFlags := options.allFlags
  innerMap := (options.innerMap.map Int32.toUInt32).getD 0
  numaNode := options.numaNode.getD 0
  name := (options.name.map objectName).getD (Bytes.zeros Abi.nameLength)
  interface := options.interface.getD 0

end CreateOptions

namespace Host

/-- Create a map; a success carries the new descriptor. -/
def create (host : Host σ) (options : CreateOptions) : Action σ Status :=
  host.issueStatus (.create options.spec)

/-- Make a map read-only. -/
def freeze (host : Host σ) (descriptor : Descriptor) : Action σ Status :=
  host.issueStatus (.freeze descriptor)

/-- Get a second descriptor for a map. -/
def duplicate (host : Host σ) (descriptor : Descriptor) : Action σ Status :=
  host.issueStatus (.duplicate descriptor)

/-- Get a descriptor for the map with an identifier. -/
def openId (host : Host σ) (id : UInt32) : Action σ Status :=
  host.issueStatus (.openId id)

/-- Get the least identifier above the given one; it counts only if the status is ok. -/
def nextId (host : Host σ) (start : UInt32) : Action σ (Status × UInt32) := do
  let answer ← host.issue (.nextId start)
  pure (answer.status, answer.left)

/-- Whether a path can be put to the kernel: a zero character would end it too early. -/
def isPath (path : String) : Bool :=
  !path.toList.contains '\x00'

/-- Get a descriptor for the map pinned to a path. -/
def openPath (host : Host σ) (path : String) : Action σ Status :=
  if isPath path then host.issueStatus (.openPath path) else pure (.ofErrno Errno.invalid)

/-- Pin a map to a path. -/
def pin (host : Host σ) (descriptor : Descriptor) (path : String) : Action σ Status :=
  if isPath path then host.issueStatus (.pin descriptor path)
  else pure (.ofErrno Errno.invalid)

end Host
end KernelMaps
