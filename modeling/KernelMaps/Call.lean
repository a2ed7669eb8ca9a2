import KernelMaps.Abi.Constants
import KernelMaps.Bytes
import KernelMaps.Status

/-!
# Calls

The calls that a client can put to the kernel, each with the fields of its request, and the
answers to them: an outcome, together with what the kernel left in the memory that the client had
lent for the call.
-/

namespace KernelMaps

/-- A descriptor, by which a client names an open map. -/
abbrev Descriptor := Int32

/-- What is fixed about a map when it is created. -/
structure MapSpec where
  mapType : UInt32
  keySize : UInt32
  valueSize : UInt32
  maxEntries : UInt32
  mapFlags : UInt32 := 0
  innerMap : UInt32 := 0
  numaNode : UInt32 := 0
  /-- The name, followed by zeros up to the length of a name in the kernel. -/
  name : Bytes := Bytes.zeros Abi.nameLength
  interface : UInt32 := 0
  deriving DecidableEq, Repr

/-- The options of a batch call. -/
structure BatchOptions where
  /-- Flags for each element. -/
  elementFlags : UInt64 := 0
  /-- Flags for the whole call. -/
  flags : UInt64 := 0
  deriving DecidableEq, Repr

/-- The request for a batch of elements. -/
structure BatchQuery where
  /-- Whether the elements are taken out of the map. -/
  remove : Bool
  descriptor : Descriptor
  /-- Where to go on; nothing means from the start. -/
  token : Option Bytes
  /-- How many elements the client has room for. -/
  count : UInt32
  options : BatchOptions := {}
  /-- Whether the client lent memory for the next token. -/
  lendsToken : Bool := true
  deriving DecidableEq, Repr

/-- A call to the kernel. -/
inductive Call
  /-- Give a descriptor back. -/
  | close (descriptor : Descriptor)
  /-- Get a second descriptor for a map. -/
  | duplicate (descriptor : Descriptor)
  /-- Create a map. -/
  | create (spec : MapSpec)
  /-- Read the value of a key. -/
  | lookup (descriptor : Descriptor) (key : Bytes) (flags : UInt64)
  /-- Insert or overwrite the value of a key. -/
  | update (descriptor : Descriptor) (key value : Bytes) (flags : UInt64)
  /-- Take the entry of a key out. -/
  | delete (descriptor : Descriptor) (key : Bytes)
  /-- Read the key after another one, or the first. -/
  | nextKey (descriptor : Descriptor) (key : Option Bytes)
  /-- Pin a map to a path. -/
  | pin (descriptor : Descriptor) (path : String)
  /-- Open the map pinned to a path. -/
  | openPath (path : String)
  /-- Read the least identifier above another one. -/
  | nextId (start : UInt32)
  /-- Open the map with an identifier. -/
  | openId (id : UInt32)
  /-- Read the metadata of a map, up to a number of bytes. -/
  | info (descriptor : Descriptor) (length : UInt32)
  /-- Read the value of a key and take its entry out. -/
  | lookupAndDelete (descriptor : Descriptor) (key : Bytes)
  /-- Make a map read-only. -/
  | freeze (descriptor : Descriptor)
  /-- Read a batch of entries. -/
  | lookupBatch (query : BatchQuery)
  /-- Insert or overwrite a batch of values, packed after one another. -/
  | updateBatch (descriptor : Descriptor) (keys values : Bytes) (count : UInt32)
      (options : BatchOptions)
  /-- Take out the entries of a batch of keys, packed after one another. -/
  | deleteBatch (descriptor : Descriptor) (keys : Bytes) (count : UInt32)
      (options : BatchOptions)
  /-- A command that the kernel does not know. -/
  | unknown (command : UInt32)
  deriving DecidableEq, Repr

/-- The kinds of calls: the two on descriptors, and the numbered commands. -/
inductive CallKind
  | close
  | duplicate
  | command (number : UInt32)
  deriving DecidableEq, Repr

/-- What a metadata query leaves: the start of the record, and how much of it counts. -/
structure InfoLeft where
  record : Bytes
  length : UInt32
  deriving DecidableEq, Repr

/-- What a request for a batch leaves: the count, and the start of each lent buffer. -/
structure BatchLeft where
  count : UInt32
  token : Bytes := []
  keys : Bytes := []
  values : Bytes := []
  deriving DecidableEq, Repr

namespace Call

/-- The kind of a call. -/
def kind : Call → CallKind
  | close _ => .close
  | duplicate _ => .duplicate
  | create _ => .command Abi.Command.mapCreate
  | lookup .. => .command Abi.Command.mapLookup
  | update .. => .command Abi.Command.mapUpdate
  | delete .. => .command Abi.Command.mapDelete
  | nextKey .. => .command Abi.Command.mapNextKey
  | pin .. => .command Abi.Command.objectPin
  | openPath _ => .command Abi.Command.objectGet
  | nextId _ => .command Abi.Command.mapNextId
  | openId _ => .command Abi.Command.mapOpenId
  | info .. => .command Abi.Command.objectInfo
  | lookupAndDelete .. => .command Abi.Command.mapLookupAndDelete
  | freeze _ => .command Abi.Command.mapFreeze
  | lookupBatch query =>
      .command (if query.remove then Abi.Command.mapLookupAndDeleteBatch
        else Abi.Command.mapLookupBatch)
  | updateBatch .. => .command Abi.Command.mapUpdateBatch
  | deleteBatch .. => .command Abi.Command.mapDeleteBatch
  | unknown number => .command number

/--
What the kernel can leave in the client's memory: the start of a buffer, an identifier, a count,
or nothing.
-/
@[reducible]
def Left : Call → Type
  | lookup .. | lookupAndDelete .. | nextKey .. => Bytes
  | nextId _ => UInt32
  | info .. => InfoLeft
  | lookupBatch _ => BatchLeft
  | updateBatch .. | deleteBatch .. => UInt32
  | _ => Unit

/-- What is in the client's memory when the kernel has written nothing. -/
def untouched : (call : Call) → call.Left
  | close _ => ()
  | duplicate _ => ()
  | create _ => ()
  | lookup .. => ([] : Bytes)
  | update .. => ()
  | delete .. => ()
  | nextKey .. => ([] : Bytes)
  | pin .. => ()
  | openPath _ => ()
  | nextId _ => (0 : UInt32)
  | openId _ => ()
  | info _ length => (⟨[], length⟩ : InfoLeft)
  | lookupAndDelete .. => ([] : Bytes)
  | freeze _ => ()
  | lookupBatch query => (⟨query.count, [], [], []⟩ : BatchLeft)
  | updateBatch _ _ _ count _ => count
  | deleteBatch _ _ count _ => count
  | unknown _ => ()

end Call

/-- The answer to a call. -/
structure Answer (call : Call) where
  outcome : Outcome
  left : call.Left

namespace Answer

/-- A success. -/
def accept (call : Call) (returned : Int64) (left : call.Left) : Answer call :=
  ⟨.ok returned, left⟩

/-- A failure that leaves the client's memory alone. -/
def refuse (call : Call) (errno : Errno) : Answer call :=
  ⟨.error (.ofErrno errno), call.untouched⟩

/-- The status of an answer. -/
def status (answer : Answer call) : Status :=
  .ofOutcome answer.outcome

end Answer
end KernelMaps
