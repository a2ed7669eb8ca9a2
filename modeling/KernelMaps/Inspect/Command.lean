import KernelMaps.Inspect.Dump

/-!
# Commands on maps

The commands other than dumps: show the metadata of one map or of all, take one entry out, make a
map read-only, create and pin a map, and tell how full a map is.
-/

namespace KernelMaps
namespace Inspect

/-- The metadata of a map. -/
def showInfo (host : Host σ) (target : Target) : Task σ MapInfo :=
  target.use host fun map => pure map.info

/--
The metadata of the maps with identifiers above `start`, for at most `patience` steps. A map that
cannot be opened any more is left out and noted.
-/
def listFrom (host : Host σ) : Nat → UInt32 → Task σ (List MapInfo)
  | 0, _ => Task.fail .unending
  | patience + 1, start => do
      let (status, id) ← Task.lift (host.nextId start)
      let ended ← Task.attempt (status.isErrno Errno.noEntry)
      if ended then pure []
      else do
        let _ ← Task.check "bpf_map_get_next_id" status
        let status ← Task.lift (host.openId id)
        let opened ← Task.attempt (Handle.ofStatus "bpf_map_get_fd_by_id" status)
        match opened with
        | .error error => do
            Task.lift (host.tell (.skipped id error))
            listFrom host patience id
        | .ok handle => do
            let info ← Task.holding host handle (Task.info host)
            let rest ← listFrom host patience id
            pure (info :: rest)

/-- The metadata of all maps, in the order of their identifiers. -/
def list (host : Host σ) : Task σ (List MapInfo) := do
  let patience ← Dump.patience host
  listFrom host patience 0

/-- Take out the entry of a key that is given in hexadecimal. -/
def deleteKey (host : Host σ) (target : Target) (key : String) : Task σ Unit :=
  target.use host fun map => do
    let key ← Task.ofExcept .keyUnreadable (Hex.parse key)
    Task.require (key.length = map.info.keySize.toNat)
      (.keyLength key.length map.info.id map.info.keySize)
    let status ← Task.lift (host.delete map.descriptor key)
    let _ ← Task.check "bpf_map_delete_elem" status

/-- Make a map read-only. -/
def freeze (host : Host σ) (target : Target) : Task σ Unit :=
  target.use host fun map => do
    let status ← Task.lift (host.freeze map.descriptor)
    let _ ← Task.check "bpf_map_freeze" status

/-- What a command that creates a map is told. -/
structure Creation where
  path : String
  mapType : UInt32
  keySize : UInt32
  valueSize : UInt32
  maxEntries : UInt32
  name : Option String := none
  mapFlags : UInt32 := 0
  deriving DecidableEq, Repr

/-- The options with which the map is created. -/
def Creation.options (creation : Creation) : CreateOptions where
  mapType := creation.mapType
  keySize := creation.keySize
  valueSize := creation.valueSize
  maxEntries := creation.maxEntries
  mapFlags := creation.mapFlags
  name := creation.name

/-- Pin a map, after making the directory that its path lies in. -/
def pin (host : Host σ) (machine : Machine) (descriptor : Descriptor) (path : String) :
    Task σ Unit := do
  match FilePath.parent? path with
  | none => pure ()
  | some parent =>
      match machine.directoryError parent with
      | none => pure ()
      | some error => Task.fail (.directoryUncreated parent error)
  let status ← Task.lift (host.pin descriptor path)
  let pinned ← Task.attempt status.toResult
  let _ ← Task.ofExcept (fun errno => .unpinned path (.os errno)) pinned

/-- Create a map and pin it, and show its metadata. -/
def create (host : Host σ) (machine : Machine) (creation : Creation) : Task σ MapInfo := do
  Task.require (0 < creation.valueSize) .zeroValueSize
  Task.require (0 < creation.maxEntries) .zeroMaxEntries
  let status ← Task.lift (host.create creation.options)
  let handle ← Task.own .uncreated "bpf_map_create" status
  Task.holding host handle fun descriptor => do
    pin host machine descriptor creation.path
    Task.info host descriptor

/-- How full a map is. -/
structure Gauge where
  label : String
  count : Nat
  maxEntries : UInt32
  deriving DecidableEq, Repr

/-- What a map is called: its name if it is known, or else its identifier. -/
def label (info : MapInfo) : String :=
  info.name.getD (toString info.id)

/-- The line that tells how full a map was at some time. -/
def Gauge.line (time : String) (gauge : Gauge) : String :=
  "[" ++ time ++ "] map " ++ gauge.label ++ " - " ++ toString gauge.count ++ "/" ++
    toString gauge.maxEntries ++ " entries"

/-- Tell how full a map is. -/
def watch (host : Host σ) (target : Target) : Task σ Gauge :=
  target.use host fun map => do
    let count ← Dump.count host map.descriptor map.info.keySize
    pure ⟨label map.info, count, map.info.maxEntries⟩

end Inspect
end KernelMaps
