import KernelMaps.Handle
import KernelMaps.Inspect.Report
import KernelMaps.Operation.Metadata

/-!
# Targets

How a command finds the map that it works on, and the frame of all commands: the map is opened,
its metadata are read, the command does its work, and the descriptor goes back.
-/

namespace KernelMaps

/-- How a command finds a map. -/
inductive Target
  | pin (path : String)
  | id (id : UInt32)
  deriving DecidableEq, Repr

/-- An open map and its metadata. -/
structure OpenMap where
  descriptor : Descriptor
  info : MapInfo
  deriving DecidableEq, Repr

namespace Task

/-- Read the metadata of a map. -/
def info (host : Host σ) (descriptor : Descriptor) : Task σ MapInfo := do
  let (status, info) ← lift (host.info descriptor)
  let _ ← check "bpf_obj_get_info_by_fd" status
  pure info

/-- The handle for the descriptor that a successful status carries. -/
def own (explain : HandleError → Report) (call : String) (status : Status) : Task σ Handle := do
  let owned ← attempt (Handle.ofStatus call status)
  ofExcept explain owned

/-- The descriptor of a handle. -/
def descriptor (handle : Handle) : Task σ Descriptor :=
  ofExcept .handle handle.value

/-- Work with a handle, and close it afterwards. -/
def holding (host : Host σ) (handle : Handle) (work : Descriptor → Task σ α) : Task σ α :=
  ensuring (do let _ ← handle.close host) (do
    let descriptor ← descriptor handle
    work descriptor)

end Task

namespace Target

/-- A handle for the map. -/
def openHandle (host : Host σ) : Target → Task σ Handle
  | .pin path => do
      let status ← Task.lift (host.openPath path)
      Task.own (.pinUnopened path) "bpf_obj_get" status
  | .id number => do
      let status ← Task.lift (host.openId number)
      Task.own (.idUnopened number) "bpf_map_get_fd_by_id" status

/-- Work with the map, whose descriptor goes back afterwards. -/
def use (host : Host σ) (target : Target) (work : OpenMap → Task σ α) : Task σ α := do
  let handle ← target.openHandle host
  Task.holding host handle fun descriptor => do
    let info ← Task.info host descriptor
    Task.lift (host.tell (.opened info.id descriptor info.mapType))
    work ⟨descriptor, info⟩

end Target
end KernelMaps
