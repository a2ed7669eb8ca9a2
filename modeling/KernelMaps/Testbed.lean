import KernelMaps.Abi.MapInfo
import KernelMaps.Host

/-!
# Testbeds

A kernel under test: chosen calls are answered by faults instead of the kernel, metadata can be
altered on their way back, and calls and notes are kept on record.
-/

namespace KernelMaps

/-- A plan to answer some calls of one kind in place of the kernel. -/
structure Fault where
  kind : CallKind
  /-- How many calls pass before the fault strikes. -/
  skip : Nat
  /-- How many calls the fault still answers. -/
  times : Nat
  outcome : Outcome
  /-- The count that a batch request is left with. -/
  count : Option UInt32 := none
  /-- The identifier that a request for the next one is left with. -/
  nextId : Option UInt32 := none

namespace Fault

/--
The fault that strikes a call, and the faults as they stand after it. Only the first fault of the
call's kind that is not used up is looked at.
-/
def strike (kind : CallKind) : List Fault → Option Fault × List Fault
  | [] => (none, [])
  | fault :: rest =>
      if fault.kind = kind ∧ 0 < fault.times then
        if 0 < fault.skip then (none, { fault with skip := fault.skip - 1 } :: rest)
        else (some fault, { fault with times := fault.times - 1 } :: rest)
      else
        let later := strike kind rest
        (later.1, fault :: later.2)

/-- What a fault leaves in the client's memory. -/
def left (fault : Fault) : (call : Call) → call.Left
  | .nextId _ => fault.nextId.getD 0
  | .lookupBatch query => ⟨fault.count.getD query.count, [], [], []⟩
  | .updateBatch _ _ _ count _ => fault.count.getD count
  | .deleteBatch _ _ count _ => fault.count.getD count
  | call => call.untouched

/-- The answer of a fault. -/
def answer (fault : Fault) (call : Call) : Answer call :=
  ⟨fault.outcome, fault.left call⟩

/-- How many calls the faults can still answer. -/
def budget (faults : List Fault) : Nat :=
  faults.foldr (fun fault total => fault.times + total) 0

end Fault

/-- Values that replace those in the metadata of every map. -/
structure InfoPatch where
  mapType : Option UInt32 := none
  id : Option UInt32 := none
  maxEntries : Option UInt32 := none
  mapFlags : Option UInt32 := none
  name : Option Bytes := none
  interface : Option UInt32 := none
  netnsDevice : Option UInt64 := none
  netnsInode : Option UInt64 := none
  btfId : Option UInt32 := none
  btfKeyTypeId : Option UInt32 := none
  btfValueTypeId : Option UInt32 := none
  mapExtra : Option UInt64 := none
  length : Option UInt32 := none
  deriving DecidableEq, Repr

namespace InfoPatch

/-- A record with the replaced values. -/
def onRecord (patch : InfoPatch) (record : MapRecord) : MapRecord :=
  { record with
    mapType := patch.mapType.getD record.mapType
    id := patch.id.getD record.id
    maxEntries := patch.maxEntries.getD record.maxEntries
    mapFlags := patch.mapFlags.getD record.mapFlags
    name := patch.name.getD record.name
    interface := patch.interface.getD record.interface
    netnsDevice := patch.netnsDevice.getD record.netnsDevice
    netnsInode := patch.netnsInode.getD record.netnsInode
    btfId := patch.btfId.getD record.btfId
    btfKeyTypeId := patch.btfKeyTypeId.getD record.btfKeyTypeId
    btfValueTypeId := patch.btfValueTypeId.getD record.btfValueTypeId
    mapExtra := patch.mapExtra.getD record.mapExtra }

/-- What a metadata query leaves, with the replaced values, whether or not they were written. -/
def onLeft (patch : InfoPatch) (left : InfoLeft) : InfoLeft where
  record := (patch.onRecord (MapRecord.decode left.record)).encode
  length := patch.length.getD left.length

/-- The answer to a call, altered if it carries metadata. -/
def onAnswer (patch : InfoPatch) : (call : Call) → Answer call → Answer call
  | .info _ _, ⟨.ok returned, left⟩ => ⟨.ok returned, patch.onLeft left⟩
  | _, answer => answer

end InfoPatch

/-- A kernel under test. -/
structure Testbed where
  kernel : Kernel := {}
  faults : List Fault := []
  patch : Option InfoPatch := none
  /-- The calls answered so far, the latest first. -/
  calls : List (Call × Outcome) := []
  /-- The notes taken so far, the latest first. -/
  notes : List Note := []

namespace Testbed

/-- The answer to a call by a fault, or else by the kernel, and the state after it. -/
def respond (call : Call) (bed : Testbed) : Answer call × Testbed :=
  match Fault.strike call.kind bed.faults with
  | (some fault, faults) => (fault.answer call, { bed with faults })
  | (none, faults) =>
      let (answer, kernel) := bed.kernel.answer call
      ((bed.patch.elim answer fun patch => patch.onAnswer call answer),
        { bed with faults, kernel })

/-- The answer to a call, which goes on record. -/
def answer (call : Call) (bed : Testbed) : Answer call × Testbed :=
  let (answer, bed) := bed.respond call
  (answer, { bed with calls := (call, answer.outcome) :: bed.calls })

/--
The testbed as a host. Without faults a walk takes no more steps than there is to see; each fault
can start it anew.
-/
def host : Host Testbed where
  call := answer
  note := fun note bed => { bed with notes := note :: bed.notes }
  patience := fun bed => (bed.kernel.size + 2) * (Fault.budget bed.faults + 1)

/-- Forget the calls and notes on record. -/
def forget (bed : Testbed) : Testbed :=
  { bed with calls := [], notes := [] }

end Testbed
end KernelMaps
