import KernelMaps.Operation.Metadata
import KernelMaps.Operation.Object
import KernelMaps.Proofs.Operations

/-!
# Requests on one map

What a client can ask of the map behind a descriptor, as data, and what it is
given. A request puts one call, and what the client is given depends on nothing
but the answer to this call.
-/

namespace KernelMaps

/-- An operation on the entries or the metadata of one map, with the memory that
is lent for the answer. -/
inductive Request
  | lookup (descriptor : Descriptor) (key buffer : Bytes) (flags : UInt64)
  | update (descriptor : Descriptor) (key value : Bytes) (flags : UInt64)
  | delete (descriptor : Descriptor) (key : Bytes)
  | lookupAndDelete (descriptor : Descriptor) (key buffer : Bytes)
  | nextKey (descriptor : Descriptor) (key : Option Bytes) (buffer : Bytes)
  | freeze (descriptor : Descriptor)
  | info (descriptor : Descriptor)
  /-- Entries are read, or taken out, as the query says. -/
  | lookupBatch (query : BatchQuery) (token keys values : Bytes)
  | updateBatch (descriptor : Descriptor) (keys values : Bytes) (count : UInt32)
      (options : BatchOptions)
  | deleteBatch (descriptor : Descriptor) (keys : Bytes) (count : UInt32)
      (options : BatchOptions)
  deriving DecidableEq, Repr

/-- What a client is given for a request. -/
inductive Receipt
  | done (status : Status)
  | read (reply : Reply)
  | described (status : Status) (info : MapInfo)
  | counted (status : Status) (count : UInt32)
  | listed (reply : BatchReply)
  deriving DecidableEq, Repr

/-- The status that a client is given. -/
def Receipt.status : Receipt → Status
  | done status | described status _ | counted status _ => status
  | read reply => reply.status
  | listed reply => reply.status

theorem Action.run_map
    (function : α → β)
    (action : Action σ α)
    (state : σ) :
    (function <$> action).run state =
      (function (action.run state).1, (action.run state).2) := rfl

namespace Request

/-- The descriptor that a request goes through. -/
def descriptor : Request → Descriptor
  | lookup descriptor .. | update descriptor .. | delete descriptor _
  | lookupAndDelete descriptor .. | nextKey descriptor .. | freeze descriptor
  | info descriptor | updateBatch descriptor .. | deleteBatch descriptor .. => descriptor
  | lookupBatch query .. => query.descriptor

/-- Put a request to a host. -/
def put (host : Host σ) : Request → Action σ Receipt
  | lookup descriptor key buffer flags =>
      Receipt.read <$> host.lookup descriptor key buffer flags
  | update descriptor key value flags =>
      Receipt.done <$> host.update descriptor key value flags
  | delete descriptor key => Receipt.done <$> host.delete descriptor key
  | lookupAndDelete descriptor key buffer =>
      Receipt.read <$> host.lookupAndDelete descriptor key buffer
  | nextKey descriptor key buffer => Receipt.read <$> host.nextKey descriptor key buffer
  | freeze descriptor => Receipt.done <$> host.freeze descriptor
  | info descriptor =>
      (fun described => Receipt.described described.1 described.2) <$> host.info descriptor
  | lookupBatch query token keys values =>
      Receipt.listed <$> host.lookupBatch query token keys values
  | updateBatch descriptor keys values count options =>
      (fun counted => Receipt.counted counted.1 counted.2) <$>
        host.updateBatch descriptor keys values count options
  | deleteBatch descriptor keys count options =>
      (fun counted => Receipt.counted counted.1 counted.2) <$>
        host.deleteBatch descriptor keys count options

/-- The call that a request puts. -/
def call : Request → Call
  | lookup descriptor key _ flags => .lookup descriptor key flags
  | update descriptor key value flags => .update descriptor key value flags
  | delete descriptor key => .delete descriptor key
  | lookupAndDelete descriptor key _ => .lookupAndDelete descriptor key
  | nextKey descriptor key _ => .nextKey descriptor key
  | freeze descriptor => .freeze descriptor
  | info descriptor => .info descriptor (UInt32.ofNat MapRecord.size)
  | lookupBatch query .. => .lookupBatch query
  | updateBatch descriptor keys values count options =>
      .updateBatch descriptor keys values count options
  | deleteBatch descriptor keys count options =>
      .deleteBatch descriptor keys count options

/-- The metadata in the answer to a query, if the status is ok. -/
def infoOf (status : Status) (left : InfoLeft) : MapInfo :=
  if status.isOk then .ofRecord (.decode left.record) left.length else {}

/-- What a client is given if its call is answered like this. -/
def receipt : (request : Request) → Answer request.call → Receipt
  | lookup _ _ buffer _, answer | lookupAndDelete _ _ buffer, answer
  | nextKey _ _ buffer, answer =>
      .read ⟨answer.status, Bytes.overlay answer.left buffer⟩
  | update .., answer | delete .., answer | freeze _, answer => .done answer.status
  | info _, answer => .described answer.status (infoOf answer.status answer.left)
  | lookupBatch _ token keys values, answer =>
      .listed
        { status := answer.status
          count := answer.left.count
          token := Bytes.overlay answer.left.token token
          keys := Bytes.overlay answer.left.keys keys
          values := Bytes.overlay answer.left.values values }
  | updateBatch .., answer | deleteBatch .., answer =>
      .counted answer.status answer.left

@[simp] theorem subject?_call (request : Request) :
    request.call.subject? = some request.descriptor := by
  cases request <;> rfl

/-- A client is given the status of the answer. -/
@[simp] theorem status_receipt (request : Request) (answer : Answer request.call) :
    (request.receipt answer).status = answer.status := by
  cases request <;> rfl

end Request

namespace Kernel

theorem run_info (kernel : Kernel) (descriptor : Descriptor) :
    (Kernel.host.info descriptor).run kernel =
      let answered := kernel.answer (.info descriptor (UInt32.ofNat MapRecord.size))
      ((answered.1.status, Request.infoOf answered.1.status answered.1.left),
        answered.2) := by
  simp only [Host.info, Action.run_bind, run_issue, Request.infoOf]
  split <;> rfl

/-- On the kernel a request is the answer to its call. -/
theorem run_put (kernel : Kernel) (request : Request) :
    (request.put Kernel.host).run kernel =
      let answered := kernel.answer request.call
      (request.receipt answered.1, answered.2) := by
  rw [Request.put.eq_def]
  cases request with
  | update | delete | freeze =>
      simp only [Action.run_map, Host.update, Host.delete, Host.freeze, run_issueStatus]
      rfl
  | lookup | lookupAndDelete | nextKey =>
      simp only [Action.run_map, Host.lookup, Host.lookupAndDelete, Host.nextKey,
        Action.run_bind, run_issue]
      rfl
  | lookupBatch =>
      simp only [Action.run_map, Host.lookupBatch, Action.run_bind, run_issue]
      rfl
  | updateBatch | deleteBatch =>
      simp only [Action.run_map, run_updateBatch, run_deleteBatch]
      rfl
  | info =>
      simp only [Action.run_map, run_info]
      rfl

end Kernel
end KernelMaps
