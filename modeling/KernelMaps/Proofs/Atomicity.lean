import KernelMaps.Proofs.Names
import KernelMaps.Proofs.Quiet
import KernelMaps.Proofs.Requests

/-!
# Failed operations

An operation that is no batch succeeds, or it is refused as a whole: then the kernel and
the memory that the client lent stay as they were. An operation that only reads leaves
the kernel as it is in any case.
-/

namespace KernelMaps

/-! ## Calls -/

/-- A call that is done as a whole or refused as a whole: all calls but batches. -/
def Call.isWhole : Call → Bool
  | .lookupBatch _ | .updateBatch .. | .deleteBatch .. => false
  | _ => true

namespace Kernel

/-- A call was accepted, or it was refused and the kernel stayed as it was. -/
def Settled (kernel : Kernel) {call : Call} (answered : Answer call × Kernel) : Prop :=
  answered.1.status.isOk = true ∨ ∃ errno, answered = (.refuse call errno, kernel)

theorem settled_afterChange
    (call : Call)
    (kernel : Kernel)
    (result : Except Errno Kernel)
    (left : call.Left) :
    kernel.Settled (afterChange call kernel result left) := by
  cases result with
  | error errno => exact Or.inr ⟨errno, rfl⟩
  | ok next => exact Or.inl rfl

theorem settled_afterRead
    (call : Call)
    (kernel : Kernel)
    (result : Except Errno call.Left) :
    kernel.Settled (afterRead call kernel result) := by
  cases result with
  | error errno => exact Or.inr ⟨errno, rfl⟩
  | ok left => exact Or.inl rfl

section Opens

variable
  {kernel : Kernel}
  (spare : kernel.opened < descriptorLimit)

include spare

/-- As long as descriptors are left, a descriptor that is handed out counts as a
success. -/
theorem settled_afterOpen
    (call : Call)
    {result : Except Errno (Descriptor × Kernel)}
    (hands : ∀ {opened}, result = .ok opened → opened.1 = kernel.fresh)
    (left : call.Left) :
    kernel.Settled (afterOpen call kernel result left) := by
  cases result with
  | error errno => exact Or.inr ⟨errno, rfl⟩
  | ok opened =>
      refine Or.inl ?_
      rw [afterOpen, Answer.accept, Answer.status, hands rfl, ofOutcome_fresh]
      exact decide_eq_true (fresh_nonneg spare)

/-- So it does if the map is looked for. -/
theorem settled_afterOpen_of_found
    (call : Call)
    (found : Option Nat)
    (absent : Errno)
    (left : call.Left) :
    kernel.Settled (afterOpen call kernel
      (match found with
        | none => .error absent
        | some place => .ok (kernel.handOut place)) left) := by
  refine settled_afterOpen spare call ?_ left
  intro opened handsOut
  cases found <;> cases handsOut
  rfl

/-- Every call but a batch is accepted, or refused without any effect. -/
theorem answer_settled
    {call : Call}
    (whole : call.isWhole = true) :
    kernel.Settled (kernel.answer call) := by
  cases call with
  | close | update | delete | pin | freeze => exact settled_afterChange _ _ _ _
  | lookup | nextKey | nextId | info => exact settled_afterRead _ _ _
  | duplicate | openPath | openId =>
      exact settled_afterOpen_of_found spare _ _ _ _
  | create spec =>
      refine settled_afterOpen spare _ ?_ _
      intro created creates
      obtain ⟨_, rfl⟩ := creatable_of_create creates
      rfl
  | lookupAndDelete descriptor key =>
      rw [answer]
      cases kernel.delete descriptor key with
      | error errno => exact Or.inr ⟨errno, rfl⟩
      | ok taken => exact Or.inl rfl
  | unknown command => exact Or.inr ⟨Errno.invalid, rfl⟩
  | lookupBatch | updateBatch | deleteBatch => cases whole

end Opens

end Kernel

/-! ## Operations -/

namespace Request

/-- What a client is given if nothing but a status came back. -/
def unanswered : Request → Status → Receipt
  | lookup _ _ buffer _, status | lookupAndDelete _ _ buffer, status
  | nextKey _ _ buffer, status => .read ⟨status, buffer⟩
  | update .., status | delete .., status | freeze _, status => .done status
  | info _, status => .described status {}
  | lookupBatch query token keys values, status =>
      .listed { status, count := query.count, token, keys, values }
  | updateBatch _ _ _ count _, status | deleteBatch _ _ count _, status =>
      .counted status count

/-- An answer that failed and left the memory alone gives nothing but its status. -/
theorem receipt_of_untouched
    (request : Request)
    {answer : Answer request.call}
    (failed : answer.status.isOk = false)
    (untouched : answer.left = request.call.untouched) :
    request.receipt answer = request.unanswered answer.status := by
  cases request with
  | info descriptor =>
      simp only [receipt, infoOf, failed, Bool.false_eq_true, if_false]
      rfl
  | lookup | lookupAndDelete | nextKey | lookupBatch | updateBatch | deleteBatch =>
      rw [receipt, untouched]
      rfl
  | update | delete | freeze => rfl

end Request

/-- An operation of a client, with the memory that is lent for the answer. -/
inductive Operation
  /-- An operation on the entries or the metadata of one map. -/
  | onMap (request : Request)
  | create (options : CreateOptions)
  | duplicate (descriptor : Descriptor)
  | openPath (path : String)
  | pin (descriptor : Descriptor) (path : String)
  | openId (id : UInt32)
  | nextId (start : UInt32)

/-- What a client is given for an operation. -/
inductive Given
  | ofMap (receipt : Receipt)
  | done (status : Status)
  | found (status : Status) (id : UInt32)

/-- The status that a client is given. -/
def Given.status : Given → Status
  | ofMap receipt => receipt.status
  | done status | found status _ => status

namespace Operation

/-- Put an operation to a host. -/
def put (host : Host σ) : Operation → Action σ Given
  | onMap request => Given.ofMap <$> request.put host
  | create options => Given.done <$> host.create options
  | duplicate descriptor => Given.done <$> host.duplicate descriptor
  | openPath path => Given.done <$> host.openPath path
  | pin descriptor path => Given.done <$> host.pin descriptor path
  | openId id => Given.done <$> host.openId id
  | nextId start => (fun found => Given.found found.1 found.2) <$> host.nextId start

/-- The call that an operation puts; a path that holds a zero character is not put to
the kernel. -/
def call? : Operation → Option Call
  | onMap request => some request.call
  | create options => some (.create options.spec)
  | duplicate descriptor => some (.duplicate descriptor)
  | openPath path => if Host.isPath path then some (.openPath path) else none
  | pin descriptor path =>
      if Host.isPath path then some (.pin descriptor path) else none
  | openId id => some (.openId id)
  | nextId start => some (.nextId start)

/-- An operation that is no batch. -/
def isWhole (operation : Operation) : Bool :=
  operation.call?.all Call.isWhole

/-- An operation that asks for something and changes nothing. -/
def reads (operation : Operation) : Bool :=
  operation.call?.any Call.reads

/-- What a client is given if nothing but a status came back. -/
def unanswered : Operation → Status → Given
  | onMap request, status => .ofMap (request.unanswered status)
  | create _, status | duplicate _, status | openPath _, status | pin .., status
  | openId _, status => .done status
  | nextId _, status => .found status 0

/-- An operation that failed changed nothing, and one that reads changed nothing, either
way. -/
structure EndsCleanly
    (operation : Operation)
    (kernel : Kernel)
    (ended : Given × Kernel) : Prop where
  failed : operation.isWhole = true → ended.1.status.isOk = false →
    ended.2 = kernel ∧ ended.1 = operation.unanswered ended.1.status
  read : operation.reads = true → ended.2 = kernel

section Ends

variable
  {kernel : Kernel}
  (spare : kernel.opened < Kernel.descriptorLimit)

include spare

theorem endsCleanly_onMap (request : Request) :
    (onMap request).EndsCleanly kernel (((onMap request).put Kernel.host).run kernel) := by
  rw [put, Action.run_map, Kernel.run_put]
  constructor
  case failed =>
    intro whole failed
    rw [Given.status, request.status_receipt] at failed
    obtain accepted | ⟨errno, refused⟩ := Kernel.answer_settled spare whole
    · rw [failed] at accepted
      cases accepted
    · have untouched : (kernel.answer request.call).1.left = request.call.untouched := by
        rw [refused]
        rfl
      refine ⟨congrArg Prod.snd refused, ?_⟩
      rw [Given.status, request.status_receipt]
      exact congrArg Given.ofMap (request.receipt_of_untouched failed untouched)
  case read => exact fun reads => kernel.answer_of_reads reads

/-- An operation that gives only the status of a call. -/
theorem endsCleanly_of_status
    {operation : Operation}
    (call : Call)
    (puts : operation.put Kernel.host = Given.done <$> Kernel.host.issueStatus call)
    (calls : operation.call? = some call)
    (gives : ∀ status, operation.unanswered status = .done status) :
    operation.EndsCleanly kernel ((operation.put Kernel.host).run kernel) := by
  rw [puts, Action.run_map, Kernel.run_issueStatus]
  constructor
  case failed =>
    intro whole failed
    rw [isWhole, calls, Option.all_some] at whole
    constructor
    · obtain accepted | ⟨errno, refused⟩ := Kernel.answer_settled spare whole
      · exact absurd (accepted.symm.trans failed) (by decide)
      · exact congrArg Prod.snd refused
    · rw [gives]
      rfl
  case read =>
    intro reads
    rw [Operation.reads, calls, Option.any_some] at reads
    exact kernel.answer_of_reads reads

/-- The same, if the call takes a path; one that holds a zero character is not put to the
kernel. -/
theorem endsCleanly_of_path
    {operation : Operation}
    (call : Call)
    {path : String}
    (puts : operation.put Kernel.host = Given.done <$>
      if Host.isPath path then Kernel.host.issueStatus call
      else pure (.ofErrno Errno.invalid))
    (calls : operation.call? = if Host.isPath path then some call else none)
    (gives : ∀ status, operation.unanswered status = .done status) :
    operation.EndsCleanly kernel ((operation.put Kernel.host).run kernel) := by
  by_cases isPath : Host.isPath path = true
  · rw [if_pos isPath] at puts calls
    exact endsCleanly_of_status spare call puts calls gives
  · have ended : (operation.put Kernel.host).run kernel =
        (.done (.ofErrno Errno.invalid), kernel) := by
      rw [puts, if_neg isPath]
      rfl
    rw [ended]
    exact ⟨fun _ _ => ⟨rfl, (gives _).symm⟩, fun _ => rfl⟩

theorem endsCleanly_nextId (start : UInt32) :
    (nextId start).EndsCleanly kernel (((nextId start).put Kernel.host).run kernel) := by
  have settled : kernel.Settled (kernel.answer (.nextId start)) :=
    Kernel.answer_settled spare rfl
  have ended : ((nextId start).put Kernel.host).run kernel =
      let answered := kernel.answer (.nextId start)
      (.found answered.1.status answered.1.left, answered.2) := by
    rw [put, Action.run_map, Host.nextId, Action.run_bind, Kernel.run_issue]
    rfl
  rw [ended]
  constructor
  case failed =>
    intro _ failed
    obtain accepted | ⟨errno, refused⟩ := settled
    · exact absurd (accepted.symm.trans failed) (by decide)
    · rw [refused]
      exact ⟨rfl, rfl⟩
  case read => exact fun _ => kernel.answer_of_reads rfl

end Ends

/-- An operation that is no batch and fails leaves the kernel and the lent memory as they
were, and an operation that reads leaves the kernel as it is, whatever comes back. -/
theorem put_endsCleanly
    {kernel : Kernel}
    (reachable : kernel.Reachable)
    (operation : Operation) :
    operation.EndsCleanly kernel ((operation.put Kernel.host).run kernel) := by
  have spare := reachable.opened_lt
  cases operation with
  | onMap request => exact endsCleanly_onMap spare request
  | create | duplicate | openId =>
      exact endsCleanly_of_status spare _ rfl rfl fun _ => rfl
  | openPath | pin => exact endsCleanly_of_path spare _ rfl rfl fun _ => rfl
  | nextId start => exact endsCleanly_nextId spare start

/-- A value is looked for under a key that is not there, in a kernel with two maps. -/
theorem put_endsCleanly_missingKey :
    let kernel := ({} : Kernel).run Kernel.sampleMoves
    let operation := onMap (.lookupAndDelete 101 [9] [5, 5])
    let ended := (operation.put Kernel.host).run kernel
    kernel.Reachable ∧ operation.EndsCleanly kernel ended ∧
      operation.isWhole = true ∧ ended.1.status = .ofErrno Errno.noEntry ∧
      ended.2 = kernel := by
  intro kernel operation ended
  have reachable : kernel.Reachable := ⟨_, rfl, by decide +kernel⟩
  have cleanly := put_endsCleanly reachable operation
  have status : ended.1.status = .ofErrno Errno.noEntry := by decide +kernel
  have failed : ended.1.status.isOk = false := by
    rw [status]
    decide
  exact ⟨reachable, cleanly, rfl, status, (cleanly.failed rfl failed).1⟩

end Operation

end KernelMaps
