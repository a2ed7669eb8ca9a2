import KernelMaps.Operation.Batch
import KernelMaps.Operation.Element
import KernelMaps.Operation.Object
import KernelMaps.Proofs.Response

/-!
# Operations on the kernel

On the kernel itself an operation is the answer to its one call: notes are
dropped, and nothing else happens. Through a descriptor that is open, it is the
response of one table.
-/

namespace KernelMaps

namespace Action

theorem run_bind
    (action : Action σ α)
    (next : α → Action σ β)
    (state : σ) :
    (action >>= next).run state =
      (next (action.run state).1).run (action.run state).2 := rfl

end Action

/-! ## Statuses -/

namespace Status

section Positive

variable
  {errno : Errno}
  (positive : 0 < errno)

include positive

theorem toInt_neg_of_pos : (-errno).toInt = -errno.toInt := by
  have upper := Int32.toInt_lt errno
  rw [Int32.lt_iff_toInt_lt, Int32.toInt_zero] at positive
  rw [Int32.toInt_neg, Int.bmod_eq_of_le] <;> omega

theorem neg_lt_zero : -errno < 0 := by
  rw [Int32.lt_iff_toInt_lt, toInt_neg_of_pos positive, Int32.toInt_zero]
  rw [Int32.lt_iff_toInt_lt, Int32.toInt_zero] at positive
  omega

theorem ne_minValue_of_pos : errno ≠ Int32.minValue := by
  rintro rfl
  exact absurd positive (by decide)

theorem negate_of_pos : Checked.negate errno = .ok (-errno) :=
  if_neg (ne_minValue_of_pos positive)

/-- A positive error number comes back from its negation. -/
theorem negate_neg_of_pos : Checked.negate (-errno) = .ok errno := by
  have notLeast : -errno ≠ Int32.minValue := by
    intro least
    have upper := Int32.toInt_lt errno
    have negated := toInt_neg_of_pos positive
    rw [least] at negated
    change -2147483648 = -errno.toInt at negated
    omega
  rw [Checked.negate, if_neg notLeast, Int32.neg_neg]

/-- The status of a positive error number holds it negated. -/
theorem ofErrno_of_pos : ofErrno errno = word (-errno) := by
  rw [ofErrno, if_neg (ne_minValue_of_pos positive), if_pos (Int32.le_of_lt positive)]

/-- So does the status of an outcome that has this error number. -/
theorem ofOutcome_error_of_pos
    {failure : Failure}
    (fails : failure.error.errno?.getD Errno.inputOutput = errno) :
    ofOutcome (.error failure) = ofErrno errno := by
  rw [ofOutcome, fails, negate_of_pos positive, ofErrno_of_pos positive]

theorem errno?_ofErrno : (ofErrno errno).errno? = .ok (some errno) := by
  rw [ofErrno_of_pos positive]
  change (if -errno < 0 then _ else _) = _
  rw [if_pos (neg_lt_zero positive), negate_neg_of_pos positive]
  rfl

theorem isOk_ofErrno : (ofErrno errno).isOk = false := by
  rw [ofErrno_of_pos positive]
  exact decide_eq_false (Int32.not_le.2 (neg_lt_zero positive))

theorem isErrno_ofErrno (other : Errno) :
    (ofErrno errno).isErrno other = .ok (errno == other) := by
  rw [isErrno, errno?_ofErrno positive]
  rfl

theorem toResult_ofErrno : (ofErrno errno).toResult = .ok (.error errno) := by
  rw [toResult, errno?_ofErrno positive]
  rfl

end Positive

theorem errno?_of_nonneg
    {value : Int32}
    (nonneg : 0 ≤ value) :
    (word value).errno? = .ok none :=
  if_neg (Int32.not_lt.2 nonneg)

theorem toResult_of_nonneg
    {value : Int32}
    (nonneg : 0 ≤ value) :
    (word value).toResult = .ok (.ok value.toUInt32) := by
  rw [toResult, errno?_of_nonneg nonneg]
  rfl

/-- The statuses that a program cannot go on with: there is no word for one, and the
word of the other has no negation. -/
def Stops (status : Status) : Prop :=
  status = .overflowed ∨ status = .word Int32.minValue

variable {status : Status}

instance (status : Status) : Decidable status.Stops :=
  inferInstanceAs (Decidable (_ ∨ _))

theorem isOk_of_stops (stops : status.Stops) : status.isOk = false := by
  rcases stops with rfl | rfl <;> rfl

theorem isErrno_of_stops (stops : status.Stops) (errno : Errno) :
    status.isErrno errno = .error .overflow := by
  rcases stops with rfl | rfl <;> rfl

/-- Any other status can be asked for its error number. -/
theorem exists_errno?_of_not_stops (goesOn : ¬status.Stops) :
    ∃ failed : Option Errno, status.errno? = .ok failed := by
  cases status with
  | overflowed => exact absurd (Or.inl rfl) goesOn
  | word value =>
      have notLeast : value ≠ Int32.minValue := by
        rintro rfl
        exact goesOn (Or.inr rfl)
      by_cases negative : value < 0
      · refine ⟨some (-value), ?_⟩
        change (if value < 0 then _ else _) = _
        rw [if_pos negative, Checked.negate, if_neg notLeast]
        rfl
      · exact ⟨none, errno?_of_nonneg (Int32.not_lt.1 negative)⟩

theorem exists_isErrno_of_not_stops (goesOn : ¬status.Stops) (errno : Errno) :
    ∃ answer : Bool, status.isErrno errno = .ok answer := by
  obtain ⟨failed, known⟩ := exists_errno?_of_not_stops goesOn
  exact ⟨failed == some errno, by rw [isErrno, known]; rfl⟩

/-- A success is no failure of any kind. -/
theorem isErrno_of_isOk (succeeded : status.isOk = true) (errno : Errno) :
    status.isErrno errno = .ok false := by
  cases status with
  | overflowed => cases succeeded
  | word value =>
      rw [isErrno, errno?_of_nonneg (of_decide_eq_true succeeded)]
      rfl

end Status

namespace Answer

@[simp] theorem status_accept (call : Call) (left : call.Left) :
    (accept call 0 left).status = .ok := rfl

/-- The status of a refusal carries the number of its error. -/
theorem status_refuse
    (call : Call)
    {errno : Errno}
    (positive : 0 < errno) :
    (refuse call errno).status = .ofErrno errno :=
  Status.ofOutcome_error_of_pos positive rfl

theorem isOk_refuse
    (call : Call)
    {errno : Errno}
    (positive : 0 < errno) :
    (refuse call errno).status.isOk = false := by
  rw [status_refuse call positive]
  exact Status.isOk_ofErrno positive

end Answer

/-! ## Calls -/

namespace Kernel

theorem run_issue (kernel : Kernel) (call : Call) :
    (Kernel.host.issue call).run kernel = kernel.answer call := by
  simp only [Host.issue, Host.tell, Kernel.host, StateT.run_bind]
  simp only [StateT.run, bind]
  cases call.kind with
  | close | duplicate => rfl
  | command number => cases (kernel.answer call).1.outcome <;> rfl

theorem run_issueStatus (kernel : Kernel) (call : Call) :
    (Kernel.host.issueStatus call).run kernel =
      ((kernel.answer call).1.status, (kernel.answer call).2) := by
  rw [Host.issueStatus, StateT.run_bind, run_issue]
  rfl

theorem run_lookup
    (kernel : Kernel)
    (descriptor : Descriptor)
    (key buffer : Bytes)
    (flags : UInt64) :
    (Kernel.host.lookup descriptor key buffer flags).run kernel =
      let answered := kernel.answer (.lookup descriptor key flags)
      (⟨answered.1.status, Bytes.overlay answered.1.left buffer⟩, answered.2) := by
  rw [Host.lookup, StateT.run_bind, run_issue]
  rfl

theorem run_updateBatch
    (kernel : Kernel)
    (descriptor : Descriptor)
    (keys values : Bytes)
    (count : UInt32)
    (options : BatchOptions) :
    (Kernel.host.updateBatch descriptor keys values count options).run kernel =
      let answered :=
        kernel.answer (.updateBatch descriptor keys values count options)
      ((answered.1.status, answered.1.left), answered.2) := by
  rw [Host.updateBatch, StateT.run_bind, run_issue]
  rfl

theorem run_deleteBatch
    (kernel : Kernel)
    (descriptor : Descriptor)
    (keys : Bytes)
    (count : UInt32)
    (options : BatchOptions) :
    (Kernel.host.deleteBatch descriptor keys count options).run kernel =
      let answered := kernel.answer (.deleteBatch descriptor keys count options)
      ((answered.1.status, answered.1.left), answered.2) := by
  rw [Host.deleteBatch, StateT.run_bind, run_issue]
  rfl

/-! ## Operations through an open descriptor -/

variable
  {kernel : Kernel}
  {descriptor : Descriptor}
  {place : Nat}
  {table : Table}

/-- A value at the start of the lent buffer, or an error and the buffer as it
was. -/
theorem run_lookup_fit
    (opened : kernel.resolve descriptor = .ok (place, table))
    (key buffer : Bytes)
    (flags : UInt64) :
    (Kernel.host.lookup descriptor key buffer flags).run kernel =
      match table.find? (key.fit table.keySize) with
      | some value => (⟨.ok, Bytes.overlay value buffer⟩, kernel)
      | none => (⟨.ofErrno Errno.noEntry, buffer⟩, kernel) := by
  rw [run_lookup, answer_resolved rfl opened]
  simp only [Table.respond, Table.attempt]
  cases table.find? (key.fit table.keySize) with
  | some value => simp [Answer.accept, replace_self opened]; rfl
  | none => simp [Answer.refuse, replace_self opened]; rfl

theorem run_lookup_resolved
    (opened : kernel.resolve descriptor = .ok (place, table))
    {key : Bytes}
    (width : key.length = table.keySize)
    (buffer : Bytes)
    (flags : UInt64) :
    (Kernel.host.lookup descriptor key buffer flags).run kernel =
      match table.find? key with
      | some value => (⟨.ok, Bytes.overlay value buffer⟩, kernel)
      | none => (⟨.ofErrno Errno.noEntry, buffer⟩, kernel) := by
  rw [run_lookup_fit opened, Bytes.fit_of_length width]

theorem run_update_resolved
    (opened : kernel.resolve descriptor = .ok (place, table))
    (key value : Bytes)
    (flags : UInt64) :
    (Kernel.host.update descriptor key value flags).run kernel =
      match table.update (key.fit table.keySize) (value.fit table.valueSize)
        flags with
      | .ok next => (.ok, kernel.replace place next)
      | .error errno => (.ofOutcome (outcomeOf (some errno)), kernel) := by
  rw [Host.update, run_issueStatus, answer_resolved rfl opened]
  simp only [Table.respond, Table.attempt]
  cases table.update (key.fit table.keySize) (value.fit table.valueSize) flags with
  | ok next => rfl
  | error errno => exact congrArg (Prod.mk _) (replace_self opened)

theorem run_delete_resolved
    (opened : kernel.resolve descriptor = .ok (place, table))
    (key : Bytes) :
    (Kernel.host.delete descriptor key).run kernel =
      match table.delete (key.fit table.keySize) with
      | .ok taken => (.ok, kernel.replace place taken.2)
      | .error errno => (.ofOutcome (outcomeOf (some errno)), kernel) := by
  rw [Host.delete, run_issueStatus, answer_resolved rfl opened]
  simp only [Table.respond, Table.attempt]
  cases table.delete (key.fit table.keySize) with
  | ok taken => rfl
  | error errno => exact congrArg (Prod.mk _) (replace_self opened)

/-- The value that was taken out at the start of the lent buffer, or an error and
the buffer as it was. -/
theorem run_lookupAndDelete_resolved
    (opened : kernel.resolve descriptor = .ok (place, table))
    (key buffer : Bytes) :
    (Kernel.host.lookupAndDelete descriptor key buffer).run kernel =
      match table.delete (key.fit table.keySize) with
      | .ok taken =>
          (⟨.ok, Bytes.overlay taken.1 buffer⟩, kernel.replace place taken.2)
      | .error errno => (⟨.ofOutcome (outcomeOf (some errno)), buffer⟩, kernel) := by
  rw [Host.lookupAndDelete, StateT.run_bind, run_issue, answer_resolved rfl opened]
  simp only [Table.respond, Table.attempt]
  cases table.delete (key.fit table.keySize) with
  | ok taken => rfl
  | error errno => exact congrArg (Prod.mk _) (replace_self opened)

theorem run_freeze_resolved
    (opened : kernel.resolve descriptor = .ok (place, table)) :
    (Kernel.host.freeze descriptor).run kernel =
      match table.freeze with
      | .ok next => (.ok, kernel.replace place next)
      | .error errno => (.ofOutcome (outcomeOf (some errno)), kernel) := by
  rw [Host.freeze, run_issueStatus, answer_resolved rfl opened]
  simp only [Table.respond, Table.attempt]
  cases table.freeze with
  | ok next => rfl
  | error errno => exact congrArg (Prod.mk _) (replace_self opened)

/-- The next key at the start of the lent buffer, or an error and the buffer as
it was. -/
theorem run_nextKey_resolved
    (opened : kernel.resolve descriptor = .ok (place, table))
    (key : Option Bytes)
    (buffer : Bytes) :
    (Kernel.host.nextKey descriptor key buffer).run kernel =
      match table.nextKey (key.map fun key => key.fit table.keySize) with
      | .ok next => (⟨.ok, Bytes.overlay next buffer⟩, kernel)
      | .error errno => (⟨.ofOutcome (outcomeOf (some errno)), buffer⟩, kernel) := by
  rw [Host.nextKey, StateT.run_bind, run_issue, answer_resolved rfl opened]
  simp only [Table.respond, Table.attempt]
  cases table.nextKey (key.map fun key => key.fit table.keySize) with
  | ok next => exact congrArg (Prod.mk _) (replace_self opened)
  | error errno => exact congrArg (Prod.mk _) (replace_self opened)

theorem run_updateBatch_resolved
    (opened : kernel.resolve descriptor = .ok (place, table))
    (keys values : Bytes)
    (count : UInt32)
    (options : BatchOptions) :
    (Kernel.host.updateBatch descriptor keys values count options).run kernel =
      let ended :=
        table.updateBatch options.elementFlags count.toNat keys values
      ((.ofOutcome (outcomeOf ended.1.error), leftCount count ended.1),
        kernel.replace place ended.2) := by
  rw [run_updateBatch, answer_resolved rfl opened]
  rfl

theorem run_deleteBatch_resolved
    (opened : kernel.resolve descriptor = .ok (place, table))
    (keys : Bytes)
    (count : UInt32)
    (options : BatchOptions) :
    (Kernel.host.deleteBatch descriptor keys count options).run kernel =
      let ended := table.deleteBatch count.toNat keys
      ((.ofOutcome (outcomeOf ended.1.error), leftCount count ended.1),
        kernel.replace place ended.2) := by
  rw [run_deleteBatch, answer_resolved rfl opened]
  rfl

end Kernel
end KernelMaps
