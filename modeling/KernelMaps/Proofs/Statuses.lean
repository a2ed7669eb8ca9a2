import KernelMaps.Proofs.Targets

/-!
# What a status tells

A status is one word with a sign. The sign tells whether a call succeeded, and the rest
of the word holds the number that the call returned or the number of its error. There
is room in it for a returned number of 31 bits and for a positive error number. Such
an outcome is told exactly by its status, and every other one is not. At the least word,
which has no negation, the program stops.
-/

namespace KernelMaps

/-- The number by which a failure is told; that of an input/output error stands in if
the failure has none. -/
def Failure.errno (failure : Failure) : Errno :=
  failure.error.errno?.getD Errno.inputOutput

namespace Status

/-- A status is the success of a call that returned a number, and nothing that it is
asked for stops the program. -/
structure Returns (status : Status) (number : Int) : Prop where
  isOk : status.isOk = true
  errno? : status.errno? = .ok none
  /-- The number is not cut on its way into the status. -/
  value : ∃ word, status.value = .ok word ∧ word.toInt = number
  result : ∃ word, status.toResult = .ok (.ok word) ∧ word.toNat = number
  handle : ∀ call, ∃ descriptor : Descriptor,
    Handle.ofStatus call status = .ok (.ok (.own descriptor)) ∧ descriptor.toInt = number

/-- A status is the failure of a call with one error and no other, and nothing that it is
asked for stops the program. -/
structure Reports (status : Status) (errno : Errno) : Prop where
  isOk : status.isOk = false
  errno? : status.errno? = .ok (some errno)
  isErrno : ∀ other, status.isErrno other = .ok (errno == other)
  /-- The error number is negated on its way into the status, and this does not overflow. -/
  value : ∃ word, status.value = .ok word ∧ word.toInt = -errno.toInt
  result : status.toResult = .ok (.error errno)
  handle : ∀ call,
    Handle.ofStatus call status = .ok (.error (.refused call (.os errno)))

/-- A status tells an outcome: whether it was a success, and the number that came with it. -/
def Tells (status : Status) : Outcome → Prop
  | .ok returned => status.Returns returned.toInt
  | .error failure => status.Reports failure.errno

/-- There is room in a status for an outcome. -/
def Holds : Outcome → Prop
  | .ok returned => 0 ≤ returned.toInt ∧ returned.toInt ≤ Int32.maxValue.toInt
  | .error failure => 0 < failure.errno

/-- The status of an outcome has the sign of a success. Of a number that was returned only
the low half counts, and an error number is negated if it has a negation. -/
def LooksOk : Outcome → Prop
  | .ok returned => returned.toInt % UInt32.size ≤ Int32.maxValue.toInt
  | .error failure => failure.errno ≤ 0 ∧ failure.errno ≠ Int32.minValue

/-- The number of an outcome comes down to the least word. -/
def LeastWord : Outcome → Prop
  | .ok returned => returned.toInt % UInt32.size = Int32.maxValue.toInt + 1
  | .error failure => failure.errno = Int32.minValue

theorem toInt_maxValue : Int32.maxValue.toInt = 2147483647 := rfl

theorem isOk_word_iff (value : Int32) : (word value).isOk = true ↔ 0 ≤ value.toInt := by
  rw [isOk, decide_eq_true_iff, Int32.le_iff_toInt_le, Int32.toInt_zero]

theorem errno_pos_iff (errno : Errno) : 0 < errno ↔ 0 < errno.toInt := by
  rw [Int32.lt_iff_toInt_lt, Int32.toInt_zero]

/-- Every number except the least one has a negation. -/
theorem toInt_neg_of_ne_minValue
    {number : Int32}
    (notLeast : number ≠ Int32.minValue) :
    (-number).toInt = -number.toInt := by
  have upper := number.toInt_lt
  have lower := number.le_toInt
  have above : number.toInt ≠ -2 ^ 31 := fun least => notLeast (Int32.toInt_inj.1 least)
  rw [Int32.toInt_neg, Int.bmod_eq_of_le] <;> omega

/-- The status of a failure holds the negated error number, if that is a word. -/
theorem ofOutcome_error
    (failure : Failure)
    (notLeast : failure.errno ≠ Int32.minValue) :
    ofOutcome (.error failure) = word (-failure.errno) := by
  rw [ofOutcome, ← Failure.errno, Checked.negate, if_neg notLeast]

theorem stops_word_iff (value : Int32) : (word value).Stops ↔ value = Int32.minValue := by
  simp [Stops]

theorem ofOutcome_error_of_eq
    (failure : Failure)
    (least : failure.errno = Int32.minValue) :
    ofOutcome (.error failure) = overflowed := by
  rw [ofOutcome, ← Failure.errno, Checked.negate, if_pos least]

/-- A status that is not negative is a success. -/
theorem returns_of_nonneg
    {value : Int32}
    (nonneg : 0 ≤ value) :
    (word value).Returns value.toInt where
  isOk := decide_eq_true nonneg
  errno? := errno?_of_nonneg nonneg
  value := ⟨value, rfl, rfl⟩
  result := by
    refine ⟨_, toResult_of_nonneg nonneg, ?_⟩
    rw [Int32.toNat_toUInt32_of_le nonneg]
    exact Int.toNat_of_nonneg (Int32.le_iff_toInt_le.1 nonneg)
  handle := fun call => ⟨value, Handle.ofStatus_of_nonneg call nonneg, rfl⟩

/-- A negated error number is a failure with this error. -/
theorem reports_of_pos
    {errno : Errno}
    (positive : 0 < errno) :
    (word (-errno)).Reports errno := by
  rw [← ofErrno_of_pos positive]
  refine ⟨isOk_ofErrno positive, errno?_ofErrno positive, isErrno_ofErrno positive, ?value,
    toResult_ofErrno positive, fun call => Handle.ofStatus_ofErrno call positive⟩
  case value =>
    rw [ofErrno_of_pos positive]
    exact ⟨-errno, rfl, toInt_neg_of_pos positive⟩

/-- A number that was returned is held as far as its low half goes. -/
theorem toInt_toInt32 (returned : Int64) :
    returned.toInt32.toInt = returned.toInt.bmod UInt32.size :=
  Int64.toInt_toInt32 returned

theorem isOk_ofOutcome_iff (outcome : Outcome) :
    (ofOutcome outcome).isOk = true ↔ LooksOk outcome := by
  cases outcome with
  | ok returned =>
      rw [ofOutcome, isOk_word_iff, toInt_toInt32, LooksOk, Int.bmod_def, toInt_maxValue,
        UInt32.size]
      split <;> omega
  | error failure =>
      rw [LooksOk]
      by_cases least : failure.errno = Int32.minValue
      · rw [ofOutcome_error_of_eq failure least, least]
        decide
      · rw [ofOutcome_error failure least, isOk_word_iff, toInt_neg_of_ne_minValue least,
          and_iff_left least, Int32.le_iff_toInt_le, Int32.toInt_zero]
        omega

/-- The program stops at a status just when its number comes down to the least word. -/
theorem stops_ofOutcome_iff (outcome : Outcome) :
    (ofOutcome outcome).Stops ↔ LeastWord outcome := by
  cases outcome with
  | ok returned =>
      have least : Int32.minValue.toInt = -2147483648 := rfl
      rw [ofOutcome, stops_word_iff, ← Int32.toInt_inj, least, toInt_toInt32, LeastWord,
        Int.bmod_def, toInt_maxValue, UInt32.size]
      split <;> omega
  | error failure =>
      rw [LeastWord]
      by_cases least : failure.errno = Int32.minValue
      · rw [ofOutcome_error_of_eq failure least]
        exact ⟨fun _ => least, fun _ => Or.inl rfl⟩
      · rw [ofOutcome_error failure least, stops_word_iff]
        refine ⟨fun negated => ?_, fun equal => absurd equal least⟩
        have same : failure.errno = Int32.minValue := by
          rw [← Int32.neg_neg (a := failure.errno), negated]
          rfl
        exact absurd same least

/-- A status gives its error number unless the program stops at it. -/
theorem exists_errno?_iff (status : Status) :
    (∃ errno : Option Errno, status.errno? = .ok errno) ↔ ¬status.Stops := by
  refine ⟨?_, exists_errno?_of_not_stops⟩
  rintro ⟨errno, known⟩ (rfl | rfl)
  · cases known
  · cases known

theorem tells_of_holds
    {outcome : Outcome}
    (holds : Holds outcome) :
    (ofOutcome outcome).Tells outcome := by
  cases outcome with
  | ok returned =>
      obtain ⟨nonneg, small⟩ := holds
      rw [toInt_maxValue] at small
      have same : returned.toInt32.toInt = returned.toInt := by
        rw [Int64.toInt_toInt32, Int.bmod_eq_of_le] <;> omega
      have positive : 0 ≤ returned.toInt32 := by
        rwa [Int32.le_iff_toInt_le, Int32.toInt_zero, same]
      have tells := returns_of_nonneg positive
      rwa [same] at tells
  | error failure =>
      have notLeast : failure.errno ≠ Int32.minValue := ne_minValue_of_pos holds
      rw [ofOutcome_error failure notLeast]
      exact reports_of_pos holds

theorem holds_of_tells
    {outcome : Outcome}
    (tells : (ofOutcome outcome).Tells outcome) :
    Holds outcome := by
  cases outcome with
  | ok returned =>
      obtain ⟨value, held, number⟩ := tells.value
      have cut : returned.toInt32 = value := Except.ok.inj held
      have nonneg := (isOk_word_iff _).1 tells.isOk
      have small := returned.toInt32.toInt_lt
      rw [cut, number] at nonneg small
      exact ⟨nonneg, Int.le_of_lt_add_one small⟩
  | error failure =>
      obtain ⟨value, held, number⟩ := tells.value
      have failed := tells.isOk
      cases status : ofOutcome (.error failure) with
      | overflowed => rw [status] at held; cases held
      | word word =>
          rw [status] at held failed
          cases held
          have negative := mt (isOk_word_iff _).2 (Bool.eq_false_iff.1 failed)
          rw [number] at negative
          rw [Holds, errno_pos_iff]
          omega

/-- An outcome is told by its status if and only if there is room for it: as a success if
and only if it was one, with the number that was returned, or with the number of its
error and no other, and without any overflow. Where there is no room, a success can look
like a failure and a failure like a success, or the program stops when it is asked for
the error number, and these conditions are exact. -/
theorem ofOutcome_tells_iff (outcome : Outcome) :
    ((ofOutcome outcome).Tells outcome ↔ Holds outcome) ∧
      ((ofOutcome outcome).isOk = true ↔ LooksOk outcome) ∧
      ((∃ errno : Option Errno, (ofOutcome outcome).errno? = .ok errno) ↔
        ¬LeastWord outcome) := by
  refine ⟨⟨holds_of_tells, tells_of_holds⟩, isOk_ofOutcome_iff outcome, ?_⟩
  rw [exists_errno?_iff, stops_ofOutcome_iff]

/-- A large number that a call returned is told as an error, a negative error number as
a success, and the error number zero as a success, too. The least error number has no
status at all. -/
theorem ofOutcome_mixes_sides :
    (ofOutcome (.ok 4294967295)).isOk = false ∧
      (ofOutcome (.ok 4294967295)).toResult = .ok (.error Errno.notPermitted) ∧
      (ofOutcome (.error (.ofErrno (-Errno.inputOutput)))).toResult = .ok (.ok 5) ∧
      ofOutcome (.error (.ofErrno 0)) = .ok ∧
      ofOutcome (.error (.ofErrno Int32.minValue)) = .overflowed :=
  ⟨by decide, rfl, rfl, by decide, by decide⟩

end Status
end KernelMaps
