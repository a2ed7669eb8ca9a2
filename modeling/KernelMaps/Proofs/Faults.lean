import KernelMaps.Proofs.Invariant
import KernelMaps.Testbed

/-!
# Kernels under faults

A fault that refuses a command answers it with an error number in place of the
kernel, which does not see it. So each call to such a testbed is answered by its
kernel, or it is a command that is refused.
-/

namespace KernelMaps

/-- A fault answers commands only, each with an error number. -/
structure Fault.Refuses (fault : Fault) : Prop where
  command : ∃ number, fault.kind = .command number
  outcome : ∃ code errno, fault.outcome = .error ⟨code, .os errno⟩ ∧ 0 < errno

/-- The fault that strikes is one of those planned for the kind of the call, and
counting it down changes neither what it answers nor how. -/
theorem Fault.strike_refuses
    {faults : List Fault}
    (refuses : ∀ fault ∈ faults, fault.Refuses)
    (kind : CallKind) :
    (∀ fault ∈ (strike kind faults).2, fault.Refuses) ∧
      ∀ fault, (strike kind faults).1 = some fault →
        fault.Refuses ∧ fault.kind = kind := by
  induction faults with
  | nil => exact ⟨nofun, nofun⟩
  | cons fault rest inductionHypothesis =>
      obtain ⟨first, others⟩ := List.forall_mem_cons.1 refuses
      obtain ⟨later, struck⟩ := inductionHypothesis others
      rw [strike]
      split
      · rename_i meant
        split
        · exact ⟨List.forall_mem_cons.2 ⟨⟨first.command, first.outcome⟩, others⟩, nofun⟩
        · refine ⟨List.forall_mem_cons.2 ⟨⟨first.command, first.outcome⟩, others⟩, ?_⟩
          rintro _ ⟨⟩
          exact ⟨first, meant.1⟩
      · exact ⟨List.forall_mem_cons.2 ⟨first, later⟩, struck⟩

namespace Testbed

/-- The kernel of a testbed is valid, and its faults refuse commands. -/
structure Sound (bed : Testbed) : Prop where
  valid : bed.kernel.Valid
  refuses : ∀ fault ∈ bed.faults, fault.Refuses

/-- How a call can end: it is answered by the kernel, or it is a command that is
refused and does not reach the kernel. -/
inductive Replies (kernel : Kernel) (call : Call) : Outcome → Kernel → Prop
  | answered :
      Replies kernel call (kernel.answer call).1.outcome (kernel.answer call).2
  | refused
      {number : UInt32}
      {code : Int64}
      {errno : Errno}
      (command : call.kind = .command number)
      (positive : 0 < errno) :
      Replies kernel call (.error ⟨code, .os errno⟩) kernel

theorem outcome_onAnswer
    (patch : InfoPatch)
    (call : Call)
    (answer : Answer call) :
    (patch.onAnswer call answer).outcome = answer.outcome := by
  cases call <;> try rfl
  obtain ⟨outcome | outcome, left⟩ := answer <;> rfl

/-- A call to a sound testbed. -/
theorem Sound.answer
    {bed : Testbed}
    (sound : bed.Sound)
    (call : Call) :
    (bed.answer call).2.Sound ∧
      Replies bed.kernel call (bed.answer call).1.outcome
        (bed.answer call).2.kernel := by
  obtain ⟨refuses, struck⟩ := Fault.strike_refuses sound.refuses call.kind
  rw [Testbed.answer, respond]
  rcases strike : Fault.strike call.kind bed.faults with ⟨_ | fault, faults⟩
  · rw [strike] at refuses
    refine ⟨⟨(Kernel.answer_step sound.valid call).valid sound.valid, refuses⟩, ?_⟩
    cases patched : bed.patch with
    | none => exact .answered
    | some patch =>
        simp only [Option.elim_some, outcome_onAnswer]
        exact .answered
  · rw [strike] at refuses struck
    obtain ⟨refusing, kind⟩ := struck fault rfl
    obtain ⟨number, command⟩ := refusing.command
    obtain ⟨code, errno, outcome, positive⟩ := refusing.outcome
    refine ⟨⟨sound.valid, refuses⟩, ?_⟩
    simp only [Fault.answer, outcome]
    exact .refused (kind.symm.trans command) positive

/-- A note makes no difference to the kernel and its faults. -/
theorem Sound.note
    {bed : Testbed}
    (sound : bed.Sound)
    (notes : List Note) :
    Sound { bed with notes } :=
  ⟨sound.valid, sound.refuses⟩

/-- An issued call is answered, and at most a note is taken of it. -/
theorem run_issue (bed : Testbed) (call : Call) :
    ∃ notes, (Testbed.host.issue call).run bed =
      ((bed.answer call).1, { (bed.answer call).2 with notes }) := by
  simp only [Host.issue, Host.tell, StateT.run_bind]
  simp only [StateT.run, bind]
  have called : Testbed.host.call call bed = bed.answer call := rfl
  rw [called]
  cases call.kind with
  | close | duplicate => exact ⟨_, rfl⟩
  | command number =>
      cases (bed.answer call).1.outcome with
      | ok returned => exact ⟨_, rfl⟩
      | error failure => exact ⟨_, rfl⟩

/-- What an issued call does to a sound testbed. -/
theorem Sound.issue
    {bed : Testbed}
    (sound : bed.Sound)
    (call : Call) :
    ((Testbed.host.issue call).run bed).2.Sound ∧
      Replies bed.kernel call ((Testbed.host.issue call).run bed).1.outcome
        ((Testbed.host.issue call).run bed).2.kernel := by
  obtain ⟨notes, issued⟩ := run_issue bed call
  obtain ⟨answered, replies⟩ := sound.answer call
  rw [issued]
  exact ⟨answered.note notes, replies⟩

end Testbed
end KernelMaps
