import KernelMaps.Proofs.Handles

/-!
# Owners of descriptors

On the kernel itself a descriptor belongs to a handle, or it was handed out or
taken out of a handle and belongs to nobody yet. If handles are made for
descriptors of the second kind only, then live handles own different descriptors,
all of them open, and every close call of theirs is accepted.
-/

namespace KernelMaps

/-- Whether a call hands a descriptor out. -/
def Call.opens : Call → Bool
  | .duplicate _ | .create _ | .openPath _ | .openId _ => true
  | _ => false

namespace Kernel

/-- What a call other than a close call does to the descriptors. -/
inductive Grants (kernel : Kernel) (call : Call) : Outcome → Kernel → Prop
  | nothing
      {outcome : Outcome}
      {next : Kernel}
      (kept : next.descriptors = kernel.descriptors)
      (counted : next.opened = kernel.opened)
      (refused : call.opens = true → ∃ failure, outcome = .error failure) :
      Grants kernel call outcome next
  | fresh
      {next : Kernel}
      {place : Nat}
      (opens : call.opens = true)
      (handedOut : next.descriptors = (kernel.fresh, place) :: kernel.descriptors)
      (counted : next.opened = kernel.opened + 1) :
      Grants kernel call (.ok kernel.fresh.toInt64) next

theorem Grants.of_kept
    {kernel next : Kernel}
    {call : Call}
    {outcome : Outcome}
    (keeps : call.opens = false)
    (kept : next.descriptors = kernel.descriptors)
    (counted : next.opened = kernel.opened) :
    kernel.Grants call outcome next :=
  .nothing kept counted fun opens => absurd (keeps.symm.trans opens) Bool.false_ne_true

theorem grants_afterOpen
    {kernel : Kernel}
    {call : Call}
    (opens : call.opens = true)
    {result : Except Errno (Descriptor × Kernel)}
    (left : call.Left)
    (hands : ∀ {opened}, result = .ok opened → ∃ place,
      opened.1 = kernel.fresh ∧
        opened.2.descriptors = (kernel.fresh, place) :: kernel.descriptors ∧
        opened.2.opened = kernel.opened + 1) :
    kernel.Grants call (afterOpen call kernel result left).1.outcome
      (afterOpen call kernel result left).2 := by
  cases result with
  | error errno => exact .nothing rfl rfl fun _ => ⟨_, rfl⟩
  | ok opened =>
      obtain ⟨place, descriptor, handedOut, counted⟩ := hands rfl
      rw [afterOpen, Answer.accept, descriptor]
      exact .fresh opens handedOut counted

/-- A call that opens a map which is looked for opens it, or nothing. -/
theorem grants_of_found
    {kernel : Kernel}
    {call : Call}
    (opens : call.opens = true)
    (found : Option Nat)
    (errno : Errno)
    (left : call.Left) :
    let result := match found with
      | none => .error errno
      | some place => .ok (kernel.handOut place)
    kernel.Grants call (afterOpen call kernel result left).1.outcome
      (afterOpen call kernel result left).2 := by
  refine grants_afterOpen opens left ?_
  intro opened handsOut
  cases found with
  | none => cases handsOut
  | some place =>
      cases handsOut
      exact ⟨place, rfl, rfl, rfl⟩

theorem answer_grants
    (kernel : Kernel)
    {call : Call}
    (noClose : call.kind ≠ .close) :
    kernel.Grants call (kernel.answer call).1.outcome (kernel.answer call).2 := by
  have kept : ∀ {descriptor}, call.subject? = some descriptor → call.opens = false →
      kernel.Grants call (kernel.answer call).1.outcome (kernel.answer call).2 := by
    intro descriptor subject keeps
    obtain ⟨descriptors, counted⟩ := @answer_kept kernel call _ subject
    exact .of_kept keeps descriptors counted
  cases call with
  | close descriptor => exact absurd rfl noClose
  | duplicate descriptor => exact grants_of_found rfl _ _ _
  | create spec =>
      refine grants_afterOpen rfl _ ?_
      intro created creates
      obtain ⟨_, rfl⟩ := creatable_of_create creates
      exact ⟨kernel.tables.length, rfl, rfl, rfl⟩
  | openPath path => exact grants_of_found rfl _ _ _
  | openId id => exact grants_of_found rfl _ _ _
  | pin descriptor path =>
      rw [answer, pin]
      cases kernel.resolve descriptor with
      | error errno => exact .of_kept rfl rfl rfl
      | ok found => cases kernel.pins.lookup path <;> exact .of_kept rfl rfl rfl
  | nextId start =>
      rw [answer]
      cases kernel.nextId start <;> exact .of_kept rfl rfl rfl
  | unknown => exact .of_kept rfl rfl rfl
  | _ => exact kept rfl rfl

/-- Descriptors are only ever handed out anew. -/
theorem opened_le_answer (kernel : Kernel) (call : Call) :
    kernel.opened ≤ (kernel.answer call).2.opened := by
  by_cases closing : call.kind = .close
  · cases call <;> cases closing
    rename_i descriptor
    rw [answer, close]
    cases kernel.descriptors.lookup descriptor <;> exact Nat.le_refl _
  · have grants := kernel.answer_grants closing
    generalize (kernel.answer call).1.outcome = outcome at grants
    cases grants with
    | nothing _ counted => exact Nat.le_of_eq counted.symm
    | fresh _ _ counted => exact counted ▸ Nat.le_succ _

/-! ## Descriptors in somebody's hands -/

/-- Different descriptors that are all open. -/
structure Holds (kernel : Kernel) (held : List Descriptor) : Prop where
  valid : kernel.Valid
  distinct : held.Nodup
  opened : ∀ descriptor ∈ held, ∃ place, (descriptor, place) ∈ kernel.descriptors

variable {kernel next : Kernel} {held : List Descriptor} {descriptor : Descriptor}

theorem Holds.perm
    (holds : kernel.Holds held)
    {others : List Descriptor}
    (perm : held.Perm others) :
    kernel.Holds others where
  valid := holds.valid
  distinct := perm.nodup_iff.1 holds.distinct
  opened := fun descriptor member => holds.opened descriptor (perm.mem_iff.2 member)

theorem Holds.of_kept
    (holds : kernel.Holds held)
    (valid : next.Valid)
    (kept : next.descriptors = kernel.descriptors) :
    next.Holds held where
  valid := valid
  distinct := holds.distinct
  opened := by
    rw [kept]
    exact holds.opened

theorem Holds.of_fresh
    (holds : kernel.Holds held)
    (spare : kernel.opened < descriptorLimit)
    (valid : next.Valid)
    {place : Nat}
    (handedOut : next.descriptors = (kernel.fresh, place) :: kernel.descriptors) :
    next.Holds (kernel.fresh :: held) where
  valid := valid
  distinct := by
    refine List.nodup_cons.2 ⟨?_, holds.distinct⟩
    intro member
    obtain ⟨other, opened⟩ := holds.opened _ member
    exact holds.valid.ne_fresh spare opened rfl
  opened := by
    rw [handedOut]
    refine List.forall_mem_cons.2 ⟨⟨place, List.mem_cons_self⟩, ?_⟩
    intro descriptor member
    obtain ⟨other, opened⟩ := holds.opened descriptor member
    exact ⟨other, List.mem_cons_of_mem _ opened⟩

/-- An open descriptor leads to a place. -/
theorem exists_lookup_of_mem
    {place : Nat}
    (opened : (descriptor, place) ∈ kernel.descriptors) :
    ∃ found, kernel.descriptors.lookup descriptor = some found := by
  rw [← Option.isSome_iff_exists, ← Option.ne_none_iff_isSome]
  intro missing
  have differs := List.lookup_eq_none_iff.1 missing _ opened
  simp at differs

/-- A descriptor that is held is taken back when it is closed. -/
theorem Holds.close
    (holds : kernel.Holds (descriptor :: held)) :
    (kernel.answer (.close descriptor)).1.outcome = .ok 0 ∧
      (kernel.answer (.close descriptor)).2.Holds held := by
  obtain ⟨place, opened⟩ := holds.opened descriptor List.mem_cons_self
  obtain ⟨found, leads⟩ := exists_lookup_of_mem opened
  have valid := (answer_step holds.valid (.close descriptor)).valid holds.valid
  rw [answer, Kernel.close, leads] at valid ⊢
  obtain ⟨absent, distinct⟩ := List.nodup_cons.1 holds.distinct
  refine ⟨rfl, valid, distinct, ?_⟩
  intro other member
  obtain ⟨place, opened⟩ := holds.opened other (List.mem_cons_of_mem _ member)
  refine ⟨place, List.mem_filter.2 ⟨opened, ?_⟩⟩
  rw [bne_iff_ne]
  rintro rfl
  exact absent member

/-- A descriptor that is held can be duplicated. -/
theorem Holds.duplicate
    (holds : kernel.Holds held)
    (member : descriptor ∈ held) :
    ∃ place, kernel.answer (.duplicate descriptor) =
      (.accept (.duplicate descriptor) kernel.fresh.toInt64 (),
        (kernel.handOut place).2) := by
  obtain ⟨place, opened⟩ := holds.opened descriptor member
  obtain ⟨found, leads⟩ := exists_lookup_of_mem opened
  refine ⟨found, ?_⟩
  rw [answer, Kernel.duplicate, leads]
  rfl

end Kernel

/-! ## What belongs to nobody -/

/-- Whether a descriptor is closed behind the back of its owner. -/
def Deed.putsClose : Deed → Bool
  | put call => call.kind == .close
  | _ => false

namespace Record

/-- The descriptor that was handed out or taken out of a handle. -/
def released (record : Record) : Option Descriptor :=
  match record.deed with
  | .put call =>
      if call.opens then
        record.calls.head?.bind fun pair => pair.2.toOption.map Int64.toInt32
      else none
  | deed => if deed.takesOut then record.result.bind Except.toOption else none

/-- The descriptor for which a handle was made. -/
def claimed (record : Record) : Option Descriptor :=
  if record.deed.makes then record.result.bind Except.toOption else none

/-- The descriptors that belong to nobody after a deed. -/
def unowned (pool : List Descriptor) (record : Record) : List Descriptor :=
  record.released.toList ++ pool.diff record.claimed.toList

/-- A handle is made only for a descriptor that belongs to nobody, and descriptors
are closed by handles only. -/
structure Fair (pool : List Descriptor) (record : Record) : Prop where
  claims : ∀ descriptor ∈ record.claimed, descriptor ∈ pool
  noClose : record.deed.putsClose = false

theorem fair_iff (pool : List Descriptor) (record : Record) :
    (record.claimed.all pool.contains && !record.deed.putsClose) = true ↔
      record.Fair pool := by
  rw [Bool.and_eq_true, Option.all_eq_true, Bool.not_eq_true']
  constructor
  · rintro ⟨claims, noClose⟩
    exact ⟨fun descriptor claimed => List.contains_iff_mem.1 (claims descriptor claimed),
      noClose⟩
  · intro fair
    exact ⟨fun descriptor claimed =>
      List.contains_iff_mem.2 (fair.claims descriptor claimed), fair.noClose⟩

instance (pool : List Descriptor) (record : Record) : Decidable (record.Fair pool) :=
  decidable_of_iff _ (fair_iff pool record)

end Record

/-- Every deed is fair, if certain descriptors belong to nobody at the start. -/
def Fair : List Descriptor → List Record → Prop
  | _, [] => True
  | pool, record :: records => record.Fair pool ∧ Fair (record.unowned pool) records

instance decidableFair : (pool : List Descriptor) → (records : List Record) →
    Decidable (Fair pool records)
  | _, [] => inferInstanceAs (Decidable True)
  | pool, record :: records =>
      have := decidableFair (record.unowned pool) records
      inferInstanceAs (Decidable (record.Fair pool ∧ Fair (record.unowned pool) records))

/-- The descriptors of the live handles. -/
def owned (handles : List Handle) : List Descriptor :=
  handles.filterMap Handle.descriptor

theorem owned_append_own (handles : List Handle) (descriptor : Descriptor) :
    owned (handles ++ [.own descriptor]) = owned handles ++ [descriptor] := by
  rw [owned, List.filterMap_append]
  rfl

/-- A handle that ends leaves the descriptors of the others. -/
theorem owned_perm_set
    {handles : List Handle}
    {name : Nat}
    {descriptor : Descriptor}
    (live : handleAt handles name = .own descriptor) :
    (owned handles).Perm (descriptor :: owned (handles.set name .spent)) := by
  have bound := lt_length_of_live live
  rw [handleAt, List.getElem?_eq_getElem bound, Option.getD_some] at live
  have split : handles = handles.take name ++ .own descriptor :: handles.drop (name + 1) := by
    rw [← live, ← List.drop_eq_getElem_cons bound, List.take_append_drop]
  rw [List.set_eq_take_append_cons_drop, if_pos bound]
  conv_lhs => rw [split]
  simp only [owned, List.filterMap_append, List.filterMap_cons, Handle.own, Handle.spent]
  exact List.perm_middle

namespace Record

theorem unowned_of_none
    {record : Record}
    (released : record.released = none)
    (claimed : record.claimed = none)
    (pool : List Descriptor) :
    record.unowned pool = pool := by
  rw [unowned, released, claimed]
  rfl

variable {deed : Deed} {descriptor : Descriptor}

theorem claimed_of_makes (makes : deed.makes = true) :
    (Record.mk deed none [] (some (.ok descriptor))).claimed = some descriptor := by
  rw [claimed, if_pos makes]
  rfl

theorem unowned_of_makes (makes : deed.makes = true) (pool : List Descriptor) :
    (Record.mk deed none [] (some (.ok descriptor))).unowned pool =
      pool.erase descriptor := by
  have released : (Record.mk deed none [] (some (.ok descriptor))).released = none := by
    cases deed <;> first | rfl | cases makes
  simp [unowned, released, claimed_of_makes makes]

theorem unowned_of_closes
    (closes : deed.closes = true)
    (calls : List (Call × Outcome))
    (pool : List Descriptor) :
    (Record.mk deed (some descriptor) calls none).unowned pool = pool := by
  cases deed <;> first | exact unowned_of_none rfl rfl pool | cases closes

theorem unowned_of_takesOut (takesOut : deed.takesOut = true) (pool : List Descriptor) :
    (Record.mk deed (some descriptor) [] (some (.ok descriptor))).unowned pool =
      descriptor :: pool := by
  cases deed <;> first | rfl | cases takesOut

theorem unowned_of_refusal
    {name : Nat}
    (about : deed.subject? = some name)
    (pool : List Descriptor) :
    (Record.mk deed none [] deed.refusal).unowned pool = pool := by
  cases deed <;> first | exact unowned_of_none rfl rfl pool | cases about

end Record

/-! ## One deed on the kernel -/

section Turns

variable {handles next : List Handle} {kernel after : Kernel} {record : Record}
variable {pool : List Descriptor}

/-- The kernel stays valid, and its count of descriptors never falls. -/
theorem Turn.grows
    (turn : Turn Kernel.host handles kernel record next after)
    (valid : kernel.Valid) :
    after.Valid ∧ kernel.opened ≤ after.opened := by
  have answered : ∀ call, (kernel.answer call).2.Valid ∧
      kernel.opened ≤ (kernel.answer call).2.opened :=
    fun call => ⟨(Kernel.answer_step valid call).valid valid, kernel.opened_le_answer call⟩
  cases turn with
  | made | unmade | idle | seen | takenOut => exact ⟨valid, Nat.le_refl _⟩
  | called call =>
      rw [Kernel.run_issue]
      exact answered call
  | @closed _ _ descriptor =>
      rw [Kernel.run_closeHandle]
      exact answered (.close descriptor)
  | @cloned _ descriptor _ _ _ issued =>
      rw [Kernel.run_issue] at issued
      have next : (kernel.answer (.duplicate descriptor)).2 = after :=
        congrArg Prod.snd issued
      rw [← next]
      exact answered (.duplicate descriptor)

/-- A put call may hand a descriptor out, which belongs to nobody then. -/
theorem holds_called
    {call : Call}
    {outcome : Outcome}
    (grants : kernel.Grants call outcome after)
    (valid : after.Valid)
    (holds : kernel.Holds (owned handles ++ pool))
    (spare : after.opened ≤ Kernel.descriptorLimit) :
    after.Holds (owned handles ++
      (Record.mk (.put call) none [(call, outcome)] none).unowned pool) := by
  cases grants with
  | nothing kept _ refused =>
      have released :
          (Record.mk (.put call) none [(call, outcome)] none).released = none := by
        simp only [Record.released]
        split
        · rename_i opens
          obtain ⟨failure, rfl⟩ := refused opens
          rfl
        · rfl
      rw [Record.unowned_of_none released rfl]
      exact holds.of_kept valid kept
  | fresh opens handedOut counted =>
      have released : (Record.mk (.put call) none
          [(call, .ok kernel.fresh.toInt64)] none).unowned pool = kernel.fresh :: pool := by
        simp [Record.unowned, Record.released, Record.claimed, Deed.makes, opens,
          Except.toOption]
      rw [released]
      refine (holds.of_fresh ?_ valid handedOut).perm List.perm_middle.symm
      rwa [counted] at spare

/-- A fair deed keeps what is held apart and open, and no close call is refused:
descriptors only change hands, between the handles and nobody. -/
theorem Turn.holds
    (turn : Turn Kernel.host handles kernel record next after)
    (holds : kernel.Holds (owned handles ++ pool))
    (fair : record.Fair pool)
    (spare : after.opened ≤ Kernel.descriptorLimit) :
    after.Holds (owned next ++ record.unowned pool) ∧
      ∀ descriptor outcome, (.close descriptor, outcome) ∈ record.calls →
        outcome = .ok 0 := by
  have valid := (turn.grows holds.valid).1
  cases turn with
  | called call =>
      have noClose : call.kind ≠ .close := beq_eq_false_iff_ne.1 fair.noClose
      rw [Kernel.run_issue] at valid spare ⊢
      refine ⟨holds_called (kernel.answer_grants noClose) valid holds spare, ?_⟩
      intro descriptor outcome member
      cases List.mem_singleton.1 member
      exact absurd rfl noClose
  | @made _ descriptor makes =>
      refine ⟨?_, nofun⟩
      have member := fair.claims descriptor (Record.claimed_of_makes makes)
      rw [Record.unowned_of_makes makes, owned_append_own, List.append_assoc]
      exact holds.perm ((List.perm_cons_erase member).append_left (owned handles))
  | @unmade call status result fails =>
      have claimed : (Record.mk (.accept call status) none [] result).claimed = none := fails
      rw [Record.unowned_of_none rfl claimed]
      exact ⟨holds, nofun⟩
  | seen =>
      rw [Record.unowned_of_none rfl rfl]
      exact ⟨holds, nofun⟩
  | idle about =>
      rw [Record.unowned_of_refusal about]
      exact ⟨holds, nofun⟩
  | closed _ closes live =>
      have held := holds.perm ((owned_perm_set live).append_right pool)
      obtain ⟨accepted, rest⟩ := held.close
      rw [Record.unowned_of_closes closes, Kernel.run_closeHandle]
      refine ⟨rest, ?_⟩
      intro other outcome member
      cases List.mem_singleton.1 member
      rw [Kernel.run_issue]
      exact accepted
  | takenOut _ takesOut live =>
      refine ⟨?_, nofun⟩
      rw [Record.unowned_of_takesOut takesOut]
      exact holds.perm (((owned_perm_set live).append_right pool).trans
        List.perm_middle.symm)
  | @cloned name descriptor live answer _ issued =>
      have member := List.mem_append_left pool
        ((owned_perm_set live).mem_iff.2 List.mem_cons_self)
      obtain ⟨place, answers⟩ := holds.duplicate member
      rw [Kernel.run_issue, answers] at issued
      obtain ⟨rfl, rfl⟩ := Prod.mk.inj issued
      have made : Handle.ofStatus "dup"
          (Answer.accept (.duplicate descriptor) kernel.fresh.toInt64 ()).status =
            .ok (.ok (.own kernel.fresh)) := by
        rw [Answer.accept, Answer.status, Kernel.ofOutcome_fresh]
        exact Handle.ofStatus_of_nonneg "dup" (Kernel.fresh_nonneg spare)
      rw [Record.unowned_of_none rfl rfl, made]
      refine ⟨?_, ?_⟩
      · rw [Deed.keep, owned_append_own, List.append_assoc]
        exact (holds.of_fresh spare valid rfl).perm List.perm_middle.symm
      · intro other outcome member
        cases List.mem_singleton.1 member

end Turns

/-! ## Programs on the kernel -/

theorem opened_le_performAll
    (deeds : List Deed)
    {holdings : Holdings Kernel}
    (valid : holdings.state.Valid) :
    holdings.state.opened ≤ (performAll Kernel.host deeds holdings).2.state.opened := by
  induction deeds generalizing holdings with
  | nil => exact Nat.le_refl _
  | cons deed deeds inductionHypothesis =>
      have turn := perform_turn Kernel.host deed holdings.handles holdings.state
      obtain ⟨nextValid, grows⟩ := turn.grows valid
      exact Nat.le_trans grows (inductionHypothesis nextValid)

/-- Fair deeds keep what is held apart and open, and their close calls succeed. -/
theorem performAll_holds
    (deeds : List Deed)
    {holdings : Holdings Kernel}
    {pool : List Descriptor}
    (holds : holdings.state.Holds (owned holdings.handles ++ pool))
    (fair : Fair pool (performAll Kernel.host deeds holdings).1)
    (spare : (performAll Kernel.host deeds holdings).2.state.opened ≤
      Kernel.descriptorLimit) :
    let ended := performAll Kernel.host deeds holdings
    (∃ left, ended.2.state.Holds (owned ended.2.handles ++ left)) ∧
      ∀ record ∈ ended.1, ∀ descriptor outcome,
        (.close descriptor, outcome) ∈ record.calls → outcome = .ok 0 := by
  induction deeds generalizing holdings pool with
  | nil => exact ⟨⟨pool, holds⟩, List.forall_mem_nil _⟩
  | cons deed deeds inductionHypothesis =>
      have turn := perform_turn Kernel.host deed holdings.handles holdings.state
      obtain ⟨fairDeed, fairRest⟩ := fair
      have grows := opened_le_performAll deeds (turn.grows holds.valid).1
      obtain ⟨nextHolds, accepted⟩ := turn.holds holds fairDeed (Nat.le_trans grows spare)
      obtain ⟨left, closes⟩ := inductionHypothesis nextHolds fairRest spare
      exact ⟨left, List.forall_mem_cons.2 ⟨accepted, closes⟩⟩

/-- Handles release what they own exactly once. On every host, whatever it
answers, a handle puts at most one close call: one if it is closed or dropped while
it is live, and none if its descriptor is taken out before; afterwards it puts no
call and says that it is closed. So, if on the kernel handles are made only for
descriptors that belong to nobody, the live handles own different open descriptors
after every deed, and no close call is ever refused. -/
theorem handles_release_once :
    (∀ {σ : Type} (host : Host σ) (deeds : List Deed) (holdings : Holdings σ) (name : Nat),
      ReleasedOnce name (performAll host deeds holdings).1) ∧
    ∀ {kernel : Kernel}, kernel.Valid → ∀ deeds : List Deed,
      let ended := performAll Kernel.host deeds ⟨[], kernel⟩
      Fair [] ended.1 → ended.2.state.opened ≤ Kernel.descriptorLimit →
        (owned ended.2.handles).Nodup ∧
        (∀ descriptor ∈ owned ended.2.handles, ∃ place table,
          ended.2.state.resolve descriptor = .ok (place, table)) ∧
        ∀ record ∈ ended.1, ∀ descriptor outcome,
          (.close descriptor, outcome) ∈ record.calls → outcome = .ok 0 := by
  refine ⟨performAll_releasedOnce, ?_⟩
  intro kernel valid deeds ended fair spare
  have none : kernel.Holds (owned [] ++ []) := ⟨valid, List.nodup_nil, nofun⟩
  obtain ⟨⟨left, holds⟩, accepted⟩ := performAll_holds deeds none fair spare
  refine ⟨(List.nodup_append.1 holds.distinct).1, ?_, accepted⟩
  intro descriptor member
  obtain ⟨place, opened⟩ := holds.opened descriptor (List.mem_append_left left member)
  obtain ⟨found, leads⟩ := Kernel.exists_lookup_of_mem opened
  exact ⟨found, holds.valid.resolve_isSome leads⟩

/-- Two handles for one map, of which the first is taken out and wrapped again. -/
def twoHandles : List Deed :=
  [.put (.create { mapType := 1, keySize := 1, valueSize := 1, maxEntries := 1 }),
    .accept "bpf_map_create" (.word 101), .tryClone 0, .intoRaw 0, .value 0, .wrap 101,
    .close 2, .close 2, .drop 2, .convert 1, .adopt 102]

theorem handles_release_once_twoHandles :
    let ended := performAll Kernel.host twoHandles ⟨[], {}⟩
    Fair [] ended.1 ∧ ended.2.state.opened ≤ Kernel.descriptorLimit ∧
      owned ended.2.handles = [102] ∧ closesOf 2 ended.1 = [(.close 101, .ok 0)] ∧
      ReleasedOnce 2 ended.1 ∧ (owned ended.2.handles).Nodup ∧
      ∀ record ∈ ended.1, ∀ descriptor outcome,
        (.close descriptor, outcome) ∈ record.calls → outcome = .ok 0 := by
  intro ended
  have fair : Fair [] ended.1 := by decide +kernel
  have spare : ended.2.state.opened ≤ Kernel.descriptorLimit := by decide +kernel
  obtain ⟨apart, _, accepted⟩ :=
    handles_release_once.2 Kernel.valid_empty twoHandles fair spare
  have released := handles_release_once.1 Kernel.host twoHandles ⟨[], {}⟩ 2
  exact ⟨fair, spare, by decide +kernel, by decide +kernel, released, apart, accepted⟩

end KernelMaps
