import KernelMaps.Proofs.Targets

/-!
# The lives of handles

A program makes handles, uses them, and ends them by closing or by taking the
descriptor out. Whatever its host answers, a handle gives its descriptor back at
most once, and it does so once if it is closed or dropped before its descriptor
was taken out. After that it puts no more calls.
-/

namespace KernelMaps

/-- What a program does with its handles, which it names by numbers in the order
in which they are made. -/
inductive Deed
  /-- A call is put that does not come from a handle. -/
  | put (call : Call)
  /-- A handle is made for a descriptor. -/
  | wrap (descriptor : Descriptor)
  /-- A handle takes a descriptor over from another kind of owner. -/
  | adopt (descriptor : Descriptor)
  /-- A handle is made for the descriptor that a status carries, if it does. -/
  | accept (call : String) (status : Status)
  | value (name : Nat)
  | close (name : Nat)
  | drop (name : Nat)
  | intoRaw (name : Nat)
  /-- The descriptor is passed on to another kind of owner. -/
  | convert (name : Nat)
  | tryClone (name : Nat)
  deriving DecidableEq, Repr

/-- What one deed came to. -/
structure Record where
  deed : Deed
  /-- What the handle that the deed is about owned before. -/
  owned : Option Descriptor
  /-- The calls that were put, with their outcomes. -/
  calls : List (Call × Outcome)
  /-- The descriptor that the deed gives, or why it gives none. -/
  result : Option (Except HandleError Descriptor)

/-- The handles of a program, and the state of its host. -/
structure Holdings (σ : Type) where
  handles : List Handle
  state : σ

/-- The handle of a name; without a handle the name owns nothing. -/
def handleAt (handles : List Handle) (name : Nat) : Handle :=
  handles[name]?.getD .spent

/-- A host that keeps its calls on record. -/
def Host.recording (host : Host σ) : Host (σ × List (Call × Outcome)) where
  call := fun call state =>
    let answered := host.call call state.1
    (answered.1, (answered.2, state.2 ++ [(call, answered.1.outcome)]))
  note := fun note state => (host.note note state.1, state.2)
  patience := fun state => host.patience state.1

namespace Deed

/-- The handle that a deed is about. -/
def subject? : Deed → Option Nat
  | value name | close name | drop name | intoRaw name | convert name | tryClone name =>
      some name
  | _ => none

/-- Whether a handle is made for a descriptor that the program has. -/
def makes : Deed → Bool
  | wrap _ | adopt _ | accept .. => true
  | _ => false

/-- Whether the handle gives its descriptor back. -/
def closes : Deed → Bool
  | close _ | drop _ => true
  | _ => false

/-- Whether the descriptor is taken out of the handle. -/
def takesOut : Deed → Bool
  | intoRaw _ | convert _ => true
  | _ => false

/-- Whether the handle owns nothing afterwards. -/
def ends (deed : Deed) : Bool :=
  deed.closes || deed.takesOut

/-- What is given back is not taken out. -/
theorem takesOut_of_closes
    {deed : Deed}
    (closes : deed.closes = true) :
    deed.takesOut = false := by
  cases deed <;> first | rfl | cases closes

/-- What is taken out is not given back. -/
theorem closes_of_takesOut
    {deed : Deed}
    (takesOut : deed.takesOut = true) :
    deed.closes = false := by
  cases deed <;> first | rfl | cases takesOut

/-- What a deed gives if the handle owns nothing. -/
def refusal (deed : Deed) : Option (Except HandleError Descriptor) :=
  if deed.closes then none else some (.error .closed)

/-- A new handle comes after those that were made before. If the program stops in the
making, there is neither a handle nor an error. -/
def keep (handles : List Handle) (made : Checked (Except HandleError Handle)) :
    Option (Except HandleError Descriptor) × List Handle :=
  match made with
  | .ok (.ok handle) => (some handle.value, handles ++ [handle])
  | .ok (.error error) => (some (.error error), handles)
  | .error _ => (none, handles)

/-- Do a deed. What is left of a handle is dropped when its descriptor was taken
out. -/
def act (host : Host σ) (handles : List Handle) :
    Deed → Action σ (Option (Except HandleError Descriptor) × List Handle)
  | put call => do
      let _ ← host.issue call
      pure (none, handles)
  | wrap descriptor | adopt descriptor => pure (keep handles (.ok (.ok (.own descriptor))))
  | accept call status => pure (keep handles (Handle.ofStatus call status))
  | value name => pure (some (handleAt handles name).value, handles)
  | close name | drop name => do
      let handle ← (handleAt handles name).close host
      pure (none, handles.set name handle)
  | intoRaw name | convert name => do
      let (result, handle) := (handleAt handles name).intoRaw
      let handle ← handle.close host
      pure (some result, handles.set name handle)
  | tryClone name => do
      let made ← (handleAt handles name).tryClone host
      pure (keep handles made)

/-- Do a deed and record it. -/
def perform (host : Host σ) (deed : Deed) (holdings : Holdings σ) : Record × Holdings σ :=
  let owned := deed.subject?.bind fun name => (handleAt holdings.handles name).descriptor
  let ((result, handles), (state, calls)) :=
    (deed.act host.recording holdings.handles).run (holdings.state, [])
  (⟨deed, owned, calls, result⟩, ⟨handles, state⟩)

end Deed

/-- Do one deed after the other. -/
def performAll (host : Host σ) : List Deed → Holdings σ → List Record × Holdings σ
  | [], holdings => ([], holdings)
  | deed :: deeds, holdings =>
      let (record, next) := deed.perform host holdings
      let (records, last) := performAll host deeds next
      (record :: records, last)

/-! ## One deed -/

/-- What can come of one deed. -/
inductive Turn (host : Host σ) (handles : List Handle) (state : σ) :
    Record → List Handle → σ → Prop
  | called (call : Call) :
      Turn host handles state
        ⟨.put call, none, [(call, ((host.issue call).run state).1.outcome)], none⟩
        handles ((host.issue call).run state).2
  /-- A handle is made. -/
  | made
      {deed : Deed}
      {descriptor : Descriptor}
      (makes : deed.makes = true) :
      Turn host handles state ⟨deed, none, [], some (.ok descriptor)⟩
        (handles ++ [.own descriptor]) state
  /-- No handle is made from a status. -/
  | unmade
      {call : String}
      {status : Status}
      {result : Option (Except HandleError Descriptor)}
      (fails : result.bind Except.toOption = none) :
      Turn host handles state ⟨.accept call status, none, [], result⟩ handles state
  /-- The handle owns nothing, and nothing happens. -/
  | idle
      {deed : Deed}
      {name : Nat}
      (about : deed.subject? = some name)
      (spent : handleAt handles name = .spent) :
      Turn host handles state ⟨deed, none, [], deed.refusal⟩ handles state
  | seen
      {name : Nat}
      {descriptor : Descriptor}
      (live : handleAt handles name = .own descriptor) :
      Turn host handles state ⟨.value name, some descriptor, [], some (.ok descriptor)⟩
        handles state
  /-- The descriptor is given back. -/
  | closed
      {deed : Deed}
      {name : Nat}
      {descriptor : Descriptor}
      (about : deed.subject? = some name)
      (closes : deed.closes = true)
      (live : handleAt handles name = .own descriptor) :
      Turn host handles state
        ⟨deed, some descriptor,
          [(.close descriptor, ((host.issue (.close descriptor)).run state).1.outcome)],
          none⟩
        (handles.set name .spent) (((Handle.own descriptor).close host).run state).2
  /-- The descriptor is taken out. -/
  | takenOut
      {deed : Deed}
      {name : Nat}
      {descriptor : Descriptor}
      (about : deed.subject? = some name)
      (takesOut : deed.takesOut = true)
      (live : handleAt handles name = .own descriptor) :
      Turn host handles state ⟨deed, some descriptor, [], some (.ok descriptor)⟩
        (handles.set name .spent) state
  /-- A second descriptor is asked for. -/
  | cloned
      {name : Nat}
      {descriptor : Descriptor}
      (live : handleAt handles name = .own descriptor)
      {answer : Answer (.duplicate descriptor)}
      {next : σ}
      (answered : (host.issue (.duplicate descriptor)).run state = (answer, next)) :
      Turn host handles state
        ⟨.tryClone name, some descriptor, [(.duplicate descriptor, answer.outcome)],
          (Deed.keep handles (Handle.ofStatus "dup" answer.status)).1⟩
        (Deed.keep handles (Handle.ofStatus "dup" answer.status)).2 next

/-- What a host keeps of an answer: a note, if a command was refused. -/
def Host.noted (host : Host σ) (call : Call) (outcome : Outcome) (state : σ) : σ :=
  match call.kind, outcome with
  | .command number, .error failure => host.note (.refused number failure) state
  | _, _ => state

theorem run_issue_eq (host : Host σ) (call : Call) (state : σ) :
    (host.issue call).run state =
      let answered := host.call call state
      (answered.1, host.noted call answered.1.outcome answered.2) := by
  simp only [Host.issue, Host.tell, Host.noted, StateT.run_bind]
  simp only [StateT.run, bind]
  cases call.kind with
  | close | duplicate => rfl
  | command number => cases (host.call call state).1.outcome <;> rfl

theorem run_issue_recording
    (host : Host σ)
    (call : Call)
    (state : σ)
    (calls : List (Call × Outcome)) :
    (host.recording.issue call).run (state, calls) =
      let issued := (host.issue call).run state
      (issued.1, (issued.2, calls ++ [(call, issued.1.outcome)])) := by
  simp only [run_issue_eq, Host.noted, Host.recording]
  cases call.kind with
  | close | duplicate => rfl
  | command number => cases (host.call call state).1.outcome <;> rfl

/-- A live handle that is closed puts one call and is spent, whatever the answer. -/
theorem run_close_recording
    (host : Host σ)
    (descriptor : Descriptor)
    (state : σ)
    (calls : List (Call × Outcome)) :
    ((Handle.own descriptor).close host.recording).run (state, calls) =
      (.spent, ((((Handle.own descriptor).close host).run state).2,
        calls ++ [(.close descriptor,
          ((host.issue (.close descriptor)).run state).1.outcome)])) := by
  simp only [Handle.close, Handle.own, StateT.run_bind, run_issue_recording]
  simp only [bind]
  cases ((host.issue (.close descriptor)).run state).1.outcome <;> rfl

theorem eq_spent_or_own (handle : Handle) :
    handle = .spent ∨ ∃ descriptor, handle = .own descriptor := by
  obtain ⟨_ | descriptor⟩ := handle
  · exact Or.inl rfl
  · exact Or.inr ⟨descriptor, rfl⟩

/-- A name that owns nothing can be made to own nothing. -/
theorem set_spent
    {handles : List Handle}
    {name : Nat}
    (spent : handleAt handles name = .spent) :
    handles.set name .spent = handles := by
  by_cases bound : name < handles.length
  · rw [handleAt, List.getElem?_eq_getElem bound, Option.getD_some] at spent
    rw [← spent, List.set_getElem_self bound]
  · exact List.set_eq_of_length_le (Nat.le_of_not_lt bound)

/-- What a deed about a handle does is known once its action is. -/
theorem turn_of_act
    {host : Host σ}
    {deed : Deed}
    {handles next : List Handle}
    {state after : σ}
    {name : Nat}
    {handle : Handle}
    {calls : List (Call × Outcome)}
    {result : Option (Except HandleError Descriptor)}
    (about : deed.subject? = some name)
    (found : handleAt handles name = handle)
    (acts : (deed.act host.recording handles).run (state, []) =
      ((result, next), (after, calls)))
    (turn : Turn host handles state ⟨deed, handle.descriptor, calls, result⟩ next after) :
    let performed := deed.perform host ⟨handles, state⟩
    Turn host handles state performed.1 performed.2.handles performed.2.state := by
  rw [Deed.perform, acts, about, Option.bind_some, found]
  exact turn

/-- Every deed takes one of the turns. -/
theorem perform_turn
    (host : Host σ)
    (deed : Deed)
    (handles : List Handle)
    (state : σ) :
    let performed := deed.perform host ⟨handles, state⟩
    Turn host handles state performed.1 performed.2.handles performed.2.state := by
  cases deed with
  | put call =>
      rw [Deed.perform, Deed.act, StateT.run_bind, run_issue_recording]
      exact .called call
  | wrap | adopt => exact .made rfl
  | accept call status =>
      rw [Deed.perform, Deed.act]
      obtain ⟨descriptor, -, made⟩ | ⟨error, none⟩ | ⟨panic, stops⟩ :=
        Handle.ofStatus_cases call status
      · rw [made]
        exact .made rfl
      · rw [none]
        exact .unmade rfl
      · rw [stops]
        exact .unmade rfl
  | value name =>
      obtain spent | ⟨descriptor, live⟩ := eq_spent_or_own (handleAt handles name)
      · exact turn_of_act rfl spent (by rw [Deed.act, spent]; rfl) (.idle rfl spent)
      · exact turn_of_act rfl live (by rw [Deed.act, live]; rfl) (.seen live)
  | close name | drop name =>
      obtain spent | ⟨descriptor, live⟩ := eq_spent_or_own (handleAt handles name)
      · refine turn_of_act rfl spent ?_ (.idle rfl spent)
        rw [Deed.act, spent, Handle.close, Handle.spent, StateT.run_bind]
        exact congrArg (fun kept => ((none, kept), (state, []))) (set_spent spent)
      · refine turn_of_act rfl live ?_ (.closed rfl rfl live)
        rw [Deed.act, live, StateT.run_bind, run_close_recording]
        rfl
  | intoRaw name | convert name =>
      obtain spent | ⟨descriptor, live⟩ := eq_spent_or_own (handleAt handles name)
      · refine turn_of_act rfl spent ?_ (.idle rfl spent)
        rw [Deed.act, spent]
        exact congrArg
          (fun kept => ((some (Except.error HandleError.closed), kept), (state, [])))
          (set_spent spent)
      · exact turn_of_act rfl live (by rw [Deed.act, live]; rfl)
          (.takenOut rfl rfl live)
  | tryClone name =>
      obtain spent | ⟨descriptor, live⟩ := eq_spent_or_own (handleAt handles name)
      · exact turn_of_act rfl spent (by rw [Deed.act, spent]; rfl) (.idle rfl spent)
      · refine turn_of_act rfl live ?_ (.cloned live rfl)
        rw [Deed.act, live]
        simp only [Handle.tryClone, Handle.own, Host.duplicate, Host.issueStatus,
          StateT.run_bind, run_issue_recording]
        rfl

/-! ## The life of one handle -/

namespace Record

/-- Whether a record is about the handle of a name. -/
def isAbout (name : Nat) (record : Record) : Bool :=
  record.deed.subject? == some name

/-- The close calls that a deed puts. -/
def closes (record : Record) : List (Call × Outcome) :=
  record.calls.filter fun pair => pair.1.kind == .close

/-- A handle that owns nothing puts no call and says that it is closed. -/
structure Spent (record : Record) : Prop where
  owned : record.owned = none
  calls : record.calls = []
  result : record.result = record.deed.refusal

end Record

/-- The close calls that come from the handle of a name. -/
def closesOf (name : Nat) (records : List Record) : List (Call × Outcome) :=
  (records.filter (Record.isAbout name)).flatMap Record.closes

/-- A handle gives its descriptor back at most once, and is done with it then. -/
structure ReleasedOnce (name : Nat) (records : List Record) : Prop where
  closes_le : (closesOf name records).length ≤ 1
  /-- Only closing or dropping a live handle puts a close call. -/
  live : ∀ record ∈ records, record.isAbout name → record.closes ≠ [] →
    record.deed.closes ∧ record.owned.isSome
  /-- A live handle that is closed or dropped puts one close call for its
  descriptor, which is the only one that comes from it. -/
  closed : ∀ record ∈ records, record.isAbout name → record.deed.closes →
    ∀ descriptor, record.owned = some descriptor →
      (∃ outcome, record.calls = [(.close descriptor, outcome)]) ∧
        closesOf name records = record.calls
  /-- A handle whose descriptor was taken out puts no close call at all. -/
  takenOut : ∀ record ∈ records, record.isAbout name → record.deed.takesOut →
    ∀ descriptor, record.owned = some descriptor →
      record.result = some (.ok descriptor) ∧ record.calls = [] ∧
        closesOf name records = []
  /-- After either, whatever the kernel answered, the handle owns nothing. -/
  spent : ∀ before record later, records = before ++ record :: later →
    record.isAbout name → record.deed.ends → record.owned.isSome →
      ∀ late ∈ later, late.isAbout name → late.Spent

theorem closesOf_cons_of_closes
    {name : Nat}
    {record : Record}
    (quiet : record.isAbout name → record.closes = [])
    (records : List Record) :
    closesOf name (record :: records) = closesOf name records := by
  rw [closesOf, List.filter_cons]
  split
  · rename_i about
    rw [List.flatMap_cons, quiet about, List.nil_append, closesOf]
  · rfl

theorem closesOf_of_spent
    {name : Nat}
    {records : List Record}
    (spent : ∀ record ∈ records, record.isAbout name → record.Spent) :
    closesOf name records = [] := by
  rw [closesOf, List.flatMap_eq_nil_iff]
  intro record member
  obtain ⟨member, about⟩ := List.mem_filter.1 member
  rw [Record.closes, (spent record member about).calls, List.filter_nil]

theorem releasedOnce_nil (name : Nat) : ReleasedOnce name [] where
  closes_le := Nat.zero_le _
  live := List.forall_mem_nil _
  closed := List.forall_mem_nil _
  takenOut := List.forall_mem_nil _
  spent := by simp

/-- A deed that does not end the handle makes no difference. -/
theorem ReleasedOnce.cons_of_goesOn
    {name : Nat}
    {record : Record}
    {records : List Record}
    (rest : ReleasedOnce name records)
    (quiet : record.isAbout name → record.closes = [])
    (goesOn : record.isAbout name → record.deed.ends → record.owned = none) :
    ReleasedOnce name (record :: records) := by
  have same := closesOf_cons_of_closes quiet records
  refine ⟨by rw [same]; exact rest.closes_le, ?_, ?_, ?_, ?_⟩
  · exact List.forall_mem_cons.2 ⟨fun about put => absurd (quiet about) put, rest.live⟩
  · intro other member about closes descriptor owned
    rcases List.mem_cons.1 member with rfl | later
    · rw [goesOn about (by rw [Deed.ends, closes, Bool.true_or])] at owned
      cases owned
    · rw [same]
      exact rest.closed other later about closes descriptor owned
  · intro other member about takesOut descriptor owned
    rcases List.mem_cons.1 member with rfl | later
    · rw [goesOn about (by rw [Deed.ends, takesOut, Bool.or_true])] at owned
      cases owned
    · rw [same]
      exact rest.takenOut other later about takesOut descriptor owned
  · rintro (_ | ⟨first, before⟩) other later split about ends live
    · obtain ⟨rfl, rfl⟩ := List.cons.inj split
      rw [goesOn about ends] at live
      cases live
    · exact rest.spent before other later (List.cons.inj split).2 about ends live

/-- The deed that ends a handle is the last that comes to anything. -/
theorem releasedOnce_cons_of_ends
    {name : Nat}
    {record : Record}
    {records : List Record}
    {descriptor : Descriptor}
    (about : record.isAbout name)
    (live : record.owned = some descriptor)
    (ends : (record.deed.closes = true ∧ record.deed.takesOut = false ∧
        ∃ outcome, record.calls = [(.close descriptor, outcome)]) ∨
      (record.deed.closes = false ∧ record.calls = [] ∧
        record.result = some (.ok descriptor)))
    (spent : ∀ late ∈ records, late.isAbout name → late.Spent) :
    ReleasedOnce name (record :: records) := by
  have own : closesOf name (record :: records) = record.calls := by
    rw [closesOf, List.filter_cons_of_pos about, List.flatMap_cons]
    rw [← closesOf, closesOf_of_spent spent, List.append_nil, Record.closes]
    obtain ⟨_, _, outcome, calls⟩ | ⟨_, calls, _⟩ := ends <;> rw [calls] <;> rfl
  have others : ∀ late ∈ records, late.isAbout name → ∀ other, late.owned ≠ some other := by
    intro late member lateAbout other owned
    rw [(spent late member lateAbout).owned] at owned
    cases owned
  refine ⟨?_, ?_, ?_, ?_, ?_⟩
  · rw [own]
    obtain ⟨_, _, outcome, calls⟩ | ⟨_, calls, _⟩ := ends <;> rw [calls] <;> simp
  · refine List.forall_mem_cons.2 ⟨fun _ put => ?_, fun late member lateAbout put => ?_⟩
    · obtain ⟨closes, _⟩ | ⟨_, calls, _⟩ := ends
      · exact ⟨closes, by rw [live, Option.isSome_some]⟩
      · rw [Record.closes, calls] at put
        exact absurd rfl put
    · rw [Record.closes, (spent late member lateAbout).calls] at put
      exact absurd rfl put
  · intro other member otherAbout closes otherDescriptor owned
    rcases List.mem_cons.1 member with rfl | later
    · cases Option.some.inj (live.symm.trans owned)
      obtain ⟨_, _, called⟩ | ⟨keeps, _⟩ := ends
      · exact ⟨called, own⟩
      · rw [keeps] at closes
        cases closes
    · exact absurd owned (others other later otherAbout otherDescriptor)
  · intro other member otherAbout takesOut otherDescriptor owned
    rcases List.mem_cons.1 member with rfl | later
    · cases Option.some.inj (live.symm.trans owned)
      obtain ⟨_, keeps, _⟩ | ⟨_, calls, result⟩ := ends
      · rw [keeps] at takesOut
        cases takesOut
      · exact ⟨result, calls, own.trans calls⟩
    · exact absurd owned (others other later otherAbout otherDescriptor)
  · rintro (_ | ⟨first, before⟩) other later split otherAbout _ otherLive
    · obtain ⟨rfl, rfl⟩ := List.cons.inj split
      exact spent
    · obtain ⟨_, rfl⟩ := List.cons.inj split
      obtain ⟨otherDescriptor, owned⟩ := Option.isSome_iff_exists.1 otherLive
      exact absurd owned (others other (by simp) otherAbout otherDescriptor)

/-! ## Whole programs -/

section Turns

variable {host : Host σ} {handles next : List Handle} {state after : σ} {record : Record}

theorem isAbout_iff {name : Nat} :
    record.isAbout name = true ↔ record.deed.subject? = some name := by
  rw [Record.isAbout, beq_iff_eq]

/-- A live handle was made. -/
theorem lt_length_of_live
    {name : Nat}
    {descriptor : Descriptor}
    (live : handleAt handles name = .own descriptor) :
    name < handles.length := by
  by_contra outside
  rw [handleAt, List.getElem?_eq_none (Nat.le_of_not_lt outside)] at live
  cases live

/-- A spent handle stays so. -/
theorem Turn.keeps_spent
    (turn : Turn host handles state record next after)
    {name : Nat}
    (spent : handles[name]? = some .spent) :
    next[name]? = some .spent := by
  obtain ⟨bound, _⟩ := List.getElem?_eq_some_iff.1 spent
  have longer : ∀ handle, (handles ++ [handle])[name]? = some .spent := by
    intro handle
    rw [List.getElem?_append_left bound, spent]
  have shorter : ∀ other, (handles.set other .spent)[name]? = some .spent := by
    intro other
    rw [List.getElem?_set]
    split
    · rename_i same
      rw [same, if_pos bound]
    · exact spent
  cases turn with
  | called | unmade | idle | seen => exact spent
  | made => exact longer _
  | closed | takenOut => exact shorter _
  | @cloned _ _ _ answer =>
      obtain ⟨descriptor, -, made⟩ | ⟨error, none⟩ | ⟨panic, stops⟩ :=
        Handle.ofStatus_cases "dup" answer.status
      · rw [made]
        exact longer _
      · rw [none]
        exact spent
      · rw [stops]
        exact spent

/-- A deed about a handle that owns nothing comes to nothing. -/
theorem Turn.spent
    (turn : Turn host handles state record next after)
    {name : Nat}
    (spent : handleAt handles name = .spent)
    (about : record.isAbout name) :
    record.Spent := by
  have named := isAbout_iff.1 about
  cases turn with
  | called | unmade => cases named
  | @made deed _ makes => cases deed <;> cases makes <;> cases named
  | idle => exact ⟨rfl, rfl, rfl⟩
  | seen live | cloned live =>
      cases named
      cases spent.symm.trans live
  | closed subject _ live | takenOut subject _ live =>
      cases subject.symm.trans named
      cases spent.symm.trans live

end Turns

theorem performAll_cons
    (host : Host σ)
    (deed : Deed)
    (deeds : List Deed)
    (holdings : Holdings σ) :
    performAll host (deed :: deeds) holdings =
      let performed := deed.perform host holdings
      let rest := performAll host deeds performed.2
      (performed.1 :: rest.1, rest.2) := rfl

/-- Once a handle is spent, no deed about it comes to anything. -/
theorem performAll_spent
    (host : Host σ)
    (deeds : List Deed)
    {holdings : Holdings σ}
    {name : Nat}
    (spent : holdings.handles[name]? = some .spent) :
    ∀ record ∈ (performAll host deeds holdings).1, record.isAbout name → record.Spent := by
  induction deeds generalizing holdings with
  | nil => exact List.forall_mem_nil _
  | cons deed deeds inductionHypothesis =>
      have turn := perform_turn host deed holdings.handles holdings.state
      rw [performAll_cons]
      refine List.forall_mem_cons.2 ⟨?_, inductionHypothesis (turn.keeps_spent spent)⟩
      exact turn.spent (by rw [handleAt, spent, Option.getD_some])

/-- Whatever a host answers and in whatever order handles are made, used and
ended, each of them gives its descriptor back at most once. -/
theorem performAll_releasedOnce
    (host : Host σ)
    (deeds : List Deed)
    (holdings : Holdings σ)
    (name : Nat) :
    ReleasedOnce name (performAll host deeds holdings).1 := by
  induction deeds generalizing holdings with
  | nil => exact releasedOnce_nil name
  | cons deed deeds inductionHypothesis =>
      obtain ⟨handles, state⟩ := holdings
      have turn := perform_turn host deed handles state
      have rest := inductionHypothesis (deed.perform host ⟨handles, state⟩).2
      rw [performAll_cons]
      generalize deed.perform host ⟨handles, state⟩ = performed at turn rest ⊢
      obtain ⟨record, next, after⟩ := performed
      have other : ∀ {ended : Nat}, record.deed.subject? = some ended → ended ≠ name →
          ¬ record.isAbout name := by
        intro ended subject different about
        exact different (Option.some.inj (subject.symm.trans (isAbout_iff.1 about)))
      have ended : ∀ {descriptor : Descriptor},
          handleAt handles name = .own descriptor →
            (handles.set name .spent)[name]? = some .spent :=
        fun live => List.getElem?_set_self (lt_length_of_live live)
      -- only the turns that end a handle make a difference to it
      cases turn with
      | called =>
          exact rest.cons_of_goesOn (fun about => nomatch isAbout_iff.1 about)
            fun _ _ => rfl
      | made | unmade | idle => exact rest.cons_of_goesOn (fun _ => rfl) fun _ _ => rfl
      | seen | cloned => exact rest.cons_of_goesOn (fun _ => rfl) nofun
      | @closed deed named descriptor subject closes live =>
          by_cases same : named = name
          · subst same
            exact releasedOnce_cons_of_ends (isAbout_iff.2 subject) rfl
              (Or.inl ⟨closes, Deed.takesOut_of_closes closes, _, rfl⟩)
              (performAll_spent host deeds (ended live))
          · exact rest.cons_of_goesOn (absurd · (other subject same))
              (absurd · (other subject same))
      | @takenOut deed named descriptor subject takesOut live =>
          by_cases same : named = name
          · subst same
            exact releasedOnce_cons_of_ends (isAbout_iff.2 subject) rfl
              (Or.inr ⟨Deed.closes_of_takesOut takesOut, rfl, rfl⟩)
              (performAll_spent host deeds (ended live))
          · exact rest.cons_of_goesOn (absurd · (other subject same))
              (absurd · (other subject same))

end KernelMaps
