import KernelMaps.Proofs.Ownership
import KernelMaps.Proofs.Requests

/-!
# Names of maps

A map is named by its open descriptors, by the paths that it is pinned to, and by
its identifier. As long as descriptors are left to hand out, none is handed out
twice, so a descriptor that was closed never comes to name another map. Paths and
identifiers name the same map for good.
-/

namespace KernelMaps
namespace Kernel

/-! ## Descriptors that are handed out -/

/-- The descriptor that a move hands out, if it does. -/
def grantedBy (kernel : Kernel) : Move → Option Descriptor
  | .call call =>
      let status := (kernel.answer call).1.status
      if call.opens && status.isOk then status.value.toOption else none
  | .limitInfo _ | .sizeBuckets _ => none

/-- The descriptors that a series of moves hands out, one after the other. -/
def granted : Kernel → List Move → List Descriptor
  | _, [] => []
  | kernel, move :: moves =>
      (kernel.grantedBy move).toList ++ (kernel.after move).granted moves

/-- The descriptor was handed out before. -/
def Issued (kernel : Kernel) (descriptor : Descriptor) : Prop :=
  ∃ number < kernel.opened, descriptor = Int32.ofNat (firstDescriptor + number)

/-- The descriptor was handed out before, and it is not open any more. -/
structure Retired (kernel : Kernel) (descriptor : Descriptor) : Prop where
  issued : kernel.Issued descriptor
  closed : kernel.descriptors.lookup descriptor = none

/-- What a move does to the descriptors, and the one that it hands out. -/
inductive Hands (kernel : Kernel) (move : Move) : Option Descriptor → Kernel → Prop
  | nothing
      {next : Kernel}
      (kept : next.descriptors = kernel.descriptors)
      (counted : next.opened = kernel.opened) :
      Hands kernel move none next
  | fresh
      {next : Kernel}
      {place : Nat}
      (handedOut : next.descriptors = (kernel.fresh, place) :: kernel.descriptors)
      (counted : next.opened = kernel.opened + 1) :
      Hands kernel move (some kernel.fresh) next
  | takesBack
      (descriptor : Descriptor)
      (closes : move = .call (.close descriptor)) :
      Hands kernel move none (kernel.withoutDescriptor descriptor)

/-- A call that opens a map is refused with an error number, or accepted. -/
theorem afterOpen_cases
    {kernel : Kernel}
    {call : Call}
    {result : Except Errno (Descriptor × Kernel)}
    (left : call.Left)
    (positive : ∀ errno, result = .error errno → 0 < errno) :
    (afterOpen call kernel result left).1.status.isOk = false ∨
      ∃ returned, (afterOpen call kernel result left).1.outcome = .ok returned := by
  cases result with
  | error errno => exact Or.inl (Answer.isOk_refuse call (positive errno rfl))
  | ok opened => exact Or.inr ⟨_, rfl⟩

/-- So it is, in particular, if the map is looked for. -/
theorem afterOpen_cases_of_found
    {kernel : Kernel}
    {call : Call}
    (found : Option Nat)
    {absent : Errno}
    (positive : 0 < absent)
    (left : call.Left) :
    let result := match found with
      | none => .error absent
      | some place => .ok (kernel.handOut place)
    (afterOpen call kernel result left).1.status.isOk = false ∨
      ∃ returned, (afterOpen call kernel result left).1.outcome = .ok returned := by
  refine afterOpen_cases left ?_
  intro errno refused
  cases found <;> cases refused
  exact positive

theorem answer_opens_cases
    {kernel : Kernel}
    {call : Call}
    (opens : call.opens = true) :
    (kernel.answer call).1.status.isOk = false ∨
      ∃ returned, (kernel.answer call).1.outcome = .ok returned := by
  cases call <;> cases opens
  case duplicate descriptor => exact afterOpen_cases_of_found _ (by decide) _
  case openPath path => exact afterOpen_cases_of_found _ (by decide) _
  case openId id => exact afterOpen_cases_of_found _ (by decide) _
  case create spec =>
      refine afterOpen_cases _ ?_
      rw [Kernel.create]
      split
      · rintro _ ⟨⟩
        decide
      · split
        · rintro _ ⟨⟩
          decide
        · nofun

/-- A close call leaves all other descriptors as they are. -/
theorem answer_close (kernel : Kernel) (descriptor : Descriptor) :
    (kernel.answer (.close descriptor)).2 = kernel.withoutDescriptor descriptor := by
  rw [answer, close]
  cases closed : kernel.descriptors.lookup descriptor with
  | some place => rfl
  | none =>
      have others : kernel.descriptors.filter (fun pair => pair.1 != descriptor) =
          kernel.descriptors := by
        rw [List.filter_eq_self]
        intro pair member
        exact bne_comm.trans (List.lookup_eq_none_iff.1 closed pair member)
      rw [withoutDescriptor, others]
      rfl

/-- As long as descriptors are left, a move hands out the next one, or none. -/
theorem after_hands
    {kernel : Kernel}
    (spare : kernel.opened < descriptorLimit)
    (move : Move) :
    kernel.Hands move (kernel.grantedBy move) (kernel.after move) := by
  cases move with
  | limitInfo | sizeBuckets => exact .nothing rfl rfl
  | call call =>
      by_cases closing : call.kind = .close
      · cases call <;> cases closing
        rename_i descriptor
        rw [after, answer_close]
        exact .takesBack descriptor rfl
      · have grants := kernel.answer_grants closing
        have refusal := @answer_opens_cases kernel call
        rw [grantedBy, after]
        rw [Answer.status] at refusal ⊢
        generalize (kernel.answer call).1.outcome = outcome at grants refusal ⊢
        generalize (kernel.answer call).2 = next at grants ⊢
        cases grants with
        | nothing kept counted refused =>
            have notGranted : (call.opens && (Status.ofOutcome outcome).isOk) = false := by
              cases opens : call.opens with
              | false => exact Bool.false_and _
              | true =>
                  rw [Bool.true_and]
                  obtain ⟨failure, rfl⟩ := refused opens
                  exact (refusal opens).resolve_right nofun
            rw [notGranted]
            exact .nothing kept counted
        | fresh opens handedOut counted =>
            have granted : (call.opens && Status.isOk (.word kernel.fresh)) = true := by
              rw [opens, Bool.true_and]
              exact decide_eq_true (fresh_nonneg spare)
            rw [ofOutcome_fresh, if_pos granted]
            exact .fresh handedOut counted

/-! ## No descriptor is handed out twice -/

theorem opened_le_after (kernel : Kernel) (move : Move) :
    kernel.opened ≤ (kernel.after move).opened := by
  cases move with
  | call call => exact kernel.opened_le_answer call
  | limitInfo | sizeBuckets => exact Nat.le_refl _

theorem opened_le_run (kernel : Kernel) (moves : List Move) :
    kernel.opened ≤ (kernel.run moves).opened := by
  induction moves generalizing kernel with
  | nil => exact Nat.le_refl _
  | cons move moves inductionHypothesis =>
      exact Nat.le_trans (kernel.opened_le_after move) (inductionHypothesis _)

/-- Descriptors with different numbers differ. -/
theorem descriptor_injOn
    {first second : Nat}
    (firstBound : first < descriptorLimit)
    (secondBound : second < descriptorLimit)
    (equal : Int32.ofNat (firstDescriptor + first) =
      Int32.ofNat (firstDescriptor + second)) :
    first = second := by
  have values := congrArg Int32.toInt equal
  rw [toInt_descriptor firstBound, toInt_descriptor secondBound] at values
  omega

/-- The descriptors that are handed out count on from those before. -/
theorem granted_eq
    {kernel : Kernel}
    (moves : List Move)
    (spare : (kernel.run moves).opened < descriptorLimit) :
    kernel.granted moves =
      (List.range' kernel.opened ((kernel.run moves).opened - kernel.opened)).map
        fun number => Int32.ofNat (firstDescriptor + number) := by
  induction moves generalizing kernel with
  | nil => simp [granted, run]
  | cons move moves inductionHypothesis =>
      have grows := (kernel.after move).opened_le_run moves
      have hands := after_hands (Nat.lt_of_le_of_lt
        (Nat.le_trans (kernel.opened_le_after move) grows) spare) move
      rw [granted, inductionHypothesis spare, run_cons]
      generalize (kernel.after move) = next at grows hands ⊢
      generalize kernel.grantedBy move = handedOut at hands ⊢
      cases hands with
      | nothing _ counted => rw [counted]; rfl
      | takesBack => rfl
      | fresh _ counted =>
          rw [counted] at grows ⊢
          have more : (next.run moves).opened - kernel.opened =
              (next.run moves).opened - (kernel.opened + 1) + 1 := by omega
          rw [more, List.range'_succ, List.map_cons]
          rfl

theorem granted_nodup
    {kernel : Kernel}
    (moves : List Move)
    (spare : (kernel.run moves).opened < descriptorLimit) :
    (kernel.granted moves).Nodup := by
  rw [granted_eq moves spare]
  have bounded : ∀ number ∈ List.range' kernel.opened
      ((kernel.run moves).opened - kernel.opened), number < descriptorLimit := by
    intro number member
    rw [List.mem_range'_1] at member
    omega
  refine List.Nodup.map_on ?_ List.nodup_range'
  intro first firstMember second secondMember equal
  exact descriptor_injOn (bounded first firstMember) (bounded second secondMember) equal

/-! ## What becomes of a descriptor -/

theorem Issued.after
    {kernel : Kernel}
    {descriptor : Descriptor}
    (issued : kernel.Issued descriptor)
    (move : Move) :
    (kernel.after move).Issued descriptor := by
  obtain ⟨number, bound, equal⟩ := issued
  exact ⟨number, Nat.lt_of_lt_of_le bound (kernel.opened_le_after move), equal⟩

theorem Issued.run
    {kernel : Kernel}
    {descriptor : Descriptor}
    (issued : kernel.Issued descriptor)
    (moves : List Move) :
    (kernel.run moves).Issued descriptor := by
  obtain ⟨number, bound, equal⟩ := issued
  exact ⟨number, Nat.lt_of_lt_of_le bound (kernel.opened_le_run moves), equal⟩

/-- What was handed out before is not handed out next. -/
theorem Issued.ne_fresh
    {kernel : Kernel}
    {descriptor : Descriptor}
    (issued : kernel.Issued descriptor)
    (spare : kernel.opened < descriptorLimit) :
    descriptor ≠ kernel.fresh := by
  obtain ⟨number, bound, rfl⟩ := issued
  intro equal
  exact Nat.ne_of_lt bound (descriptor_injOn (Nat.lt_trans bound spare) spare equal)

theorem lookup_withoutDescriptor (kernel : Kernel) (descriptor other : Descriptor) :
    (kernel.withoutDescriptor descriptor).descriptors.lookup other =
      if other = descriptor then none else kernel.descriptors.lookup other := by
  rw [withoutDescriptor]
  induction kernel.descriptors with
  | nil => simp
  | cons pair pairs inductionHypothesis =>
      obtain ⟨name, place⟩ := pair
      rw [List.filter_cons]
      by_cases taken : name = descriptor
      · rw [if_neg (by simp [taken]), inductionHypothesis, ← taken]
        split
        · rfl
        · rename_i differs
          rw [List.lookup_cons, beq_false_of_ne differs]
      · rw [if_pos (bne_iff_ne.2 taken)]
        by_cases same : other = name
        · rw [same, List.lookup_cons_self, List.lookup_cons_self, if_neg taken]
        · rw [List.lookup_cons, List.lookup_cons, beq_false_of_ne same,
            inductionHypothesis]

/-- An open descriptor keeps its map through every move but its own close call. -/
theorem Valid.lookup_after
    {kernel : Kernel}
    (valid : kernel.Valid)
    (spare : kernel.opened < descriptorLimit)
    {move : Move}
    {descriptor : Descriptor}
    (noClose : move ≠ .call (.close descriptor))
    {place : Nat}
    (opened : kernel.descriptors.lookup descriptor = some place) :
    (kernel.after move).descriptors.lookup descriptor = some place := by
  have hands := after_hands spare move
  generalize kernel.grantedBy move = handedOut at hands
  generalize kernel.after move = next at hands ⊢
  cases hands with
  | nothing kept => rw [kept, opened]
  | fresh handedOut =>
      have differs := valid.ne_fresh spare (mem_of_lookup opened)
      rw [handedOut, List.lookup_cons, beq_false_of_ne differs, opened]
  | takesBack other closes =>
      have differs : descriptor ≠ other := by
        rintro rfl
        exact noClose closes
      rw [lookup_withoutDescriptor, if_neg differs, opened]

theorem Valid.lookup_run
    {kernel : Kernel}
    (valid : kernel.Valid)
    {moves : List Move}
    (spare : (kernel.run moves).opened < descriptorLimit)
    {descriptor : Descriptor}
    (noClose : .call (.close descriptor) ∉ moves)
    {place : Nat}
    (opened : kernel.descriptors.lookup descriptor = some place) :
    (kernel.run moves).descriptors.lookup descriptor = some place := by
  induction moves generalizing kernel with
  | nil => exact opened
  | cons move moves inductionHypothesis =>
      obtain ⟨notFirst, notLater⟩ := List.ne_and_not_mem_of_not_mem_cons noClose
      have kept := valid.lookup_after
        (Nat.lt_of_le_of_lt (kernel.opened_le_run (move :: moves)) spare)
        (Ne.symm notFirst) opened
      exact inductionHypothesis ((after_step valid move).valid valid) spare notLater kept

/-- A descriptor that is not open any more is never opened again. -/
theorem Retired.after
    {kernel : Kernel}
    {descriptor : Descriptor}
    (retired : kernel.Retired descriptor)
    (spare : kernel.opened < descriptorLimit)
    (move : Move) :
    (kernel.after move).Retired descriptor where
  issued := retired.issued.after move
  closed := by
    have hands := after_hands spare move
    generalize kernel.grantedBy move = handedOut at hands
    generalize kernel.after move = next at hands ⊢
    cases hands with
    | nothing kept => rw [kept, retired.closed]
    | fresh handedOut =>
        rw [handedOut, List.lookup_cons, beq_false_of_ne (retired.issued.ne_fresh spare),
          retired.closed]
    | takesBack => rw [lookup_withoutDescriptor, retired.closed, ite_self]

theorem Retired.run
    {kernel : Kernel}
    {descriptor : Descriptor}
    (retired : kernel.Retired descriptor)
    {moves : List Move}
    (spare : (kernel.run moves).opened < descriptorLimit) :
    (kernel.run moves).Retired descriptor := by
  induction moves generalizing kernel with
  | nil => exact retired
  | cons move moves inductionHypothesis =>
      exact inductionHypothesis (retired.after
        (Nat.lt_of_le_of_lt (kernel.opened_le_run (move :: moves)) spare) move) spare

/-- A descriptor that is closed some time is not open at the end. -/
theorem Issued.retired_run
    {kernel : Kernel}
    {descriptor : Descriptor}
    (issued : kernel.Issued descriptor)
    {moves : List Move}
    (spare : (kernel.run moves).opened < descriptorLimit)
    (closes : .call (.close descriptor) ∈ moves) :
    (kernel.run moves).Retired descriptor := by
  obtain ⟨before, later, rfl⟩ := List.append_of_mem closes
  rw [run_append, run_cons] at spare ⊢
  refine Retired.run ⟨(issued.run before).after _, ?_⟩ spare
  rw [Kernel.after, answer_close, lookup_withoutDescriptor, if_pos rfl]

/-- Every operation through the descriptor is refused, and changes nothing. -/
structure RefusesAll (kernel : Kernel) (descriptor : Descriptor) : Prop where
  request : ∀ request : Request, request.descriptor = descriptor →
    ((request.put Kernel.host).run kernel).1.status = .ofErrno Errno.badDescriptor ∧
      ((request.put Kernel.host).run kernel).2 = kernel
  duplicate : (Kernel.host.duplicate descriptor).run kernel =
    (.ofErrno Errno.badDescriptor, kernel)
  pin : ∀ path, Host.isPath path = true →
    (Kernel.host.pin descriptor path).run kernel = (.ofErrno Errno.badDescriptor, kernel)
  close : (Kernel.host.issueStatus (.close descriptor)).run kernel =
    (.ofErrno Errno.badDescriptor, kernel)

theorem resolve_of_closed
    {kernel : Kernel}
    {descriptor : Descriptor}
    (closed : kernel.descriptors.lookup descriptor = none) :
    kernel.resolve descriptor = .error Errno.badDescriptor := by
  rw [resolve, closed]

theorem refusesAll_of_closed
    {kernel : Kernel}
    {descriptor : Descriptor}
    (closed : kernel.descriptors.lookup descriptor = none) :
    kernel.RefusesAll descriptor where
  request := by
    rintro request rfl
    have positive : 0 < Errno.badDescriptor := by decide
    rw [run_put, answer_unresolved request.subject?_call (resolve_of_closed closed)]
    exact ⟨(request.status_receipt _).trans (Answer.status_refuse _ positive), rfl⟩
  duplicate := by
    rw [Host.duplicate, run_issueStatus, answer, Kernel.duplicate, closed]
    rfl
  pin := by
    intro path isPath
    rw [Host.pin, if_pos isPath, run_issueStatus, answer, Kernel.pin,
      resolve_of_closed closed]
    rfl
  close := by
    rw [run_issueStatus, answer, Kernel.close, closed]
    rfl

/-! ## Paths and identifiers -/

/-- An operation succeeds with a descriptor for the map at a place. -/
def Opens (kernel : Kernel) (operation : Action Kernel Status) (place : Nat) : Prop :=
  let opened := operation.run kernel
  opened.1.isOk = true ∧
    ∃ descriptor table, opened.1.value = .ok descriptor ∧
      kernel.tables[place]? = some table ∧ opened.2.resolve descriptor = .ok (place, table)

theorem opens_of_handOut
    {kernel : Kernel}
    (spare : kernel.opened < descriptorLimit)
    {operation : Action Kernel Status}
    {place : Nat}
    (handsOut : operation.run kernel = (.word kernel.fresh, (kernel.handOut place).2))
    {table : Table}
    (present : kernel.tables[place]? = some table) :
    kernel.Opens operation place := by
  rw [Opens, handsOut]
  exact ⟨decide_eq_true (fresh_nonneg spare), kernel.fresh, table, rfl, present,
    resolve_eq_ok_iff.2 ⟨List.lookup_cons_self, present⟩⟩

/-- A path stays pinned to its map. -/
theorem Step.pinned
    {kernel next : Kernel}
    (step : kernel.Step next)
    {path : String}
    {place : Nat}
    (pinned : kernel.pins.lookup path = some place) :
    next.pins.lookup path = some place := by
  cases step with
  | naming naming =>
      cases naming with
      | @pin other _ _ free =>
          have differs : path ≠ other := by
            rintro rfl
            rw [pinned] at free
            cases free
          rw [List.lookup_cons, beq_false_of_ne differs, pinned]
      | stay | create | handOut | close => exact pinned
  | edit | limitInfo | sizeBuckets => exact pinned

theorem Valid.run_pinned
    {kernel : Kernel}
    (valid : kernel.Valid)
    (moves : List Move)
    {path : String}
    {place : Nat}
    (pinned : kernel.pins.lookup path = some place) :
    (kernel.run moves).pins.lookup path = some place := by
  induction moves generalizing kernel with
  | nil => exact pinned
  | cons move moves inductionHypothesis =>
      have step := after_step valid move
      exact inductionHypothesis (step.valid valid) (step.pinned pinned)

/-- Nothing is pinned to a path that is taken. -/
theorem run_pin_of_taken
    {kernel : Kernel}
    {descriptor : Descriptor}
    {found : Nat × Table}
    (opened : kernel.resolve descriptor = .ok found)
    {path : String}
    (isPath : Host.isPath path = true)
    {place : Nat}
    (taken : kernel.pins.lookup path = some place) :
    (Kernel.host.pin descriptor path).run kernel =
      (.ofErrno Errno.alreadyExists, kernel) := by
  rw [Host.pin, if_pos isPath, run_issueStatus, answer, Kernel.pin, opened]
  simp only [bind, Except.bind, taken]
  rfl

/-- If something is pinned to a path, then it is the map behind the descriptor. -/
theorem Valid.run_pin_accepted
    {kernel : Kernel}
    (valid : kernel.Valid)
    {descriptor : Descriptor}
    {path : String}
    (accepted : ((Kernel.host.pin descriptor path).run kernel).1.isOk = true) :
    Host.isPath path = true ∧
      ∃ place table, kernel.resolve descriptor = .ok (place, table) ∧
        (kernel.after (.call (.pin descriptor path))).pins.lookup path = some place := by
  have notRefused : ∀ {errno}, 0 < errno → ∀ {next : Kernel},
      (Kernel.host.pin descriptor path).run kernel ≠ (.ofErrno errno, next) := by
    intro errno positive next refused
    rw [refused, Status.isOk_ofErrno positive] at accepted
    cases accepted
  have isPath : Host.isPath path = true := by
    by_contra noPath
    have refused : (Kernel.host.pin descriptor path).run kernel =
        (.ofErrno Errno.invalid, kernel) := by
      rw [Host.pin, if_neg noPath]
      rfl
    exact notRefused (by decide) refused
  refine ⟨isPath, ?_⟩
  cases opened : kernel.descriptors.lookup descriptor with
  | none =>
      exact absurd ((refusesAll_of_closed opened).pin path isPath)
        (notRefused (by decide))
  | some place =>
      obtain ⟨table, resolved⟩ := valid.resolve_isSome opened
      refine ⟨place, table, resolved, ?_⟩
      cases free : kernel.pins.lookup path with
      | some other =>
          exact absurd (run_pin_of_taken resolved isPath free) (notRefused (by decide))
      | none =>
          rw [after, answer, Kernel.pin, resolved]
          simp only [bind, Except.bind, free, afterChange]
          exact List.lookup_cons_self

/-- An identifier finds its map. -/
theorem Valid.findIdx?_id
    {kernel : Kernel}
    (valid : kernel.Valid)
    (spare : kernel.opened < descriptorLimit)
    {place : Nat}
    {table : Table}
    (present : kernel.tables[place]? = some table) :
    (kernel.tables.findIdx? fun other => other.id == table.id) = some place := by
  obtain ⟨bound, equal⟩ := List.getElem?_eq_some_iff.1 present
  refine List.findIdx?_eq_some_iff_getElem.2 ⟨bound, by simp [equal], ?_⟩
  intro other before
  have otherId := valid.id_toNat spare
    (List.getElem?_eq_getElem (Nat.lt_trans before bound))
  have id := valid.id_toNat spare present
  simp only [beq_iff_eq]
  intro same
  rw [same, id] at otherId
  omega

/-! ## All names together -/

/-- On a series of moves, names keep naming the same maps. -/
structure NamesKept (kernel : Kernel) (moves : List Move) : Prop where
  /-- No descriptor is handed out twice. -/
  distinct : (kernel.granted moves).Nodup
  /-- A descriptor that is not closed leads to the map for which it was handed out. -/
  opened : ∀ earlier move later descriptor, moves = earlier ++ move :: later →
    (kernel.run earlier).grantedBy move = some descriptor →
      .call (.close descriptor) ∉ later →
        ∃ place first last,
          (kernel.run (earlier ++ [move])).resolve descriptor = .ok (place, first) ∧
          (kernel.run moves).resolve descriptor = .ok (place, last) ∧
          last.spec = first.spec ∧ last.id = first.id
  /-- A descriptor that was closed leads nowhere. -/
  closed : ∀ earlier move later descriptor, moves = earlier ++ move :: later →
    (kernel.run earlier).grantedBy move = some descriptor →
      .call (.close descriptor) ∈ later → (kernel.run moves).RefusesAll descriptor
  /-- A path that a map was pinned to opens this map, and is free for no other. -/
  pinned : ∀ earlier later descriptor path,
    moves = earlier ++ .call (.pin descriptor path) :: later →
      ((Kernel.host.pin descriptor path).run (kernel.run earlier)).1.isOk = true →
        ∃ place table, (kernel.run earlier).resolve descriptor = .ok (place, table) ∧
          (kernel.run moves).Opens (Kernel.host.openPath path) place ∧
          ∀ other found, (kernel.run moves).resolve other = .ok found →
            (Kernel.host.pin other path).run (kernel.run moves) =
              (.ofErrno Errno.alreadyExists, kernel.run moves)
  /-- The identifier of a map opens it. -/
  identified : ∀ earlier later place table, moves = earlier ++ later →
    (kernel.run earlier).tables[place]? = some table →
      (kernel.run moves).Opens (Kernel.host.openId table.id) place

/-- A descriptor that is handed out on a run is open for some map. -/
theorem Valid.resolve_granted
    {kernel : Kernel}
    (valid : kernel.Valid)
    {move : Move}
    {later : List Move}
    (spare : ((kernel.after move).run later).opened < descriptorLimit)
    {descriptor : Descriptor}
    (granted : kernel.grantedBy move = some descriptor) :
    (kernel.after move).Valid ∧
      ∃ place table, (kernel.after move).resolve descriptor = .ok (place, table) := by
  have nextValid := (after_step valid move).valid valid
  have spareNow := Nat.lt_of_le_of_lt
    (Nat.le_trans (opened_le_after kernel move) (opened_le_run _ later)) spare
  have hands := after_hands spareNow move
  rw [granted] at hands
  generalize kernel.after move = next at hands nextValid ⊢
  cases hands with
  | @fresh _ place handedOut =>
      have leads : next.descriptors.lookup kernel.fresh = some place := by
        rw [handedOut, List.lookup_cons_self]
      exact ⟨nextValid, place, nextValid.resolve_isSome leads⟩

/-- As long as descriptors are left to hand out, names keep naming the same maps. -/
theorem names_kept
    {kernel : Kernel}
    (valid : kernel.Valid)
    (moves : List Move)
    (spare : (kernel.run moves).opened < descriptorLimit) :
    kernel.NamesKept moves where
  distinct := granted_nodup moves spare
  opened := by
    rintro earlier move later descriptor rfl granted noClose
    rw [run_append, run_cons] at spare
    obtain ⟨nextValid, place, first, resolved⟩ :=
      (valid.run earlier).resolve_granted spare granted
    obtain ⟨leads, present⟩ := resolve_eq_ok_iff.1 resolved
    obtain ⟨last, lastPresent, fixed⟩ := nextValid.run_fixed later present
    have stillLeads := nextValid.lookup_run spare noClose leads
    rw [run_append, run_append, run_cons]
    exact ⟨place, first, last, resolved, resolve_eq_ok_iff.2 ⟨stillLeads, lastPresent⟩,
      fixed⟩
  closed := by
    rintro earlier move later descriptor rfl granted closes
    rw [run_append, run_cons] at spare ⊢
    obtain ⟨nextValid, place, first, resolved⟩ :=
      (valid.run earlier).resolve_granted spare granted
    have issued : ((kernel.run earlier).after move).Issued descriptor :=
      nextValid.numbered _ (mem_of_lookup (resolve_eq_ok_iff.1 resolved).1)
    exact refusesAll_of_closed (issued.retired_run spare closes).closed
  pinned := by
    rintro earlier later descriptor path rfl accepted
    have earlierValid := valid.run earlier
    have nextValid := (after_step earlierValid (.call (.pin descriptor path))).valid
      earlierValid
    obtain ⟨isPath, place, table, resolved, pinned⟩ :=
      earlierValid.run_pin_accepted accepted
    rw [run_append, run_cons] at spare ⊢
    have stillPinned := nextValid.run_pinned later pinned
    have bound := (nextValid.run later).pinned_lt _ (mem_of_lookup stillPinned)
    refine ⟨place, table, resolved, ?_, ?_⟩
    · exact opens_of_handOut spare (run_openPath_of_pinned isPath stillPinned)
        (List.getElem?_eq_getElem bound)
    · intro other found opened
      exact run_pin_of_taken opened isPath stillPinned
  identified := by
    rintro earlier later place table rfl present
    have earlierValid := valid.run earlier
    rw [run_append] at spare ⊢
    obtain ⟨last, lastPresent, _, sameId⟩ := earlierValid.run_fixed later present
    have found := (earlierValid.run later).findIdx?_id spare lastPresent
    rw [← sameId]
    exact opens_of_handOut spare (run_openId_of_found found) lastPresent

/-- Two maps, of which the first is pinned, closed under both of its descriptors, and
opened again. -/
def namingMoves : List Move :=
  [.call (.create { mapType := 1, keySize := 1, valueSize := 1, maxEntries := 2 }),
    .call (.pin 101 "/sys/fs/bpf/kept"),
    .call (.duplicate 101),
    .call (.close 101),
    .call (.close 102),
    .call (.create { mapType := 1, keySize := 4, valueSize := 4, maxEntries := 1 }),
    .call (.openPath "/sys/fs/bpf/kept")]

theorem names_kept_namingMoves :
    (({} : Kernel).run namingMoves).opened < descriptorLimit ∧
      ({} : Kernel).granted namingMoves = [101, 102, 103, 104] ∧
      ({} : Kernel).NamesKept namingMoves ∧
      (({} : Kernel).run namingMoves).RefusesAll 102 ∧
      (({} : Kernel).run namingMoves).Opens (Kernel.host.openPath "/sys/fs/bpf/kept") 0 := by
  have spare : (({} : Kernel).run namingMoves).opened < descriptorLimit := by
    decide +kernel
  have kept := names_kept valid_empty namingMoves spare
  refine ⟨spare, by decide +kernel, kept, ?_, ?_⟩
  · exact kept.closed (namingMoves.take 2) (.call (.duplicate 101)) (namingMoves.drop 3)
      102 rfl (by decide +kernel) (by decide +kernel)
  · obtain ⟨place, table, resolved, opens, _⟩ :=
      kept.pinned (namingMoves.take 1) (namingMoves.drop 2) 101 "/sys/fs/bpf/kept" rfl
        (by decide +kernel)
    have first : ((({} : Kernel).run (namingMoves.take 1)).resolve 101).map Prod.fst =
        .ok 0 := by
      decide +kernel
    rw [resolved] at first
    cases first
    exact opens

end Kernel
end KernelMaps
