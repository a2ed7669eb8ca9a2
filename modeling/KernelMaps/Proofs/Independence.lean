import KernelMaps.Proofs.Requests
import KernelMaps.Proofs.Steps

/-!
# Clients of different maps

Clients that share a kernel put their requests in some order, each request through a
descriptor that is open for a map, or for none. As long as no two clients work on
the same map, none can tell that there are others: each is given what it would be
given alone, and leaves its maps as it would leave them alone.
-/

namespace KernelMaps

/-! ## Schedules -/

/-- Put one request after the other, and list what is given. -/
def putAll (host : Host σ) : List Request → Action σ (List Receipt)
  | [] => pure []
  | request :: requests => do
      let receipt ← request.put host
      let receipts ← putAll host requests
      pure (receipt :: receipts)

/-- Put the requests of several clients in the order of a schedule, and list what
each client is given. -/
def play (host : Host σ) : List (κ × Request) → Action σ (List (κ × Receipt))
  | [] => pure []
  | (client, request) :: schedule => do
      let receipt ← request.put host
      let receipts ← play host schedule
      pure ((client, receipt) :: receipts)

/-- What belongs to one client, in its order. -/
def ofClient [DecidableEq κ] (client : κ) (entries : List (κ × α)) : List α :=
  entries.filterMap fun entry => if entry.1 = client then some entry.2 else none

section

variable [DecidableEq κ] (client : κ) (value : α) (entries : List (κ × α))

@[simp] theorem ofClient_cons_self :
    ofClient client ((client, value) :: entries) = value :: ofClient client entries := by
  simp [ofClient]

theorem ofClient_cons_of_ne
    {other : κ}
    (differs : other ≠ client) :
    ofClient client ((other, value) :: entries) = ofClient client entries := by
  simp [ofClient, differs]

end

theorem run_putAll_cons
    (host : Host σ)
    (request : Request)
    (requests : List Request)
    (state : σ) :
    (putAll host (request :: requests)).run state =
      let first := (request.put host).run state
      let rest := (putAll host requests).run first.2
      (first.1 :: rest.1, rest.2) := rfl

theorem run_play_cons
    (host : Host σ)
    (client : κ)
    (request : Request)
    (schedule : List (κ × Request))
    (state : σ) :
    (play host ((client, request) :: schedule)).run state =
      let first := (request.put host).run state
      let rest := (play host schedule).run first.2
      ((client, first.1) :: rest.1, rest.2) := rfl

namespace Kernel

/-- The clients of a schedule, each with the places of the maps that it works on. -/
def reached (kernel : Kernel) (schedule : List (κ × Request)) : List (κ × Nat) :=
  schedule.filterMap fun entry =>
    (kernel.descriptors.lookup entry.2.descriptor).map fun place => (entry.1, place)

/-- No map is worked on by two clients. -/
def Apart (kernel : Kernel) (schedule : List (κ × Request)) : Prop :=
  ∀ first ∈ kernel.reached schedule, ∀ second ∈ kernel.reached schedule,
    first.2 = second.2 → first.1 = second.1

instance [DecidableEq κ] (kernel : Kernel) (schedule : List (κ × Request)) :
    Decidable (kernel.Apart schedule) :=
  inferInstanceAs (Decidable (∀ first ∈ kernel.reached schedule,
    ∀ second ∈ kernel.reached schedule, first.2 = second.2 → first.1 = second.1))

theorem mem_reached
    {kernel : Kernel}
    {schedule : List (κ × Request)}
    {client : κ}
    {request : Request}
    (member : (client, request) ∈ schedule)
    {place : Nat}
    (opened : kernel.descriptors.lookup request.descriptor = some place) :
    (client, place) ∈ kernel.reached schedule :=
  List.mem_filterMap.2 ⟨(client, request), member, by rw [opened]; rfl⟩

/-! ## Kernels that are alike -/

/-- Two kernels with the same descriptors and limits have the same maps at certain
places. -/
structure AlikeOn (places : Nat → Prop) (kernel other : Kernel) : Prop where
  descriptors : kernel.descriptors = other.descriptors
  limits : kernel.limits = other.limits
  tables : ∀ place, places place → kernel.tables[place]? = other.tables[place]?

section

variable
  {places : Nat → Prop}
  {kernel between other : Kernel}
  {request : Request}

theorem AlikeOn.refl (places : Nat → Prop) (kernel : Kernel) :
    AlikeOn places kernel kernel :=
  ⟨rfl, rfl, fun _ _ => rfl⟩

theorem AlikeOn.trans
    (first : AlikeOn places kernel between)
    (second : AlikeOn places between other) :
    AlikeOn places kernel other where
  descriptors := first.descriptors.trans second.descriptors
  limits := first.limits.trans second.limits
  tables := fun place member =>
    (first.tables place member).trans (second.tables place member)

theorem AlikeOn.symm
    (alike : AlikeOn places kernel other) :
    AlikeOn places other kernel where
  descriptors := alike.descriptors.symm
  limits := alike.limits.symm
  tables := fun place member => (alike.tables place member).symm

/-- A request on a map elsewhere changes nothing at the places. -/
theorem alikeOn_run_put
    (elsewhere : ∀ place, kernel.descriptors.lookup request.descriptor = some place →
      ¬ places place) :
    AlikeOn places kernel ((request.put Kernel.host).run kernel).2 := by
  rw [run_put]
  cases resolved : kernel.resolve request.descriptor with
  | error errno =>
      rw [answer_unresolved request.subject?_call resolved]
      exact .refl places kernel
  | ok found =>
      obtain ⟨place, table⟩ := found
      obtain ⟨opened, present⟩ := resolve_eq_ok_iff.1 resolved
      rw [answer_resolved request.subject?_call resolved]
      refine ⟨rfl, rfl, ?_⟩
      intro other member
      have differs : place ≠ other := by
        rintro rfl
        exact elsewhere place opened member
      exact (List.getElem?_set_ne differs).symm

/-- Alike kernels resolve a descriptor for one of the places alike. -/
theorem AlikeOn.resolve
    (alike : AlikeOn places kernel other)
    {descriptor : Descriptor}
    (within : ∀ place, kernel.descriptors.lookup descriptor = some place → places place) :
    kernel.resolve descriptor = other.resolve descriptor := by
  rw [Kernel.resolve, Kernel.resolve, ← alike.descriptors]
  cases opened : kernel.descriptors.lookup descriptor with
  | none => rfl
  | some place => simp only [alike.tables place (within place opened)]

/-- A request on a map at one of the places is answered alike, and leaves alike
kernels. -/
theorem AlikeOn.run_put
    (alike : AlikeOn places kernel other)
    (within : ∀ place, kernel.descriptors.lookup request.descriptor = some place →
      places place) :
    ((request.put Kernel.host).run kernel).1 = ((request.put Kernel.host).run other).1 ∧
      AlikeOn places ((request.put Kernel.host).run kernel).2
        ((request.put Kernel.host).run other).2 := by
  rw [Kernel.run_put, Kernel.run_put]
  have same := alike.resolve within
  cases resolved : kernel.resolve request.descriptor with
  | error errno =>
      rw [answer_unresolved request.subject?_call resolved,
        answer_unresolved request.subject?_call (same ▸ resolved)]
      exact ⟨rfl, alike⟩
  | ok found =>
      obtain ⟨place, table⟩ := found
      have otherResolved := same ▸ resolved
      rw [answer_resolved request.subject?_call resolved,
        answer_resolved request.subject?_call otherResolved, alike.limits]
      refine ⟨rfl, alike.descriptors, alike.limits, ?_⟩
      intro somewhere member
      generalize (table.respond other.limits request.call).2 = next
      by_cases same : place = somewhere
      · subst same
        rw [(resolve_eq_ok_iff.1 (resolve_replace resolved next)).2,
          (resolve_eq_ok_iff.1 (resolve_replace otherResolved next)).2]
      · exact (List.getElem?_set_ne same).trans
          ((alike.tables somewhere member).trans (List.getElem?_set_ne same).symm)

end

/-! ## Clients -/

/-- A client whose maps are at places where nobody else works is given what it is given
on a kernel that is alike there, and leaves alike kernels. -/
theorem AlikeOn.run_play
    [DecidableEq κ]
    {places : Nat → Prop}
    {client : κ}
    {schedule : List (κ × Request)}
    {kernel other : Kernel}
    (alike : AlikeOn places kernel other)
    (within : ∀ place, (client, place) ∈ kernel.reached schedule → places place)
    (elsewhere : ∀ another place, (another, place) ∈ kernel.reached schedule →
      another ≠ client → ¬ places place) :
    let together := (play Kernel.host schedule).run kernel
    let alone := (putAll Kernel.host (ofClient client schedule)).run other
    ofClient client together.1 = alone.1 ∧ AlikeOn places together.2 alone.2 := by
  induction schedule generalizing kernel other with
  | nil => exact ⟨rfl, alike⟩
  | cons entry schedule inductionHypothesis =>
      obtain ⟨another, request⟩ := entry
      -- Requests keep the descriptors, so the clients go on to reach the same places.
      have kept : ((request.put Kernel.host).run kernel).2.descriptors =
          kernel.descriptors := by
        rw [Kernel.run_put]
        exact (answer_kept request.subject?_call).1
      have later : ∀ pair ∈ ((request.put Kernel.host).run kernel).2.reached schedule,
          pair ∈ kernel.reached ((another, request) :: schedule) := by
        intro pair member
        rw [reached, kept] at member
        exact (List.sublist_cons_self _ _).filterMap _ |>.subset member
      have laterWithin := fun place member => within place (later (client, place) member)
      have laterElsewhere := fun other place member =>
        elsewhere other place (later (other, place) member)
      rw [run_play_cons]
      by_cases own : another = client
      · subst own
        obtain ⟨sameReceipt, nextAlike⟩ := alike.run_put fun place opened =>
          within place (mem_reached List.mem_cons_self opened)
        obtain ⟨sameReceipts, endAlike⟩ :=
          inductionHypothesis nextAlike laterWithin laterElsewhere
        rw [ofClient_cons_self, run_putAll_cons]
        simp only [ofClient_cons_self]
        exact ⟨congrArg₂ List.cons sameReceipt sameReceipts, endAlike⟩
      · have untouched : AlikeOn places kernel ((request.put Kernel.host).run kernel).2 :=
          alikeOn_run_put fun place opened =>
            elsewhere another place (mem_reached List.mem_cons_self opened) own
        obtain ⟨sameReceipts, endAlike⟩ := inductionHypothesis
          (untouched.symm.trans alike) laterWithin laterElsewhere
        rw [ofClient_cons_of_ne client request schedule own]
        simp only [ofClient_cons_of_ne client _ _ own]
        exact ⟨sameReceipts, endAlike⟩

/-- Clients of different maps do not influence each other. In whatever order their
requests are put, each client is given what it is given alone, and every map on which
nobody else works ends as it does when the client is alone. -/
theorem clients_independent
    [DecidableEq κ]
    {kernel : Kernel}
    {schedule : List (κ × Request)}
    (apart : kernel.Apart schedule)
    (client : κ) :
    let together := (play Kernel.host schedule).run kernel
    let alone := (putAll Kernel.host (ofClient client schedule)).run kernel
    ofClient client together.1 = alone.1 ∧
      ∀ place, (∀ other, (other, place) ∈ kernel.reached schedule → other = client) →
        together.2.tables[place]? = alone.2.tables[place]? := by
  let places : Nat → Prop := fun place =>
    ∀ other, (other, place) ∈ kernel.reached schedule → other = client
  have within : ∀ place, (client, place) ∈ kernel.reached schedule → places place := by
    intro place member other otherMember
    exact apart _ otherMember _ member rfl
  have elsewhere : ∀ another place, (another, place) ∈ kernel.reached schedule →
      another ≠ client → ¬ places place :=
    fun another place member differs itsOwn => differs (itsOwn another member)
  obtain ⟨receipts, alike⟩ := (AlikeOn.refl places kernel).run_play within elsewhere
  exact ⟨receipts, alike.tables⟩

/-- Two maps, of which the second has two entries. -/
def twoMaps : Kernel :=
  ({} : Kernel).run
    [.call (.create { mapType := 1, keySize := 1, valueSize := 1, maxEntries := 1 }),
      .call (.create { mapType := 1, keySize := 1, valueSize := 1, maxEntries := 2 }),
      .call (.updateBatch 102 [1, 2] [11, 12] 2 {})]

/-- One client overfills the first map, while another takes an entry out of the second
map and makes it read-only. -/
def sharedSchedule : List (Bool × Request) :=
  [(true, .updateBatch 101 [7, 8] [17, 18] 2 {}),
    (false, .lookupBatch { remove := true, descriptor := 102, token := none, count := 1 }
      [0, 0, 0, 0] [0] [0]),
    (true, .nextKey 101 none [0]),
    (false, .freeze 102),
    (true, .lookup 101 [7] [0] 0),
    (false, .update 102 [1] [21] 0)]

theorem clients_independent_twoMaps :
    let together := (play Kernel.host sharedSchedule).run twoMaps
    let alone := (putAll Kernel.host (ofClient false sharedSchedule)).run twoMaps
    twoMaps.Apart sharedSchedule ∧
      (∀ other, (other, 1) ∈ twoMaps.reached sharedSchedule → other = false) ∧
      ofClient false together.1 =
        [.listed ⟨.ok, 1, [0, 0, 0, 0], [1], [11]⟩, .done .ok,
          .done (.ofErrno Errno.notPermitted)] ∧
      ofClient false together.1 = alone.1 ∧
      together.2.tables[1]? = alone.2.tables[1]? := by
  intro together alone
  have apart : twoMaps.Apart sharedSchedule := by decide +kernel
  have itsOwn : ∀ other, (other, 1) ∈ twoMaps.reached sharedSchedule → other = false := by
    decide +kernel
  obtain ⟨receipts, tables⟩ := clients_independent apart false
  exact ⟨apart, itsOwn, by decide +kernel, receipts, tables 1 itsOwn⟩

end Kernel
end KernelMaps
