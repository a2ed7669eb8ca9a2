import KernelMaps.Proofs.Histories

/-!
# Clients among others

A client takes its steps one after the other, and before each of them others do
what they like. What others do to the map that the client works on is a history,
and the step finds the entries to which this history leads.
-/

namespace KernelMaps

/-- What a client is given by one of its steps. -/
structure Sighting (α : Type) where
  /-- What happened to the map since the step before. -/
  since : List Effect
  /-- The kernel that the step finds. -/
  found : Kernel
  given : α

/-- The steps of a client, each one after some moves of others, up to the first
after which it does not go on. -/
def sightings
    (place : Nat)
    (step : ρ → κ → Action Kernel (α × κ))
    (goesOn : α → Bool) :
    List (List Move × ρ) → κ → Kernel → List (Sighting α)
  | [], _, _ => []
  | (others, request) :: rounds, client, kernel =>
      let found := kernel.run others
      let stepped := (step request client).run found
      let sighting := ⟨kernel.history place others, found, stepped.1.1⟩
      if goesOn stepped.1.1 then
        sighting :: sightings place step goesOn rounds stepped.1.2 stepped.2
      else [sighting]

/-- A step is the last one or the client goes on from where the step left it. -/
theorem sightings_cons
    (place : Nat)
    (step : ρ → κ → Action Kernel (α × κ))
    (goesOn : α → Bool)
    (others : List Move)
    (request : ρ)
    (rounds : List (List Move × ρ))
    (client : κ)
    (kernel : Kernel)
    {given : α}
    {next : κ}
    {after : Kernel}
    (stepped : (step request client).run (kernel.run others) =
      ((given, next), after)) :
    sightings place step goesOn ((others, request) :: rounds) client kernel =
      ⟨kernel.history place others, kernel.run others, given⟩ ::
        if goesOn given then sightings place step goesOn rounds next after
        else [] := by
  rw [sightings, stepped]
  simp only
  split <;> rfl

/-- The first step finds what the moves before it left. -/
theorem sightings_head
    (place : Nat)
    (step : ρ → κ → Action Kernel (α × κ))
    (goesOn : α → Bool)
    (others : List Move)
    (request : ρ)
    (rounds : List (List Move × ρ))
    (client : κ)
    (kernel : Kernel) :
    ∃ given later, sightings place step goesOn ((others, request) :: rounds) client
      kernel = ⟨kernel.history place others, kernel.run others, given⟩ :: later := by
  rcases stepped : (step request client).run (kernel.run others) with
    ⟨⟨given, next⟩, after⟩
  exact ⟨_, _, sightings_cons place step goesOn others request rounds client kernel stepped⟩

/-- A client that always goes on takes all steps. -/
theorem length_sightings
    (place : Nat)
    (step : ρ → κ → Action Kernel (α × κ))
    (goesOn : α → Bool)
    {rounds : List (List Move × ρ)}
    {client : κ}
    {kernel : Kernel}
    (always : ∀ sighting ∈ sightings place step goesOn rounds client kernel,
      goesOn sighting.given = true) :
    (sightings place step goesOn rounds client kernel).length = rounds.length := by
  induction rounds generalizing client kernel with
  | nil => rfl
  | cons round rounds inductionHypothesis =>
      obtain ⟨others, request⟩ := round
      rcases stepped : (step request client).run (kernel.run others) with
        ⟨⟨given, next⟩, after⟩
      rw [sightings_cons place step goesOn others request rounds client kernel
        stepped] at always ⊢
      obtain ⟨first, later⟩ := List.forall_mem_cons.1 always
      have goes : goesOn given = true := first
      rw [if_pos goes] at later ⊢
      rw [List.length_cons, List.length_cons, inductionHypothesis later]

/-- A client that asks in other words takes the same steps. -/
theorem sightings_map
    (place : Nat)
    (step : ρ → κ → Action Kernel (α × κ))
    (goesOn : α → Bool)
    (reword : π → ρ)
    (rounds : List (List Move × π))
    (client : κ)
    (kernel : Kernel) :
    sightings place step goesOn (rounds.map (Prod.map id reword)) client kernel =
      sightings place (fun request => step (reword request)) goesOn rounds client
        kernel := by
  induction rounds generalizing client kernel with
  | nil => rfl
  | cons round rounds inductionHypothesis =>
      rw [List.map_cons, Prod.map, sightings, sightings]
      simp only [inductionHypothesis]
      rfl

/-- Clients that are given the same by each step, and stay alike, are given the same by
all of their steps. -/
theorem sightings_congr
    (place : Nat)
    {step : ρ → κ → Action Kernel (α × κ)}
    (goesOn : α → Bool)
    {Like : κ → κ → Prop}
    (keeps : ∀ request left right kernel, Like left right →
      ∃ given leftNext rightNext after,
        (step request left).run kernel = ((given, leftNext), after) ∧
        (step request right).run kernel = ((given, rightNext), after) ∧
        Like leftNext rightNext)
    (rounds : List (List Move × ρ))
    {left right : κ}
    (like : Like left right)
    (kernel : Kernel) :
    sightings place step goesOn rounds left kernel =
      sightings place step goesOn rounds right kernel := by
  induction rounds generalizing left right kernel with
  | nil => rfl
  | cons round rounds inductionHypothesis =>
      obtain ⟨others, request⟩ := round
      obtain ⟨given, leftNext, rightNext, after, leftStepped, rightStepped, nextLike⟩ :=
        keeps request left right (kernel.run others) like
      rw [sightings_cons place step goesOn others request rounds left kernel leftStepped,
        sightings_cons place step goesOn others request rounds right kernel rightStepped,
        inductionHypothesis nextLike]

/-- A client and the kernel after all steps of the client. -/
def standing
    (step : ρ → κ → Action Kernel (α × κ)) :
    List (List Move × ρ) → κ → Kernel → κ × Kernel
  | [], client, kernel => (client, kernel)
  | (others, request) :: rounds, client, kernel =>
      let stepped := (step request client).run (kernel.run others)
      standing step rounds stepped.1.2 stepped.2

theorem standing_cons
    {step : ρ → κ → Action Kernel (α × κ)}
    {others : List Move}
    {request : ρ}
    (rounds : List (List Move × ρ))
    {client next : κ}
    {kernel after : Kernel}
    {given : α}
    (stepped : (step request client).run (kernel.run others) = ((given, next), after)) :
    standing step ((others, request) :: rounds) client kernel =
      standing step rounds next after := by
  rw [standing, stepped]

/-- A client that goes on takes its later steps from where the earlier ones left it. -/
theorem sightings_append
    (place : Nat)
    (step : ρ → κ → Action Kernel (α × κ))
    (goesOn : α → Bool)
    {earlier : List (List Move × ρ)}
    (later : List (List Move × ρ))
    {client : κ}
    {kernel : Kernel}
    (always : ∀ sighting ∈ sightings place step goesOn earlier client kernel,
      goesOn sighting.given = true) :
    sightings place step goesOn (earlier ++ later) client kernel =
      sightings place step goesOn earlier client kernel ++
        sightings place step goesOn later (standing step earlier client kernel).1
          (standing step earlier client kernel).2 := by
  induction earlier generalizing client kernel with
  | nil => rfl
  | cons round earlier inductionHypothesis =>
      obtain ⟨others, request⟩ := round
      rcases stepped : (step request client).run (kernel.run others) with
        ⟨⟨given, next⟩, after⟩
      rw [sightings_cons place step goesOn others request _ client kernel stepped]
        at always
      obtain ⟨first, rest⟩ := List.forall_mem_cons.1 always
      have goes : goesOn given = true := first
      rw [if_pos goes] at rest
      rw [List.cons_append,
        sightings_cons place step goesOn others request _ client kernel stepped,
        sightings_cons place step goesOn others request _ client kernel stepped,
        if_pos goes, if_pos goes, inductionHypothesis rest, standing_cons _ stepped,
        List.cons_append]

/-- Steps before which others did something more. -/
def afterMoves (others : List Move) : List (List Move × ρ) → List (List Move × ρ)
  | [] => []
  | (more, request) :: rounds => (others ++ more, request) :: rounds

/-- What others do before a step can be told as a part of the step or before it. -/
theorem given_afterMoves
    (place : Nat)
    (step : ρ → κ → Action Kernel (α × κ))
    (goesOn : α → Bool)
    (others : List Move)
    (rounds : List (List Move × ρ))
    (client : κ)
    (kernel : Kernel) :
    (sightings place step goesOn (afterMoves others rounds) client kernel).map
        Sighting.given =
      (sightings place step goesOn rounds client (kernel.run others)).map
        Sighting.given := by
  cases rounds with
  | nil => rfl
  | cons round rounds =>
      obtain ⟨more, request⟩ := round
      rcases stepped : (step request client).run ((kernel.run others).run more) with
        ⟨⟨given, next⟩, after⟩
      have together : (step request client).run (kernel.run (others ++ more)) =
          ((given, next), after) := by
        rw [Kernel.run_append, stepped]
      rw [afterMoves,
        sightings_cons place step goesOn (others ++ more) request rounds client kernel
          together,
        sightings_cons place step goesOn more request rounds client (kernel.run others)
          stepped,
        List.map_cons, List.map_cons]

/-- What happened to the map after the first step and before the last. -/
def meanwhile (sightings : List (Sighting α)) : List Effect :=
  sightings.tail.flatMap Sighting.since

namespace Kernel

/-- A descriptor that is still open for a map leads to what others made of it. -/
theorem Valid.resolve_run
    {kernel : Kernel}
    (valid : kernel.Valid)
    {place : Nat}
    {table : Table}
    (present : kernel.tables[place]? = some table)
    (moves : List Move)
    {descriptor : Descriptor}
    (opened : (kernel.run moves).descriptors.lookup descriptor = some place) :
    ∃ later, (kernel.run moves).resolve descriptor = .ok (place, later) ∧
      later.Valid ∧ later.spec = table.spec ∧
      later.entries = (kernel.run moves).entriesAt place := by
  obtain ⟨later, found, spec, _⟩ := valid.run_fixed moves present
  exact ⟨later, resolve_eq_ok_iff.2 ⟨opened, found⟩,
    (valid.run moves).tableAt found, spec, (entriesAt_of_present found).symm⟩

/-- A map with three entries that is open under one descriptor. -/
def threeEntries : Kernel :=
  ({} : Kernel).run
    [.call (.create { mapType := 1, keySize := 1, valueSize := 1, maxEntries := 4 }),
      .call (.updateBatch 101 [1, 2, 3] [11, 12, 13] 3 {})]

/-- The map with three entries. -/
def threeEntriesTable : Table where
  id := 1000
  spec := { mapType := 1, keySize := 1, valueSize := 1, maxEntries := 4 }
  entries := [([1], [11]), ([2], [12]), ([3], [13])]

end Kernel
end KernelMaps
