import KernelMaps.Proofs.Interleavings
import KernelMaps.Proofs.KeyOrder
import KernelMaps.Proofs.KeySteps
import Mathlib.Tactic.Ring

/-!
# Walks over keys among other clients

A client walks over the keys of a map while others change it. A walk whose last
key was removed starts again, so it may give keys twice. Keys that stay are
never passed over, unless the last key comes back behind them. As long as
nothing is removed, the walk never starts again; as long as nothing is added, it
starts again at most once for each removal, and each time it has less to do.
-/

namespace KernelMaps

/-- The key that a step gives. -/
def Step.item? : Step α → Option α
  | item value => some value
  | failed _ | finished | panicked _ => none

/-- A client walks over the keys of a map, each step after some moves of
others. -/
def walkAmong (place : Nat) (rounds : List (List Move)) :
    KeyWalk → Kernel → List (Sighting (Step Bytes)) :=
  sightings place (fun (_ : Unit) walk => walk.next Kernel.host)
    (fun step => step.item?.isSome)
    (rounds.map fun others => (others, ()))

/-- The keys that a walk gives. -/
def yielded (steps : List (Sighting (Step Bytes))) : List Bytes :=
  steps.filterMap fun step => step.given.item?

theorem yielded_of_item
    {step : Sighting (Step Bytes)}
    {key : Bytes}
    (given : step.given = .item key)
    (later : List (Sighting (Step Bytes))) :
    yielded (step :: later) = key :: yielded later :=
  List.filterMap_cons_some (by rw [given]; rfl)

theorem yielded_of_finished
    {step : Sighting (Step Bytes)}
    (given : step.given = .finished)
    (later : List (Sighting (Step Bytes))) :
    yielded (step :: later) = yielded later :=
  List.filterMap_cons_none (by rw [given]; rfl)

/-! ## What others do to the keys before a walk -/

/-- New keys lie before a walk, unless they are the one it has lost. -/
theorem ahead_append
    {current : Option Bytes}
    {keys new : List Bytes}
    (apart : ∀ key, current = some key → key ∈ keys ∨ key ∉ new) :
    ahead current (keys ++ new) = ahead current keys ++ new := by
  obtain ⟨absent, all⟩ | ⟨passed, key, rfl, fresh, split⟩ := ahead_cases current keys
  · rw [all]
    cases current with
    | none => rfl
    | some key =>
        apply ahead_of_not_mem
        rw [List.mem_append, not_or]
        refine ⟨absent key rfl, ?_⟩
        exact (apart key rfl).resolve_left (absent key rfl)
  · generalize ahead (some key) keys = rest at split ⊢
    rw [split, List.append_assoc, List.cons_append]
    exact ahead_append_cons fresh _

/-- The removal of another key leaves the place of a walk. -/
theorem ahead_erase
    {current : Option Bytes}
    {keys : List Bytes}
    (distinct : keys.Nodup)
    {key : Bytes}
    (other : current ≠ some key) :
    ahead current (keys.erase key) = (ahead current keys).erase key := by
  obtain ⟨absent, all⟩ | ⟨passed, last, rfl, fresh, split⟩ := ahead_cases current keys
  · rw [all]
    cases current with
    | none => rfl
    | some last =>
        apply ahead_of_not_mem
        exact fun present => absent last rfl (List.mem_of_mem_erase present)
  · generalize ahead (some last) keys = rest at split ⊢
    subst split
    have different : last ≠ key := fun same => other (congrArg some same)
    rw [List.erase_append]
    split
    · rename_i before
      have gone : key ∉ rest := by
        intro behind
        exact (List.nodup_append.1 distinct).2.2 key before key
          (List.mem_cons_of_mem last behind) rfl
      rw [List.erase_of_not_mem gone]
      apply ahead_append_cons
      exact fun present => fresh (List.mem_of_mem_erase present)
    · rw [List.erase_cons_tail (by simpa using different)]
      exact ahead_append_cons fresh _

/-- The removal of its last key makes a walk start again. -/
theorem ahead_erase_self
    {keys : List Bytes}
    (distinct : keys.Nodup)
    (key : Bytes) :
    ahead (some key) (keys.erase key) = keys.erase key :=
  ahead_of_not_mem distinct.not_mem_erase

/-! ## The whole walk -/

/-- A walk that remembers a key over a map with the given keys: others do what
they like, then a step is taken, and so on until the walk is finished. -/
inductive Walks (place : Nat) :
    Option Bytes → List Bytes → List (Sighting (Step Bytes)) → Prop
  | unfinished
      {current : Option Bytes}
      {keys : List Bytes} :
      Walks place current keys []
  | finished
      {current : Option Bytes}
      {keys : List Bytes}
      {step : Sighting (Step Bytes)}
      (found : (step.found.entriesAt place).keys = keysAfter keys step.since)
      (given : step.given = .finished)
      (nothing : ahead current (keysAfter keys step.since) = []) :
      Walks place current keys [step]
  | item
      {current : Option Bytes}
      {keys rest : List Bytes}
      {key : Bytes}
      {step : Sighting (Step Bytes)}
      {later : List (Sighting (Step Bytes))}
      (found : (step.found.entriesAt place).keys = keysAfter keys step.since)
      (given : step.given = .item key)
      (first : ahead current (keysAfter keys step.since) = key :: rest)
      (others : Walks place (some key) (keysAfter keys step.since) later) :
      Walks place current keys (step :: later)

/-- A walk may as well start at the map that its first step finds. -/
theorem Walks.fromFirst
    {place : Nat}
    {current : Option Bytes}
    {keys : List Bytes}
    {first : Sighting (Step Bytes)}
    {later : List (Sighting (Step Bytes))}
    (walks : Walks place current keys (first :: later))
    (distinct : keys.Nodup) :
    (first.found.entriesAt place).keys.Nodup ∧
      Walks place current (first.found.entriesAt place).keys
        ({ first with since := [] } :: later) := by
  have foundDistinct := nodup_keysAfter distinct first.since
  cases walks with
  | finished found given nothing =>
      rw [← found] at nothing foundDistinct
      exact ⟨foundDistinct, .finished rfl given nothing⟩
  | item found given isFirst others =>
      rw [← found] at isFirst others foundDistinct
      exact ⟨foundDistinct, .item rfl given isFirst others⟩

/-- A walk over keys through a descriptor that stays open. -/
theorem Kernel.walks_walkAmong
    {kernel : Kernel}
    (valid : kernel.Valid)
    {place : Nat}
    {table : Table}
    (present : kernel.tables[place]? = some table)
    {descriptor : Descriptor}
    {rounds : List (List Move)}
    {walk : KeyWalk}
    (walksOver : walk.Over descriptor table)
    (opened : ∀ step ∈ walkAmong place rounds walk kernel,
      step.found.descriptors.lookup descriptor = some place) :
    Walks place walk.current (kernel.entriesAt place).keys
      (walkAmong place rounds walk kernel) := by
  induction rounds generalizing kernel table walk with
  | nil => exact .unfinished
  | cons others rounds inductionHypothesis =>
      rcases stepped : (walk.next Kernel.host).run (kernel.run others) with
        ⟨⟨given, next⟩, after⟩
      rw [walkAmong, List.map_cons, sightings_cons place _ _ others () _ walk kernel
        stepped] at opened ⊢
      obtain ⟨foundOpen, laterOpen⟩ := List.forall_mem_cons.1 opened
      obtain ⟨now, resolved, nowValid, spec, entries⟩ :=
        valid.resolve_run present others foundOpen
      have found : ((kernel.run others).entriesAt place).keys =
          keysAfter (kernel.entriesAt place).keys (kernel.history place others) := by
        rw [Kernel.entriesAt_run valid, Entries.keys_along]
      have nowOver := walksOver.of_spec_eq spec
      have step := KeyWalk.run_next resolved nowValid nowOver
      rw [stepped] at step
      cases before : ahead walk.current now.entries.keys with
      | nil =>
          rw [before] at step
          cases step
          rw [entries, found] at before
          exact .finished found rfl before
      | cons key rest =>
          rw [before] at step
          cases step
          have width := nowValid.length_of_ahead before
          have later := inductionHypothesis (valid.run others)
            (Kernel.resolve_eq_ok_iff.1 resolved).2 (nowOver.step width) laterOpen
          rw [found] at later
          rw [entries, found] at before
          exact .item found rfl before later

/-! ## No key is passed over -/

/-- A key lies before a walk whose last key was not lost without a trace. -/
structure Awaits
    (key : Bytes)
    (current : Option Bytes)
    (keys : List Bytes)
    (history : List Effect) : Prop where
  before : key ∈ ahead current keys
  known : ∀ last, current = some last → last ∈ keys ∨ Effect.removed last ∈ history

/-- A key that stays lies before a walk, unless the last key comes back. -/
theorem Awaits.reorder
    {key : Bytes}
    {current : Option Bytes}
    {keys : List Bytes}
    {history : List Effect}
    (awaits : Awaits key current keys history)
    (distinct : keys.Nodup)
    {effect : Effect}
    (kept : effect ≠ .removed key)
    (noReturn : ∀ last, ¬Reinserted last (history ++ [effect])) :
    Awaits key current (effect.reorder keys) (history ++ [effect]) := by
  have known : ∀ last, current = some last →
      last ∈ effect.reorder keys ∨ Effect.removed last ∈ history ++ [effect] := by
    intro last isLast
    by_cases removed : effect = .removed last
    · exact Or.inr (List.mem_append_right _ (by rw [removed]; exact List.mem_cons_self))
    · exact (awaits.known last isLast).imp (fun present => mem_reorder present removed)
        (List.mem_append_left _)
  refine ⟨?_, known⟩
  cases effect with
  | written other value =>
      rw [Effect.reorder]
      split
      · exact awaits.before
      · rename_i absent
        rw [ahead_append]
        · exact List.mem_append_left _ awaits.before
        · intro last isLast
          refine (awaits.known last isLast).imp_right ?_
          intro gone new
          rw [List.mem_singleton.1 new] at gone
          exact noReturn other (reinserted_of_written gone value)
  | removed other =>
      have different : key ≠ other := fun same => kept (congrArg _ same.symm)
      have present : key ∈ keys := (ahead_suffix current keys).subset awaits.before
      rw [Effect.reorder]
      by_cases lost : current = some other
      · rw [lost, ahead_erase_self distinct]
        exact (List.mem_erase_of_ne different).2 present
      · rw [ahead_erase distinct lost]
        exact (List.mem_erase_of_ne different).2 awaits.before

theorem Awaits.keysAfter
    {key : Bytes}
    {current : Option Bytes}
    {keys : List Bytes}
    {history : List Effect}
    (awaits : Awaits key current keys history)
    (distinct : keys.Nodup)
    {since : List Effect}
    (kept : Effect.removed key ∉ since)
    (noReturn : ∀ last, ¬Reinserted last (history ++ since)) :
    Awaits key current (keysAfter keys since) (history ++ since) := by
  induction since generalizing keys history with
  | nil => rwa [List.append_nil]
  | cons effect since inductionHypothesis =>
      rw [keysAfter_cons, List.append_cons]
      rw [List.append_cons] at noReturn
      rw [List.mem_cons, not_or] at kept
      obtain ⟨differs, keptLater⟩ := kept
      have moved := awaits.reorder distinct (Ne.symm differs) fun last again =>
        noReturn last (again.append since)
      exact inductionHypothesis moved (nodup_reorder distinct effect) keptLater noReturn

/-- A walk that is finished has given each key that lay before it and stayed. -/
theorem Walks.mem_yielded
    {place : Nat}
    {key : Bytes}
    {current : Option Bytes}
    {keys : List Bytes}
    {history : List Effect}
    {steps : List (Sighting (Step Bytes))}
    (walks : Walks place current keys steps)
    (distinct : keys.Nodup)
    (awaits : Awaits key current keys history)
    (kept : Effect.removed key ∉ steps.flatMap Sighting.since)
    (noReturn : ∀ last, ¬Reinserted last (history ++ steps.flatMap Sighting.since))
    (ended : ∃ step ∈ steps, step.given = .finished) :
    key ∈ yielded steps := by
  induction walks generalizing history with
  | unfinished => simp at ended
  | @finished current keys step found given nothing =>
      rw [List.flatMap_singleton] at kept noReturn
      have before := (awaits.keysAfter distinct kept noReturn).before
      rw [nothing] at before
      cases before
  | @item current keys rest first step later found given isFirst others
      inductionHypothesis =>
      rw [List.flatMap_cons, List.mem_append, not_or] at kept
      rw [List.flatMap_cons, ← List.append_assoc] at noReturn
      have foundDistinct := nodup_keysAfter distinct step.since
      have before := (awaits.keysAfter distinct kept.1 fun last again =>
        noReturn last (again.append _)).before
      rw [isFirst] at before
      rw [yielded_of_item given]
      rcases List.mem_cons.1 before with rfl | behind
      · exact List.mem_cons_self
      · apply List.mem_cons_of_mem
        have still : Awaits key (some first) (keysAfter keys step.since)
            (history ++ step.since) := by
          refine ⟨?_, ?_⟩
          · rw [ahead_of_step foundDistinct isFirst]
            exact behind
          · rintro _ ⟨⟩
            exact Or.inl (mem_of_ahead isFirst)
        have endedLater : ∃ step ∈ later, step.given = .finished := by
          obtain ⟨last, member, isLast⟩ := ended
          rcases List.mem_cons.1 member with rfl | inLater
          · rw [given] at isLast
            cases isLast
          · exact ⟨last, inLater, isLast⟩
        exact inductionHypothesis foundDistinct still kept.2 noReturn endedLater

/-! ## Without removals -/

/-- As long as nothing is removed, a walk has passed what is not before it. -/
theorem keysAfter_eq_append
    {current : Option Bytes}
    {keys passed : List Bytes}
    (split : keys = passed ++ ahead current keys)
    (known : ∀ last, current = some last → last ∈ keys)
    {since : List Effect}
    (kept : ∀ key, Effect.removed key ∉ since) :
    keysAfter keys since = passed ++ ahead current (keysAfter keys since) := by
  obtain ⟨new, grown⟩ := prefix_keysAfter kept keys
  rw [← grown, ahead_append fun key isLast => Or.inl (known key isLast),
    ← List.append_assoc, ← split]

/-- As long as nothing is removed, a walk gives one key after the other. -/
theorem Walks.append_yielded
    {place : Nat}
    {current : Option Bytes}
    {keys passed : List Bytes}
    {steps : List (Sighting (Step Bytes))}
    (walks : Walks place current keys steps)
    (distinct : keys.Nodup)
    (split : keys = passed ++ ahead current keys)
    (known : ∀ last, current = some last → last ∈ keys)
    (kept : ∀ key, Effect.removed key ∉ steps.flatMap Sighting.since) :
    (passed ++ yielded steps).Nodup ∧
      ∀ step ∈ steps, step.given = .finished →
        passed ++ yielded steps = (step.found.entriesAt place).keys := by
  induction walks generalizing passed with
  | unfinished =>
      rw [split] at distinct
      rw [yielded, List.filterMap_nil, List.append_nil]
      exact ⟨(List.nodup_append.1 distinct).1, nofun⟩
  | @finished current keys step found given nothing =>
      rw [List.flatMap_singleton] at kept
      have all := keysAfter_eq_append split known kept
      have foundDistinct := nodup_keysAfter distinct step.since
      rw [nothing, List.append_nil] at all
      rw [yielded_of_finished given, yielded, List.filterMap_nil, List.append_nil,
        List.forall_mem_singleton, found, ← all]
      exact ⟨foundDistinct, fun _ => rfl⟩
  | @item current keys rest first step later found given isFirst others
      inductionHypothesis =>
      have keptSince : ∀ key, Effect.removed key ∉ step.since :=
        fun key member => kept key (List.mem_append_left _ member)
      have keptLater : ∀ key, Effect.removed key ∉ later.flatMap Sighting.since :=
        fun key member => kept key (List.mem_append_right _ member)
      have foundDistinct := nodup_keysAfter distinct step.since
      have moved : keysAfter keys step.since =
          (passed ++ [first]) ++ ahead (some first) (keysAfter keys step.since) := by
        rw [ahead_of_step foundDistinct isFirst, List.append_assoc,
          List.singleton_append, ← isFirst]
        exact keysAfter_eq_append split known keptSince
      have nowKnown : ∀ last, some first = some last →
          last ∈ keysAfter keys step.since := by
        rintro _ ⟨⟩
        exact mem_of_ahead isFirst
      obtain ⟨once, whole⟩ := inductionHypothesis foundDistinct moved nowKnown keptLater
      rw [yielded_of_item given, List.append_cons, List.forall_mem_cons]
      refine ⟨once, ?_, whole⟩
      intro isLast
      rw [given] at isLast
      cases isLast

/-! ## Without insertions -/

/-- A history writes only keys that are there. -/
def OnlyOverwrites (keys : List Bytes) (history : List Effect) : Prop :=
  ∀ earlier key value later, history = earlier ++ .written key value :: later →
    key ∈ keysAfter keys earlier

theorem OnlyOverwrites.append
    {keys : List Bytes}
    {earlier later : List Effect}
    (overwrites : OnlyOverwrites keys (earlier ++ later)) :
    OnlyOverwrites keys earlier ∧ OnlyOverwrites (keysAfter keys earlier) later := by
  constructor
  · rintro before key value behind rfl
    exact overwrites before key value (behind ++ later) (by simp)
  · rintro before key value behind rfl
    rw [← keysAfter_append]
    exact overwrites (earlier ++ before) key value behind (by simp)

/-- Twice the number of steps that a walk may still take, if nothing is added:
one for each key before it, and after each removal one for each key that is
left. -/
def potential (current : Option Bytes) (keys : List Bytes) : Nat :=
  2 * (ahead current keys).length + keys.length * (keys.length - 1)

theorem two_mul_add_pred (number : Nat) :
    2 * number + number * (number - 1) = (number + 1) * number := by
  cases number with
  | zero => rfl
  | succ number =>
      rw [Nat.add_sub_cancel]
      ring

/-- A removal pays for the steps of a walk that starts again. -/
theorem potential_erase_le
    {keys : List Bytes}
    (distinct : keys.Nodup)
    (current : Option Bytes)
    (key : Bytes) :
    potential current (keys.erase key) ≤ potential current keys := by
  by_cases present : key ∈ keys
  · have shorter := List.length_erase_of_mem present
    have nonempty := List.length_pos_of_mem present
    rw [potential, potential, shorter]
    by_cases lost : current = some key
    · rw [lost, ahead_erase_self distinct, shorter]
      have all := two_mul_add_pred (keys.length - 1)
      rw [Nat.sub_add_cancel nonempty] at all
      rw [all]
      exact Nat.le_add_left _ _
    · rw [ahead_erase distinct lost]
      have fewer : ((ahead current keys).erase key).length ≤
          (ahead current keys).length := List.length_erase_le
      have less : (keys.length - 1) * (keys.length - 1 - 1) ≤
          keys.length * (keys.length - 1) :=
        Nat.mul_le_mul (Nat.sub_le _ _) (Nat.sub_le _ _)
      omega
  · rw [List.erase_of_not_mem present]

theorem potential_keysAfter_le
    {keys : List Bytes}
    (distinct : keys.Nodup)
    (current : Option Bytes)
    {since : List Effect}
    (overwrites : OnlyOverwrites keys since) :
    potential current (keysAfter keys since) ≤ potential current keys := by
  induction since generalizing keys with
  | nil => exact Nat.le_refl _
  | cons effect since inductionHypothesis =>
      have parts : OnlyOverwrites keys ([effect] ++ since) := overwrites
      obtain ⟨first, others⟩ := parts.append
      have later := inductionHypothesis (nodup_reorder distinct effect) others
      refine Nat.le_trans later ?_
      cases effect with
      | written key value =>
          have present : key ∈ keys := first [] key value [] rfl
          rw [Effect.reorder, if_pos present]
      | removed key => exact potential_erase_le distinct current key

/-- A walk takes no more steps than its potential allows. -/
theorem Walks.length_yielded_le
    {place : Nat}
    {current : Option Bytes}
    {keys : List Bytes}
    {steps : List (Sighting (Step Bytes))}
    (walks : Walks place current keys steps)
    (distinct : keys.Nodup)
    (overwrites : OnlyOverwrites keys (steps.flatMap Sighting.since)) :
    2 * (yielded steps).length ≤ potential current keys := by
  induction walks with
  | unfinished => exact Nat.zero_le _
  | @finished current keys step found given nothing =>
      rw [yielded_of_finished given]
      exact Nat.zero_le _
  | @item current keys rest first step later found given isFirst others
      inductionHypothesis =>
      have foundDistinct := nodup_keysAfter distinct step.since
      obtain ⟨overwritesSince, overwritesLater⟩ := overwrites.append
      have spent := potential_keysAfter_le distinct current overwritesSince
      have remaining := inductionHypothesis foundDistinct overwritesLater
      rw [potential, isFirst] at spent
      rw [potential, ahead_of_step foundDistinct isFirst] at remaining
      rw [yielded_of_item given, List.length_cons]
      rw [List.length_cons] at spent
      omega

/-- A walk that is not finished gives a key at each step. -/
theorem Walks.length_yielded
    {place : Nat}
    {current : Option Bytes}
    {keys : List Bytes}
    {steps : List (Sighting (Step Bytes))}
    (walks : Walks place current keys steps)
    (unfinished : ∀ step ∈ steps, step.given ≠ .finished) :
    (∀ step ∈ steps, step.given.item?.isSome = true) ∧
      (yielded steps).length = steps.length := by
  induction walks with
  | unfinished => exact ⟨nofun, rfl⟩
  | finished found given nothing =>
      exact absurd given (unfinished _ List.mem_cons_self)
  | @item current keys rest first step later found given isFirst others
      inductionHypothesis =>
      obtain ⟨_, laterUnfinished⟩ := List.forall_mem_cons.1 unfinished
      obtain ⟨items, length⟩ := inductionHypothesis laterUnfinished
      rw [List.forall_mem_cons, given, yielded_of_item given, List.length_cons,
        List.length_cons, length]
      exact ⟨⟨rfl, items⟩, rfl⟩

/-! ## Among others -/

namespace Kernel

/--
A walk over the keys of a map from its start, through a descriptor that stays
open, among clients that do what they like.

If no key that is removed during the walk comes back, a walk that is finished has
given every key that was there all the time. If nothing is removed, it gives no
key twice, and in the end it has given the keys of the map in their order. If
nothing is added, it gives at most `n * (n + 1)` keys, where `n` is the number of
entries that its first step finds, and then it is finished.
-/
theorem keyWalk_among_others
    {kernel : Kernel}
    (valid : kernel.Valid)
    {place : Nat}
    {table : Table}
    (present : kernel.tables[place]? = some table)
    (descriptor : Descriptor)
    (rounds : List (List Move))
    (opened : ∀ step ∈ walkAmong place rounds
        (KeyWalk.new descriptor table.spec.keySize) kernel,
      step.found.descriptors.lookup descriptor = some place) :
    let steps := walkAmong place rounds
      (KeyWalk.new descriptor table.spec.keySize) kernel
    (∀ first ∈ steps.head?, ∀ last ∈ steps, last.given = .finished →
        (∀ key, ¬Reinserted key (meanwhile steps)) →
        ∀ key ∈ (first.found.entriesAt place).keys,
          Effect.removed key ∉ meanwhile steps → key ∈ yielded steps) ∧
      ((∀ key, Effect.removed key ∉ meanwhile steps) →
        (yielded steps).Nodup ∧
          ∀ last ∈ steps, last.given = .finished →
            yielded steps = (last.found.entriesAt place).keys) ∧
      ∀ first ∈ steps.head?,
        OnlyOverwrites (first.found.entriesAt place).keys (meanwhile steps) →
        let number := (first.found.entriesAt place).length
        (yielded steps).length ≤ number * (number + 1) ∧
          (number * (number + 1) < rounds.length →
            ∃ last ∈ steps, last.given = .finished) := by
  intro steps
  have walks : Walks place none (kernel.entriesAt place).keys steps :=
    walks_walkAmong valid present (KeyWalk.over_new descriptor table) opened
  have unended : (∀ step ∈ steps, step.given.item?.isSome = true) →
      steps.length = rounds.length := by
    intro always
    have length := length_sightings place _ _ always
    rwa [List.length_map] at length
  generalize steps = steps at walks unended ⊢
  cases steps with
  | nil => simp [yielded]
  | cons first later =>
      obtain ⟨distinct, fromFirst⟩ := walks.fromFirst (valid.distinctAt place)
      refine ⟨?complete, ?undisturbed, ?ending⟩
      case complete =>
        rintro _ ⟨⟩ last member isLast noReturn key there kept
        have awaits : Awaits key none (first.found.entriesAt place).keys [] :=
          ⟨there, nofun⟩
        have ended : ∃ step ∈ { first with since := [] } :: later,
            step.given = .finished := by
          rcases List.mem_cons.1 member with rfl | inLater
          · exact ⟨_, List.mem_cons_self, isLast⟩
          · exact ⟨last, List.mem_cons_of_mem _ inLater, isLast⟩
        exact fromFirst.mem_yielded distinct awaits kept noReturn ended
      case undisturbed =>
        intro kept
        obtain ⟨once, whole⟩ := fromFirst.append_yielded distinct
          (List.nil_append _).symm nofun kept
        rw [List.forall_mem_cons] at whole ⊢
        exact ⟨once, whole⟩
      case ending =>
        rintro _ ⟨⟩ overwrites number
        have few := fromFirst.length_yielded_le distinct overwrites
        have start : potential none (first.found.entriesAt place).keys =
            (number + 1) * number := by
          rw [potential, ahead_none, Entries.length_keys]
          exact two_mul_add_pred number
        have bounded : (yielded (first :: later)).length ≤ number * (number + 1) := by
          have same : (yielded (first :: later)).length =
              (yielded ({ first with since := [] } :: later)).length := rfl
          rw [Nat.mul_comm]
          omega
        refine ⟨bounded, ?_⟩
        intro enough
        by_contra unfinished
        have never : ∀ step ∈ first :: later, step.given ≠ .finished :=
          fun step member given => unfinished ⟨step, member, given⟩
        obtain ⟨items, length⟩ := walks.length_yielded never
        have all := unended items
        omega

/-- The first key is removed after it was given, so the walk starts again; in
the end there are more rounds than the walk can take. -/
def roundsWithRemoval : List (List Move) :=
  [] :: [.call (.delete 101 [1])] :: List.replicate 11 []

/-- A key is added and another one is overwritten while the walk goes on. -/
def roundsWithNewKey : List (List Move) :=
  [[], [.call (.update 101 [4] [14] 0), .call (.update 101 [1] [21] 0)], [], [], []]

/-- The walk that starts again. -/
def walkWithRemoval : List (Sighting (KernelMaps.Step Bytes)) :=
  walkAmong 0 roundsWithRemoval (KeyWalk.new 101 1) threeEntries

/-- The walk to whose map a key is added. -/
def walkWithNewKey : List (Sighting (KernelMaps.Step Bytes)) :=
  walkAmong 0 roundsWithNewKey (KeyWalk.new 101 1) threeEntries

theorem keyWalk_among_others_threeEntries :
    ((∃ last ∈ walkWithRemoval, last.given = .finished) ∧
        (yielded walkWithRemoval).length ≤ 3 * (3 + 1) ∧
        [3] ∈ yielded walkWithRemoval) ∧
      (yielded walkWithNewKey).Nodup ∧
        ∃ last ∈ walkWithNewKey, last.given = .finished ∧
          yielded walkWithNewKey = (last.found.entriesAt 0).keys := by
  have valid : threeEntries.Valid := valid_empty.run _
  have present : threeEntries.tables[0]? = some threeEntriesTable := by decide +kernel
  constructor
  · obtain ⟨complete, _, ending⟩ := keyWalk_among_others valid present 101
      roundsWithRemoval (by decide +kernel)
    have history : meanwhile walkWithRemoval = [.removed [1]] := by decide +kernel
    have overwrites : OnlyOverwrites [[1], [2], [3]] (meanwhile walkWithRemoval) := by
      rw [history]
      intro earlier key value later split
      have member : Effect.written key value ∈ [Effect.removed [1]] := by
        rw [split]
        exact List.mem_append_right _ List.mem_cons_self
      simp at member
    have noReturn : ∀ key, ¬Reinserted key (meanwhile walkWithRemoval) := by
      rw [history]
      rintro key ⟨earlier, between, later, value, split⟩
      have lengths := congrArg List.length split
      simp only [List.length_append, List.length_cons, List.length_nil] at lengths
      omega
    obtain ⟨bounded, ends⟩ := ending _ rfl overwrites
    obtain ⟨last, member, finished⟩ := ends (by decide +kernel)
    have there : Effect.removed [3] ∉ meanwhile walkWithRemoval := by
      rw [history]
      decide
    exact ⟨⟨last, member, finished⟩, bounded,
      complete _ rfl last member finished noReturn [3] (by decide +kernel) there⟩
  · obtain ⟨_, undisturbed, _⟩ := keyWalk_among_others valid present 101
      roundsWithNewKey (by decide +kernel)
    have kept : ∀ key, Effect.removed key ∉ meanwhile walkWithNewKey := by
      have history : meanwhile walkWithNewKey =
          [.written [4] [14], .written [1] [21]] := by decide +kernel
      rw [history]
      simp
    obtain ⟨once, whole⟩ := undisturbed kept
    have ended : ∃ last ∈ walkWithNewKey, last.given = .finished := by decide +kernel
    obtain ⟨last, member, finished⟩ := ended
    exact ⟨once, last, member, finished, whole last member finished⟩

end Kernel
end KernelMaps
