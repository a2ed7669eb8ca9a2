import KernelMaps.Proofs.Histories
import Mathlib.Data.List.Induction

/-!
# The last write

A lookup at the end of a run gives the value of the last write of its key, through
whichever descriptor, unless the key was removed after that write.
-/

namespace KernelMaps

/-- A key was last written with a value: no later effect is about it. -/
def WrittenLast (key value : Bytes) (history : List Effect) : Prop :=
  ∃ earlier later, history = earlier ++ .written key value :: later ∧
    ∀ effect ∈ later, effect.key ≠ key

/-- Following a history gives the value of the last write. -/
theorem foldl_act_eq_some_iff
    (history : List Effect)
    (key value : Bytes) :
    history.foldl (Effect.act key) none = some value ↔
      WrittenLast key value history := by
  constructor
  · intro held
    induction history using List.reverseRecOn with
    | nil => cases held
    | append_singleton earlier effect inductionHypothesis =>
        rw [List.foldl_append, List.foldl_cons, List.foldl_nil] at held
        by_cases about : effect.key = key
        · cases effect with
          | written other stored =>
              rw [Effect.key] at about
              subst about
              rw [Effect.act, if_pos rfl] at held
              cases held
              exact ⟨earlier, [], rfl, by simp⟩
          | removed other =>
              rw [Effect.key] at about
              rw [Effect.act, if_pos about.symm] at held
              cases held
        · rw [Effect.act_of_ne about] at held
          obtain ⟨before, later, rfl, others⟩ := inductionHypothesis held
          refine ⟨before, later ++ [effect], by simp, ?_⟩
          intro other present
          rcases List.mem_append.1 present with old | new
          · exact others other old
          · rw [List.mem_singleton.1 new]
            exact about
  · rintro ⟨earlier, later, rfl, others⟩
    rw [List.foldl_append, List.foldl_cons, Effect.foldl_act_of_ne others,
      Effect.act, if_pos rfl]

/-- A buffer shows what was written to it, if one knows how long that is. -/
theorem Bytes.eq_of_overlay_eq
    {first second buffer : Bytes}
    (equal : Bytes.overlay first buffer = Bytes.overlay second buffer)
    (lengths : first.length = second.length) :
    first = second :=
  (List.append_inj equal lengths).1

namespace Kernel

/-- The value of a key in the map at a place, if there is one. -/
def valueAt (kernel : Kernel) (place : Nat) (key : Bytes) : Option Bytes :=
  kernel.tables[place]?.bind fun table => table.find? key

theorem valueAt_of_present
    {kernel : Kernel}
    {place : Nat}
    {table : Table}
    (present : kernel.tables[place]? = some table)
    (key : Bytes) :
    kernel.valueAt place key = table.find? key := by
  rw [valueAt, present, Option.bind_some]

theorem valueAt_eq_lookup
    (kernel : Kernel)
    (place : Nat)
    (key : Bytes) :
    kernel.valueAt place key = (kernel.entriesAt place).lookup key := by
  rw [valueAt, entriesAt]
  cases kernel.tables[place]? <;> rfl

/-- Following the history of a run gives the values at its end. -/
theorem valueAt_run
    {kernel : Kernel}
    (valid : kernel.Valid)
    (moves : List Move)
    (place : Nat)
    (key : Bytes) :
    (kernel.run moves).valueAt place key =
      (kernel.history place moves).foldl (Effect.act key)
        (kernel.valueAt place key) := by
  rw [valueAt_eq_lookup, entriesAt_run valid,
    Entries.lookup_along (valid.distinctAt place), valueAt_eq_lookup]

/-! ## Lookups -/

/-- The value of a key has the width of values. -/
theorem find?_length
    {table : Table}
    (valid : table.Valid)
    {key value : Bytes}
    (found : table.find? key = some value) :
    value.length = table.valueSize :=
  valid.valueWidth _ (mem_of_lookup found)

/-- After any run from the empty kernel, a lookup writes a value exactly if the
key was last written with it in the history of the map; otherwise there is no
such entry, and the lent buffer stays as it was. -/
theorem lookup_eq_last_write
    (moves : List Move)
    {descriptor : Descriptor}
    {place : Nat}
    {table : Table}
    (opened : (({} : Kernel).run moves).resolve descriptor = .ok (place, table))
    {key : Bytes}
    (width : key.length = table.keySize)
    (buffer : Bytes)
    (flags : UInt64) :
    let history := ({} : Kernel).history place moves
    let reply := ((Kernel.host.lookup descriptor key buffer flags).run
      (({} : Kernel).run moves)).1
    (∀ value, (reply = ⟨.ok, Bytes.overlay value buffer⟩ ∧
        value.length = table.valueSize) ↔ WrittenLast key value history) ∧
      ((∀ value, ¬WrittenLast key value history) →
        reply = ⟨.ofErrno Errno.noEntry, buffer⟩) := by
  intro history reply
  have valid := valid_empty.run moves
  have present := (resolve_eq_ok_iff.1 opened).2
  have tableValid := valid.tableAt present
  have held : history.foldl (Effect.act key) none = table.find? key := by
    rw [← valueAt_of_present present, valueAt_run valid_empty]
    rfl
  have lookedUp := congrArg Prod.fst
    (run_lookup_resolved opened width buffer flags)
  constructor
  · intro value
    rw [← foldl_act_eq_some_iff, held]
    cases found : table.find? key with
    | some stored =>
        rw [found] at lookedUp
        have storedWidth := find?_length tableValid found
        constructor
        · rintro ⟨replied, valueWidth⟩
          have buffers := congrArg Reply.buffer (lookedUp.symm.trans replied)
          rw [Bytes.eq_of_overlay_eq buffers (storedWidth.trans valueWidth.symm)]
        · intro equal
          cases equal
          exact ⟨lookedUp, storedWidth⟩
    | none =>
        rw [found] at lookedUp
        constructor
        · rintro ⟨replied, _⟩
          have statuses : Status.ofErrno Errno.noEntry = .ok :=
            congrArg Reply.status (lookedUp.symm.trans replied)
          exact absurd statuses (by decide)
        · intro equal
          cases equal
  · intro never
    cases found : table.find? key with
    | some stored =>
        exact absurd ((foldl_act_eq_some_iff history key stored).1
          (held.trans found)) (never stored)
    | none =>
        rw [found] at lookedUp
        exact lookedUp

/-- A map for two entries, written through two descriptors: a batch stops for
want of room, a key is overwritten, and another one is taken out by a batch. -/
def twoClients : List Move :=
  [.call (.create { mapType := 1, keySize := 1, valueSize := 2, maxEntries := 2 }),
    .call (.duplicate 101),
    .call (.updateBatch 102 [1, 2, 3] [1, 1, 2, 2, 3, 3] 3 {}),
    .call (.update 101 [2] [5, 6] 2),
    .call (.update 101 [2] [7, 7] 1),
    .call (.lookupBatch
      { remove := true, descriptor := 102, token := none, count := 1 })]

/-- The map of the two clients at the end. -/
def sharedTable : Table where
  id := 1000
  spec := { mapType := 1, keySize := 1, valueSize := 2, maxEntries := 2 }
  entries := [([2], [5, 6])]

theorem lookup_eq_last_write_twoClients :
    (({} : Kernel).run twoClients).resolve 102 = .ok (0, sharedTable) ∧
      ((Kernel.host.lookup 102 [2] [170, 170] 0).run
        (({} : Kernel).run twoClients)).1 = ⟨.ok, [5, 6]⟩ := by
  have opened :
      (({} : Kernel).run twoClients).resolve 102 = .ok (0, sharedTable) := by
    decide +kernel
  have width : ([2] : Bytes).length = sharedTable.keySize := rfl
  have last : WrittenLast [2] [5, 6] (({} : Kernel).history 0 twoClients) :=
    ⟨[.written [1] [1, 1], .written [2] [2, 2]], [.removed [1]],
      by decide +kernel, by decide⟩
  have law := lookup_eq_last_write twoClients opened width [170, 170] 0
  exact ⟨opened, ((law.1 [5, 6]).2 last).1⟩

end Kernel
end KernelMaps
