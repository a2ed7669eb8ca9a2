import KernelMaps.Proofs.Effects
import KernelMaps.Proofs.Invariant

/-!
# Histories of maps

The history of a map on a run is the list of the effects that the answers to
the calls on it tell of, through whichever descriptor. Following the history
gives the entries of the map at the end of the run.
-/

namespace KernelMaps
namespace Kernel

/-- The effects of one move on the map at a place. -/
def effectsAt (place : Nat) (kernel : Kernel) : Move → List Effect
  | .call call =>
      match call.subject?.map kernel.resolve with
      | some (.ok (found, table)) =>
          if found = place then
            call.effects table.keySize table.valueSize (kernel.answer call).1
          else []
      | _ => []
  | _ => []

/-- The effects of a series of moves on the map at a place. -/
def history (place : Nat) : Kernel → List Move → List Effect
  | _, [] => []
  | kernel, move :: moves =>
      kernel.effectsAt place move ++ (kernel.after move).history place moves

/-- The entries of the map at a place; none if there is no such map. -/
def entriesAt (kernel : Kernel) (place : Nat) : Entries :=
  kernel.tables[place]?.elim [] Table.entries

theorem entriesAt_of_present
    {kernel : Kernel}
    {place : Nat}
    {table : Table}
    (present : kernel.tables[place]? = some table) :
    kernel.entriesAt place = table.entries := by
  rw [entriesAt, present, Option.elim_some]

theorem Valid.distinctAt
    {kernel : Kernel}
    (valid : kernel.Valid)
    (place : Nat) :
    (kernel.entriesAt place).Distinct := by
  cases present : kernel.tables[place]? with
  | none =>
      rw [entriesAt, present]
      exact List.nodup_nil
  | some table =>
      rw [entriesAt_of_present present]
      exact (valid.tableAt present).distinct

/-- Naming keeps all entries; a map that is new holds none. -/
theorem Naming.entriesAt
    {kernel next : Kernel}
    (naming : kernel.Naming next)
    (place : Nat) :
    next.entriesAt place = kernel.entriesAt place := by
  cases present : kernel.tables[place]? with
  | some table =>
      rw [entriesAt_of_present present,
        entriesAt_of_present (naming.tables_kept present)]
  | none =>
      rw [Kernel.entriesAt, Kernel.entriesAt, present, Option.elim_none]
      cases naming with
      | @create spec creatable =>
          have tables : ((kernel.withMap spec).handOut
              kernel.tables.length).2.tables = (kernel.withMap spec).tables := rfl
          have behind := List.getElem?_eq_none_iff.1 present
          rw [tables, withMap, List.getElem?_append_right behind]
          cases place - kernel.tables.length <;> rfl
      | stay | handOut | close | pin => exact congrArg (Option.elim · _ _) present

theorem entriesAt_replace
    {kernel : Kernel}
    {found : Nat}
    {table : Table}
    (present : kernel.tables[found]? = some table)
    (next : Table)
    (place : Nat) :
    (kernel.replace found next).entriesAt place =
      if found = place then next.entries else kernel.entriesAt place := by
  obtain ⟨bound, _⟩ := List.getElem?_eq_some_iff.1 present
  rw [entriesAt, replace, List.getElem?_set]
  by_cases same : found = place
  · rw [if_pos same, if_pos bound, if_pos same, Option.elim_some]
  · rw [if_neg same, if_neg same, entriesAt]

/-- One move has its effects on the entries of a map. -/
theorem entriesAt_after
    {kernel : Kernel}
    (valid : kernel.Valid)
    (move : Move)
    (place : Nat) :
    (kernel.after move).entriesAt place =
      (kernel.entriesAt place).along (kernel.effectsAt place move) := by
  cases move with
  | limitInfo limit | sizeBuckets size => rfl
  | call call =>
      simp only [after, effectsAt]
      cases subject : call.subject? with
      | none => exact (answer_naming valid subject).entriesAt place
      | some descriptor =>
          rw [Option.map_some]
          cases resolved : kernel.resolve descriptor with
          | error errno => rw [answer_unresolved subject resolved]; rfl
          | ok result =>
              obtain ⟨found, table⟩ := result
              have present := (resolve_eq_ok_iff.1 resolved).2
              rw [answer_resolved subject resolved, entriesAt_replace present]
              by_cases same : found = place
              · subst same
                simp only [if_true]
                rw [entriesAt_of_present present]
                exact Table.entries_respond kernel.limits (valid.tableAt present) call
              · simp [same]

/-- Following the history of a run gives the entries at its end. -/
theorem entriesAt_run
    {kernel : Kernel}
    (valid : kernel.Valid)
    (moves : List Move)
    (place : Nat) :
    (kernel.run moves).entriesAt place =
      (kernel.entriesAt place).along (kernel.history place moves) := by
  induction moves generalizing kernel with
  | nil => rfl
  | cons move moves inductionHypothesis =>
      have nextValid := (after_step valid move).valid valid
      rw [run_cons, inductionHypothesis nextValid, entriesAt_after valid, history,
        Entries.along, Entries.along, Entries.along, List.foldl_append]

end Kernel
end KernelMaps
