import KernelMaps.Kernel.Answer
import Mathlib.Data.List.Basic

/-!
# The response of one table

A call on the entries or the metadata of a map concerns one table: the kernel
finds the table behind the descriptor, lets it respond, and puts it back.
Everything else in the kernel plays no part, apart from two limits.
-/

namespace KernelMaps

/-- The descriptor of a call on the entries or the metadata of one map. -/
def Call.subject? : Call → Option Descriptor
  | .lookup descriptor .. | .update descriptor .. | .delete descriptor _
  | .nextKey descriptor _ | .info descriptor _ | .lookupAndDelete descriptor _
  | .freeze descriptor | .updateBatch descriptor ..
  | .deleteBatch descriptor .. => some descriptor
  | .lookupBatch query => some query.descriptor
  | _ => none

/-- What the kernel bounds for all of its maps. -/
structure Limits where
  /-- The greatest number of metadata bytes that is written. -/
  info : Option UInt32 := none
  /-- The number of entries in a bucket. -/
  bucket : Option UInt32 := none
  deriving DecidableEq, Repr

/-- The limits of a kernel. -/
def Kernel.limits (kernel : Kernel) : Limits :=
  ⟨kernel.infoLimit, kernel.bucketSize⟩

namespace Table

/-- What a call that is refused as a whole or done as a whole makes of a table. -/
def attempt
    (limits : Limits)
    (table : Table) : (call : Call) → Except Errno (call.Left × Table)
  | .lookup _ key _ =>
      match table.find? (key.fit table.keySize) with
      | none => .error Errno.noEntry
      | some value => .ok (value, table)
  | .update _ key value flags =>
      (table.update (key.fit table.keySize) (value.fit table.valueSize)
        flags).map fun next => ((), next)
  | .delete _ key =>
      (table.delete (key.fit table.keySize)).map fun taken => ((), taken.2)
  | .nextKey _ key =>
      (table.nextKey (key.map fun key => key.fit table.keySize)).map
        fun key => (key, table)
  | .info _ asked =>
      let length := Kernel.infoLength { infoLimit := limits.info } asked
      .ok (⟨table.record.encode.take length.toNat, length⟩, table)
  | .lookupAndDelete _ key => table.delete (key.fit table.keySize)
  | .freeze _ => table.freeze.map fun next => ((), next)
  | _ => .error Errno.invalid

/-- The answer of a table to a call on it, and the table after the call. -/
def respond
    (limits : Limits)
    (table : Table) : (call : Call) → Answer call × Table
  | .lookupBatch query =>
      let (error, left, next) := table.lookupBatch limits.bucket query
      (⟨Kernel.outcomeOf error, left⟩, next)
  | .updateBatch _ keys values count options =>
      let (stop, next) :=
        table.updateBatch options.elementFlags count.toNat keys values
      (⟨Kernel.outcomeOf stop.error, Kernel.leftCount count stop⟩, next)
  | .deleteBatch _ keys count _ =>
      let (stop, next) := table.deleteBatch count.toNat keys
      (⟨Kernel.outcomeOf stop.error, Kernel.leftCount count stop⟩, next)
  | call =>
      match table.attempt limits call with
      | .error errno => (.refuse call errno, table)
      | .ok (left, next) => (.accept call 0 left, next)

end Table

namespace Kernel

/-- A descriptor that leads to a table is open for its place. -/
theorem resolve_eq_ok_iff
    {kernel : Kernel}
    {descriptor : Descriptor}
    {place : Nat}
    {table : Table} :
    kernel.resolve descriptor = .ok (place, table) ↔
      kernel.descriptors.lookup descriptor = some place ∧
        kernel.tables[place]? = some table := by
  unfold resolve
  cases opened : kernel.descriptors.lookup descriptor with
  | none => simp
  | some other =>
      cases present : kernel.tables[other]? with
      | none =>
          simp only [present, reduceCtorEq, Option.some.injEq, false_iff, not_and]
          rintro rfl
          simp [present]
      | some found =>
          simp only [present, Except.ok.injEq, Prod.mk.injEq, Option.some.injEq]
          constructor
          · rintro ⟨rfl, rfl⟩
            exact ⟨rfl, present⟩
          · rintro ⟨rfl, again⟩
            exact ⟨rfl, Option.some.inj (present.symm.trans again)⟩

/-- Putting the table behind a descriptor back changes nothing. -/
theorem replace_self
    {kernel : Kernel}
    {descriptor : Descriptor}
    {place : Nat}
    {table : Table}
    (opened : kernel.resolve descriptor = .ok (place, table)) :
    kernel.replace place table = kernel := by
  obtain ⟨bound, equal⟩ :=
    List.getElem?_eq_some_iff.1 (resolve_eq_ok_iff.1 opened).2
  subst equal
  simp [replace]

/-- The table behind a descriptor after it was replaced. -/
theorem resolve_replace
    {kernel : Kernel}
    {descriptor : Descriptor}
    {place : Nat}
    {table : Table}
    (opened : kernel.resolve descriptor = .ok (place, table))
    (next : Table) :
    (kernel.replace place next).resolve descriptor = .ok (place, next) := by
  obtain ⟨named, present⟩ := resolve_eq_ok_iff.1 opened
  obtain ⟨bound, _⟩ := List.getElem?_eq_some_iff.1 present
  refine resolve_eq_ok_iff.2 ⟨named, ?_⟩
  rw [replace, List.getElem?_set_self bound]

/-- Of two replacements only the second counts. -/
@[simp] theorem replace_replace
    (kernel : Kernel)
    (place : Nat)
    (first second : Table) :
    (kernel.replace place first).replace place second =
      kernel.replace place second := by
  simp only [replace, List.set_set]

/-- A call through a descriptor that leads nowhere is refused. -/
theorem answer_unresolved
    {kernel : Kernel}
    {call : Call}
    {descriptor : Descriptor}
    {errno : Errno}
    (subject : call.subject? = some descriptor)
    (unresolved : kernel.resolve descriptor = .error errno) :
    kernel.answer call = (.refuse call errno, kernel) := by
  cases call <;> simp only [Call.subject?, Option.some.injEq, reduceCtorEq] at subject
  all_goals
    subst subject
    simp [answer, afterRead, afterChange, lookup, update, delete, nextKey, info,
      freeze, lookupBatch, updateBatch, deleteBatch, unresolved, bind, Except.bind,
      Except.map, outcomeOf, Answer.refuse, Call.untouched]

/-- A call through a descriptor is the response of the table behind it. -/
theorem answer_resolved
    {kernel : Kernel}
    {call : Call}
    {descriptor : Descriptor}
    {place : Nat}
    {table : Table}
    (subject : call.subject? = some descriptor)
    (resolved : kernel.resolve descriptor = .ok (place, table)) :
    kernel.answer call =
      ((table.respond kernel.limits call).1,
        kernel.replace place (table.respond kernel.limits call).2) := by
  have same := replace_self resolved
  cases call <;> simp only [Call.subject?, Option.some.injEq, reduceCtorEq] at subject
  all_goals subst subject
  case lookup descriptor key flags =>
      simp only [answer, afterRead, lookup, resolved, bind, Except.bind,
        Table.respond, Table.attempt]
      cases table.find? (key.fit table.keySize) <;> simp [same]
  case update descriptor key value flags =>
      simp only [answer, afterChange, update, resolved, bind, Except.bind,
        Table.respond, Table.attempt]
      cases table.update (key.fit table.keySize) (value.fit table.valueSize) flags <;>
        simp [Except.map, same]
  case delete descriptor key =>
      simp only [answer, afterChange, delete, resolved, bind, Except.bind,
        Table.respond, Table.attempt]
      cases table.delete (key.fit table.keySize) <;> simp [Except.map, same]
  case nextKey descriptor key =>
      simp only [answer, afterRead, nextKey, resolved, bind, Except.bind,
        Table.respond, Table.attempt]
      cases table.nextKey (key.map fun key => key.fit table.keySize) <;>
        simp [Except.map, same]
  case info descriptor asked =>
      simp [answer, afterRead, info, resolved, bind, Except.bind, Table.respond,
        Table.attempt, infoLength, limits, same]
  case lookupAndDelete descriptor key =>
      simp only [answer, delete, resolved, bind, Except.bind, Table.respond,
        Table.attempt]
      cases table.delete (key.fit table.keySize) <;> simp [same]
  case freeze descriptor =>
      simp only [answer, afterChange, freeze, resolved, bind, Except.bind,
        Table.respond, Table.attempt]
      cases table.freeze <;> simp [Except.map, same]
  case lookupBatch query =>
      simp [answer, lookupBatch, resolved, Table.respond, limits]
  case updateBatch descriptor keys values count options =>
      simp [answer, updateBatch, resolved, Table.respond]
  case deleteBatch descriptor keys count options =>
      simp [answer, deleteBatch, resolved, Table.respond]

/-- A call on one map leaves the descriptors as they are. -/
theorem answer_kept
    {kernel : Kernel}
    {call : Call}
    {descriptor : Descriptor}
    (subject : call.subject? = some descriptor) :
    (kernel.answer call).2.descriptors = kernel.descriptors ∧
      (kernel.answer call).2.opened = kernel.opened := by
  cases resolved : kernel.resolve descriptor with
  | error errno => rw [answer_unresolved subject resolved]; exact ⟨rfl, rfl⟩
  | ok found => rw [answer_resolved subject resolved]; exact ⟨rfl, rfl⟩

end Kernel
end KernelMaps
