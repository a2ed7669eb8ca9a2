import KernelMaps.Abi.Layout
import KernelMaps.Call
import Mathlib.Data.List.Basic

/-!
# The kernel interface

The records of the kernel interface are laid out soundly: their members lie one behind
the other, each at a multiple of its width, and a request fits into the block in which
requests travel. The tables of its numbers name each number once, and the number of
every call is among them.
-/

namespace KernelMaps
namespace Abi

/-! ## Records -/

/-- The number of bytes of a member. -/
def Member.size (member : Member) : Nat :=
  member.width * member.count

namespace Layout

theorem le_alignUp
    (position : Nat)
    {width : Nat}
    (positive : 0 < width) :
    position ≤ alignUp position width := by
  have below := Nat.lt_div_mul_add (a := position + width - 1) positive
  rw [alignUp]
  omega

theorem dvd_alignUp (position width : Nat) : width ∣ alignUp position width :=
  Nat.dvd_mul_left width _

/-- The members with their offsets, the first one not before `position`. -/
def placedFrom (position : Nat) (layout : Layout) : List (Member × Nat) :=
  layout.zip ((layout.offsetsFrom position).map Prod.snd)

theorem placedFrom_cons (position : Nat) (member : Member) (rest : Layout) :
    placedFrom position (member :: rest) =
      (member, alignUp position member.width) ::
        placedFrom (alignUp position member.width + member.size) rest := rfl

theorem offsetsFrom_names (position : Nat) (layout : Layout) :
    (layout.offsetsFrom position).map Prod.fst = layout.map Member.name := by
  induction layout generalizing position with
  | nil => rfl
  | cons member rest inductionHypothesis =>
      rw [offsetsFrom, List.map_cons, List.map_cons, inductionHypothesis]

/-- The members lie between two places, one behind the other and each at a multiple of
its width. -/
structure Between (start stop : Nat) (placed : List (Member × Nat)) : Prop where
  aligned : ∀ place ∈ placed, place.1.width ∣ place.2
  start_le : ∀ place ∈ placed, start ≤ place.2
  le_stop : ∀ place ∈ placed, place.2 + place.1.size ≤ stop
  apart : placed.Pairwise fun first second => first.2 + first.1.size ≤ second.2

theorem placedFrom_between
    (position : Nat)
    {layout : Layout}
    (positive : ∀ member ∈ layout, 0 < member.width) :
    Between position (endFrom position layout) (placedFrom position layout) ∧
      position ≤ endFrom position layout := by
  induction layout generalizing position with
  | nil => exact ⟨⟨nofun, nofun, nofun, List.Pairwise.nil⟩, Nat.le_refl position⟩
  | cons member rest inductionHypothesis =>
      have start := le_alignUp position (positive member List.mem_cons_self)
      obtain ⟨between, ends⟩ :=
        inductionHypothesis (alignUp position member.width + member.size)
          fun later inRest => positive later (List.mem_cons_of_mem _ inRest)
      have whole : endFrom position (member :: rest) =
          endFrom (alignUp position member.width + member.size) rest := rfl
      rw [placedFrom_cons, whole]
      refine ⟨⟨?aligned, ?start, ?stop, ?apart⟩, by omega⟩
      case aligned =>
        exact List.forall_mem_cons.2 ⟨dvd_alignUp position member.width, between.aligned⟩
      case start =>
        refine List.forall_mem_cons.2 ⟨start, fun place inRest => ?_⟩
        have later := between.start_le place inRest
        omega
      case stop => exact List.forall_mem_cons.2 ⟨ends, between.le_stop⟩
      case apart => exact List.pairwise_cons.2 ⟨between.start_le, between.apart⟩

theorem le_foldl_max (start : Nat) (widths : List Nat) : start ≤ widths.foldl max start := by
  induction widths generalizing start with
  | nil => exact Nat.le_refl start
  | cons width widths inductionHypothesis =>
      exact Nat.le_trans (Nat.le_max_left start width) (inductionHypothesis _)

/-- The offsets of a record are those of members that lie one behind the other, aligned
and within the record. -/
theorem offsets_between
    {layout : Layout}
    (positive : ∀ member ∈ layout, 0 < member.width) :
    layout.offsets.map Prod.fst = layout.map Member.name ∧
      Between 0 layout.size (layout.zip (layout.offsets.map Prod.snd)) := by
  have between := (placedFrom_between 0 positive).1
  have widest : 0 < (layout.map Member.width).foldl max 1 := le_foldl_max 1 _
  have whole : endFrom 0 layout ≤ layout.size := le_alignUp _ widest
  refine ⟨offsetsFrom_names 0 layout, between.aligned, between.start_le, ?_, between.apart⟩
  exact fun place member => Nat.le_trans (between.le_stop place member) whole

end Layout

/-- The records of the requests. -/
def requests : List Layout :=
  [mapCreate, mapElement, mapBatch, object, identifier, infoQuery]

/-- The members of a request have different names, and all of it fits into the block in
which requests travel. -/
theorem requests_fit : ∀ layout ∈ requests,
    (∀ member ∈ layout, 0 < member.width) ∧ (layout.map Member.name).Nodup ∧
      layout.size ≤ blankRequest.length := by
  decide +kernel

/-! ## Numbers -/

/-- A table pairs each of its entries with one other. -/
def PairsEach (table : List (α × β)) : Prop :=
  (table.map Prod.fst).Nodup ∧ (table.map Prod.snd).Nodup

instance [DecidableEq α] [DecidableEq β] (table : List (α × β)) :
    Decidable (PairsEach table) :=
  inferInstanceAs (Decidable (_ ∧ _))

/-- A table names each number once, and each of its names stands for one number. -/
theorem tables_pairEach :
    (∀ table ∈ [Command.table, ElementFlag.table, MapFlag.table, MapType.table],
      PairsEach table) ∧
    PairsEach errnoTable ∧ PairsEach MapType.shortNames := by
  decide +kernel

/-- The short names are those of types that there are. -/
theorem shortNames_listed : ∀ pair ∈ MapType.shortNames,
    pair.1.toNat ∈ MapType.table.map Prod.snd := by
  decide +kernel

/-- The error numbers that callers compare with are those of failures. -/
theorem errnoTable_pos : ∀ pair ∈ errnoTable, 0 < pair.2 := by
  decide

end Abi

/-- A call that is put as a command has one of the listed numbers, unless its number was
given with it. -/
theorem Call.command_listed
    {call : Call}
    {number : UInt32}
    (put : call.kind = .command number) :
    call = .unknown number ∨ number.toNat ∈ Abi.Command.table.map Prod.snd := by
  cases call with
  | close | duplicate => cases put
  | unknown => exact Or.inl (congrArg unknown (CallKind.command.inj put))
  | lookupBatch query =>
      refine Or.inr ?_
      rw [← CallKind.command.inj put]
      split <;> decide
  | _ =>
      cases put
      exact Or.inr (by decide)

end KernelMaps
