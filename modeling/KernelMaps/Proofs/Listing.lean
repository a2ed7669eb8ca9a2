import KernelMaps.CommandLine.Run
import KernelMaps.Proofs.Names
import KernelMaps.Proofs.Refusals

/-!
# The list of maps

Identifiers ascend in the order in which maps were created, and the least identifier
above that of a map is the one of the next map. So a walk from identifier to identifier
meets every map once. A map that cannot be opened is left out, and the walk goes on
behind it.
-/

namespace KernelMaps

namespace Kernel

/-! ## Ascending identifiers -/

/-- Identifiers ascend in the order of creation. -/
theorem Valid.ids_ascending
    {kernel : Kernel}
    (valid : kernel.Valid)
    (spare : kernel.opened < descriptorLimit) :
    kernel.tables.Pairwise fun earlier later => earlier.id < later.id := by
  rw [List.pairwise_iff_getElem]
  intro first second firstBound secondBound ordered
  have firstId := valid.id_toNat spare (List.getElem?_eq_getElem firstBound)
  have secondId := valid.id_toNat spare (List.getElem?_eq_getElem secondBound)
  rw [UInt32.lt_iff_toNat_lt, firstId, secondId]
  omega

/-- The first of ascending numbers is the least. -/
theorem min?_of_ascending
    {first : UInt32}
    {rest : List UInt32}
    (least : ∀ number ∈ rest, first < number) :
    (first :: rest).min? = some first := by
  rw [List.min?_eq_some_iff]
  refine ⟨List.mem_cons_self, fun number member => ?_⟩
  rcases List.mem_cons.1 member with rfl | later
  · exact UInt32.le_refl _
  · exact UInt32.le_of_lt (least number later)

/-- A number lies between the identifiers of the earlier maps and those of the later. -/
structure Divides (start : UInt32) (earlier later : List Table) : Prop where
  passed : ∀ table ∈ earlier, ¬start < table.id
  ahead : ∀ table ∈ later, start < table.id

theorem Divides.filter_eq
    {start : UInt32}
    {earlier later : List Table}
    (divides : Divides start earlier later) :
    (((earlier ++ later).map Table.id).filter fun id => start < id) =
      later.map Table.id := by
  have behind : (earlier.map Table.id).filter (fun id => start < id) = [] := by
    rw [List.filter_eq_nil_iff, List.forall_mem_map]
    exact fun table member => by simpa using divides.passed table member
  have before : (later.map Table.id).filter (fun id => start < id) =
      later.map Table.id := by
    rw [List.filter_eq_self, List.forall_mem_map]
    exact fun table member => by simpa using divides.ahead table member
  rw [List.map_append, List.filter_append, behind, before, List.nil_append]

/-- The next map divides those before it, and itself, from those after it. -/
theorem Divides.next
    {table : Table}
    {earlier later : List Table}
    (ascending : (earlier ++ table :: later).Pairwise
      fun earlier later => earlier.id < later.id) :
    Divides table.id (earlier ++ [table]) later := by
  obtain ⟨_, behind, across⟩ := List.pairwise_append.1 ascending
  refine ⟨?_, (List.pairwise_cons.1 behind).1⟩
  intro other member
  rcases List.mem_append.1 member with before | same
  · exact UInt32.lt_asymm (across other before table List.mem_cons_self)
  · rw [List.mem_singleton.1 same]
    exact UInt32.lt_irrefl _

variable
  {kernel : Kernel}
  {start : UInt32}
  {earlier later : List Table}

theorem nextId_of_end
    (tables : kernel.tables = earlier ++ [])
    (divides : Divides start earlier []) :
    kernel.nextId start = .error Errno.noEntry := by
  rw [nextId, tables, divides.filter_eq]
  rfl

theorem nextId_of_next
    {table : Table}
    (tables : kernel.tables = earlier ++ table :: later)
    (ascending : kernel.tables.Pairwise fun earlier later => earlier.id < later.id)
    (divides : Divides start earlier (table :: later)) :
    kernel.nextId start = .ok table.id := by
  rw [tables] at ascending
  have least : ∀ id ∈ later.map Table.id, table.id < id := by
    rw [List.forall_mem_map]
    exact (Divides.next ascending).ahead
  rw [nextId, tables, divides.filter_eq, List.map_cons, min?_of_ascending least]

theorem run_nextId (kernel : Kernel) (start : UInt32) :
    (Kernel.host.nextId start).run kernel =
      match kernel.nextId start with
      | .ok id => ((.ok, id), kernel)
      | .error errno => ((.ofOutcome (outcomeOf (some errno)), 0), kernel) := by
  rw [Host.nextId, Action.run_bind, run_issue, answer]
  cases kernel.nextId start <;> rfl

/-- There are not more maps than a walk has steps. -/
theorem length_tables_lt_patience (kernel : Kernel) :
    kernel.tables.length < Kernel.host.patience kernel := by
  have bounded : ∀ tables : List Table, tables.length ≤
      tables.foldr (fun table total => table.entries.length + 1 + total) 0 := by
    intro tables
    induction tables with
    | nil => exact Nat.zero_le _
    | cons table rest inductionHypothesis =>
        rw [List.length_cons, List.foldr_cons]
        omega
  have enough := bounded kernel.tables
  show kernel.tables.length < kernel.size + 2
  unfold size
  omega

end Kernel

/-- Some identifiers cannot be opened, each with its error number. -/
structure Gone where
  errno? : UInt32 → Option Errno
  positive : ∀ {id : UInt32} {errno : Errno}, errno? id = some errno → 0 < errno

namespace Gone

/-- Every identifier can be opened. -/
def nothing : Gone where
  errno? := fun _ => none
  positive := nofun

/-- The call is refused if it opens an identifier that is gone. -/
def refusal (gone : Gone) : Call → Option Errno
  | .openId id => gone.errno? id
  | _ => none

def refusals (gone : Gone) : Refusals where
  errno? := gone.refusal
  positive := by
    intro call errno refused
    cases call with
    | openId id => exact gone.positive refused
    | _ => cases refused

/-- The maps that can be opened. -/
def stays (gone : Gone) (tables : List Table) : List Table :=
  tables.filter fun table => (gone.errno? table.id).isNone

theorem host_nothing : nothing.refusals.host = Kernel.host := by
  have passes : nothing.refusals = Refusals.nothing := by
    have none : nothing.refusal = fun _ => none := by
      funext call
      cases call <;> rfl
    simp only [refusals, Refusals.nothing, none]
  rw [passes, Refusals.host_nothing]

theorem stays_nothing (tables : List Table) : nothing.stays tables = tables :=
  List.filter_eq_self.2 fun _ _ => rfl

end Gone

/-! ## One step of the walk -/

namespace Inspect

open Kernel (descriptorLimit)

section Step

variable
  {gone : Gone}
  {kernel : Kernel}
  {start : UInt32}

/-- A success does not end the list. -/
theorem isErrno_ok (state : σ) :
    (Task.attempt (Status.ok.isErrno Errno.noEntry) : Task σ Bool).run.run state =
      (.ok false, state) := rfl

/-- Behind the last map the list ends. -/
theorem run_listFrom_of_end
    (ended : kernel.nextId start = .error Errno.noEntry)
    (patience : Nat) :
    (listFrom gone.refusals.host (patience + 1) start).run.run kernel =
      (.ok [], kernel) := by
  have asked : (gone.refusals.host.nextId start).run kernel =
      ((.ofErrno Errno.noEntry, 0), kernel) := by
    rw [Refusals.run_nextId_of_passed rfl, Kernel.run_nextId, ended]
    rfl
  rw [listFrom, Task.run_bind, Task.run_lift, asked]
  rfl

/-- A map that is gone is left out. -/
theorem run_listFrom_of_gone
    {id : UInt32}
    (found : kernel.nextId start = .ok id)
    {errno : Errno}
    (refused : gone.errno? id = some errno)
    (patience : Nat) :
    (listFrom gone.refusals.host (patience + 1) start).run.run kernel =
      (listFrom gone.refusals.host patience id).run.run kernel := by
  have asked : (gone.refusals.host.nextId start).run kernel = ((.ok, id), kernel) := by
    rw [Refusals.run_nextId_of_passed rfl, Kernel.run_nextId, found]
  have opened : (gone.refusals.host.openId id).run kernel = (.ofErrno errno, kernel) :=
    Refusals.run_issueStatus_of_refused refused kernel
  rw [listFrom, Task.run_bind, Task.run_lift, asked]
  dsimp only
  rw [Task.run_bind_of_ok (isErrno_ok _), if_neg Bool.false_ne_true,
    Task.run_bind_of_ok (Task.run_check_ok _ _), Task.run_bind, Task.run_lift, opened]
  dsimp only
  rw [Handle.ofStatus_ofErrno _ (gone.positive refused),
    Task.run_bind_of_ok (Task.run_attempt_ok _ _)]
  rfl

/-- A map that can be opened is shown, and its descriptor goes back. -/
theorem run_listFrom_of_found
    (valid : kernel.Valid)
    (spare : kernel.opened < descriptorLimit)
    {place : Nat}
    {table : Table}
    (present : kernel.tables[place]? = some table)
    (found : kernel.nextId start = .ok table.id)
    (passed : gone.errno? table.id = none)
    {patience : Nat}
    {infos : List MapInfo}
    {after : Kernel}
    (rest : (listFrom gone.refusals.host patience table.id).run.run
      kernel.skipDescriptor = (.ok infos, after)) :
    (listFrom gone.refusals.host (patience + 1) start).run.run kernel =
      (.ok (table.infoWithin kernel.infoLimit :: infos), after) := by
  have asked : (gone.refusals.host.nextId start).run kernel =
      ((.ok, table.id), kernel) := by
    rw [Refusals.run_nextId_of_passed rfl, Kernel.run_nextId, found]
  have opened : (gone.refusals.host.openId table.id).run kernel =
      (.word kernel.fresh, (kernel.handOut place).2) :=
    (Refusals.run_issueStatus_of_passed passed kernel).trans
      (Kernel.run_openId_of_found (valid.findIdx?_id spare present))
  have resolved : (kernel.handOut place).2.resolve kernel.fresh = .ok (place, table) :=
    Kernel.resolve_eq_ok_iff.2 ⟨List.lookup_cons_self, present⟩
  have described : (Task.info gone.refusals.host kernel.fresh).run.run
      (kernel.handOut place).2 =
        (.ok (table.infoWithin kernel.infoLimit), (kernel.handOut place).2) := by
    rw [Refusals.run_info_of_passed rfl, Task.info, Task.run_bind, Task.run_lift,
      Kernel.run_info_resolved resolved]
    rfl
  have shown : (Task.holding gone.refusals.host (.own kernel.fresh)
      (Task.info gone.refusals.host)).run.run (kernel.handOut place).2 =
        (.ok (table.infoWithin kernel.infoLimit), kernel.skipDescriptor) := by
    rw [Refusals.run_holding, described]
    exact congrArg (Prod.mk _) (Kernel.answer_close_handOut valid spare place)
  rw [listFrom, Task.run_bind, Task.run_lift, asked]
  dsimp only
  rw [Task.run_bind_of_ok (isErrno_ok _), if_neg Bool.false_ne_true,
    Task.run_bind_of_ok (Task.run_check_ok _ _), Task.run_bind, Task.run_lift, opened]
  dsimp only
  rw [Handle.ofStatus_of_nonneg _ (Kernel.fresh_nonneg spare),
    Task.run_bind_of_ok (Task.run_attempt_ok _ _)]
  dsimp only
  rw [Task.run_bind_of_ok shown, Task.run_bind_of_ok rest, Task.run_pure]

end Step

/-! ## The whole walk -/

/-- From between two maps, the walk shows the later ones that can be opened, in their
order. It changes nothing but the count of the descriptors that were handed out. -/
theorem run_listFrom
    (gone : Gone)
    {kernel : Kernel}
    (valid : kernel.Valid)
    (ascending : kernel.tables.Pairwise fun earlier later => earlier.id < later.id)
    {earlier later : List Table}
    (tables : kernel.tables = earlier ++ later)
    {start : UInt32}
    (divides : Kernel.Divides start earlier later)
    (enough : kernel.opened + later.length ≤ descriptorLimit)
    {patience : Nat}
    (patient : later.length < patience) :
    (listFrom gone.refusals.host patience start).run.run kernel =
      (.ok ((gone.stays later).map (Table.infoWithin · kernel.infoLimit)),
        { kernel with opened := kernel.opened + (gone.stays later).length }) := by
  -- The maps behind the start become fewer with every step.
  induction later generalizing kernel earlier start patience with
  | nil =>
      obtain ⟨spare, rfl⟩ := Nat.exists_eq_succ_of_ne_zero (Nat.ne_of_gt patient)
      exact run_listFrom_of_end (Kernel.nextId_of_end tables divides) spare
  | cons table later inductionHypothesis =>
      obtain ⟨spare, rfl⟩ :=
        Nat.exists_eq_succ_of_ne_zero (Nat.ne_of_gt (Nat.zero_lt_of_lt patient))
      have fewer : later.length < spare := Nat.lt_of_succ_lt_succ patient
      rw [List.length_cons] at enough
      have found := Kernel.nextId_of_next tables ascending divides
      have moved := Kernel.Divides.next (tables ▸ ascending)
      have split : kernel.tables = (earlier ++ [table]) ++ later := by
        rw [tables, List.append_assoc, List.singleton_append]
      cases goes : gone.errno? table.id with
      | some errno =>
          have left : gone.stays (table :: later) = gone.stays later :=
            List.filter_cons_of_neg (by simp [goes])
          rw [run_listFrom_of_gone found goes, left]
          exact inductionHypothesis valid ascending split moved (by omega) fewer
      | none =>
          have kept : gone.stays (table :: later) = table :: gone.stays later :=
            List.filter_cons_of_pos (by simp [goes])
          have present : kernel.tables[earlier.length]? = some table := by
            rw [tables, List.getElem?_append_right (Nat.le_refl _), Nat.sub_self]
            rfl
          have enoughLeft : kernel.skipDescriptor.opened + later.length ≤
              descriptorLimit := by
            show kernel.opened + 1 + later.length ≤ descriptorLimit
            omega
          have rest := inductionHypothesis valid.skipDescriptor ascending split moved
            enoughLeft fewer
          rw [run_listFrom_of_found valid (by omega) present found goes rest, kept,
            List.map_cons, List.length_cons]
          have counted : kernel.opened + 1 + (gone.stays later).length =
              kernel.opened + ((gone.stays later).length + 1) := by omega
          exact congrArg (fun opened => (_, { kernel with opened })) counted

/-- The list holds the metadata of all maps that can be opened. -/
theorem run_list
    (gone : Gone)
    {kernel : Kernel}
    (valid : kernel.Valid)
    (spare : kernel.opened < descriptorLimit)
    (enough : kernel.opened + kernel.tables.length ≤ descriptorLimit) :
    (list gone.refusals.host).run.run kernel =
      (.ok ((gone.stays kernel.tables).map (Table.infoWithin · kernel.infoLimit)),
        { kernel with opened := kernel.opened + (gone.stays kernel.tables).length }) := by
  have patience : (Dump.patience gone.refusals.host).run.run kernel =
      (.ok (Kernel.host.patience kernel), kernel) := rfl
  have divides : Kernel.Divides 0 [] kernel.tables := by
    refine ⟨nofun, fun table member => ?_⟩
    obtain ⟨place, present⟩ := List.getElem?_of_mem member
    rw [UInt32.lt_iff_toNat_lt, valid.id_toNat spare present]
    exact Nat.add_pos_left (by decide) place
  rw [list, Task.run_bind_of_ok patience]
  exact run_listFrom gone valid (valid.ids_ascending spare) rfl divides enough
    kernel.length_tables_lt_patience

/-- What is shown for an identifier is the metadata of its map. -/
theorem run_showInfo_id
    {kernel : Kernel}
    (valid : kernel.Valid)
    (spare : kernel.opened < descriptorLimit)
    {place : Nat}
    {table : Table}
    (present : kernel.tables[place]? = some table) :
    (showInfo Kernel.host (.id table.id)).run.run kernel =
      (.ok (table.infoWithin kernel.infoLimit), kernel.skipDescriptor) := by
  have located : kernel.located (.id table.id) = some place :=
    valid.findIdx?_id spare present
  exact Kernel.run_use_of_reads valid spare located present rfl

end Inspect

namespace CommandLine.Command

open Kernel (descriptorLimit)

/-- What the list shows of the maps of a kernel, given what is shown for each of them. -/
structure Lists (kernel : Kernel) (machine : Machine) (shown : Table → MapInfo) : Prop where
  /-- For its identifier each map is shown like this. -/
  each : ∀ table ∈ kernel.tables,
    (((info (.id table.id)).run Kernel.host machine).run.run kernel).1 =
      .ok (.json (shown table).toJson)
  /-- With the leading words its identifier is shown. -/
  id : Table.WritesLeading kernel.infoLimit →
    ∀ table ∈ kernel.tables, (shown table).id = table.id
  /-- Every map is listed once, and the identifiers ascend. -/
  all : (list.run Kernel.host machine).run.run kernel =
    (.ok (.json (.array (kernel.tables.map fun table => (shown table).toJson))),
      { kernel with opened := kernel.opened + kernel.tables.length })
  ascending : (kernel.tables.map Table.id).Pairwise (· < ·)
  /-- Maps that cannot be opened are left out, and nothing else. -/
  others : ∀ gone : Gone,
    let stays := gone.stays kernel.tables
    (list.run gone.refusals.host machine).run.run kernel =
      (.ok (.json (.array (stays.map fun table => (shown table).toJson))),
        { kernel with opened := kernel.opened + stays.length })

/-- The list shows each map as it is shown for its identifier, one after the other with
ascending identifiers, and leaves out those that cannot be opened. It takes one
descriptor for each map that it shows, whose numbers must not run out on the way. -/
theorem run_list_shows_each
    {kernel : Kernel}
    (reachable : kernel.Reachable)
    (enough : kernel.opened + kernel.tables.length ≤ descriptorLimit)
    (machine : Machine) :
    ∃ shown, Lists kernel machine shown := by
  have valid := reachable.valid
  have spare := reachable.opened_lt
  have others : ∀ gone : Gone,
      (list.run gone.refusals.host machine).run.run kernel =
        (.ok (.json (.array ((gone.stays kernel.tables).map fun table =>
          (table.infoWithin kernel.infoLimit).toJson))),
          { kernel with opened := kernel.opened + (gone.stays kernel.tables).length }) := by
    intro gone
    rw [Command.run, Task.run_bind_of_ok (Inspect.run_list gone valid spare enough),
      List.map_map]
    rfl
  refine ⟨(Table.infoWithin · kernel.infoLimit), ?_, ?_, ?_, ?_, others⟩
  · intro table member
    obtain ⟨place, present⟩ := List.getElem?_of_mem member
    rw [Command.run, Task.run_bind_of_ok (Inspect.run_showInfo_id valid spare present)]
    rfl
  · exact fun leading table _ => (Table.infoWithin_describes leading table).id
  · have all := others .nothing
    rwa [Gone.host_nothing, Gone.stays_nothing] at all
  · exact List.pairwise_map.2 (valid.ids_ascending spare)

/-- Three maps, of which the first is closed and the second is pinned. -/
def threeMaps : Kernel :=
  ({} : Kernel).run
    [.call (.create { mapType := 1, keySize := 1, valueSize := 1, maxEntries := 2 }),
      .call (.create { mapType := 1, keySize := 2, valueSize := 1, maxEntries := 2 }),
      .call (.create { mapType := 1, keySize := 3, valueSize := 1, maxEntries := 2 }),
      .call (.close 101),
      .call (.pin 102 "/sys/fs/bpf/second")]

/-- The second map cannot be opened. -/
def secondGone : Gone where
  errno? := fun id => if id = 1001 then some Errno.noEntry else none
  positive := by
    intro id errno refused
    split at refused
    · cases refused
      decide
    · cases refused

theorem run_list_shows_each_threeMaps :
    let machine := Machine.plain "0"
    threeMaps.Reachable ∧
      threeMaps.opened + threeMaps.tables.length ≤ descriptorLimit ∧
      ∃ first third : Json,
        (((info (.id 1000)).run Kernel.host machine).run.run threeMaps).1 =
          .ok (.json first) ∧
        (((info (.id 1002)).run Kernel.host machine).run.run threeMaps).1 =
          .ok (.json third) ∧
        ((list.run secondGone.refusals.host machine).run.run threeMaps).1 =
          .ok (.json (.array [first, third])) := by
  intro machine
  have reachable : threeMaps.Reachable := ⟨_, rfl, by decide +kernel⟩
  have enough : threeMaps.opened + threeMaps.tables.length ≤ descriptorLimit := by
    decide +kernel
  obtain ⟨shown, lists⟩ := run_list_shows_each reachable enough machine
  let first : Table :=
    { id := 1000, spec := { mapType := 1, keySize := 1, valueSize := 1, maxEntries := 2 } }
  let third : Table :=
    { id := 1002, spec := { mapType := 1, keySize := 3, valueSize := 1, maxEntries := 2 } }
  have stays : secondGone.stays threeMaps.tables = [first, third] := by decide +kernel
  have listed := congrArg Prod.fst (lists.others secondGone)
  rw [stays] at listed
  exact ⟨reachable, enough, (shown first).toJson, (shown third).toJson,
    lists.each first (by decide +kernel), lists.each third (by decide +kernel), listed⟩

end CommandLine.Command
end KernelMaps
