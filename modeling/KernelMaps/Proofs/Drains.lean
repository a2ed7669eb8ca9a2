import KernelMaps.Proofs.BatchTraversals

/-!
# Taking a map apart in batches

A batch that takes entries out gives what a batch that only reads them gives, and
takes out these entries and no others. The table shrinks under the cursor, so the
next batch starts where this one started: taking batches from the start gives every
entry of the map once, in order, and leaves the map empty.
-/

namespace KernelMaps

namespace Table

/-! ## One batch -/

/-- On a table that can be written, a batch that takes entries out ends like one that
only reads them, and leaves the same count, keys and values. -/
theorem lookupBatch_taking
    {table : Table}
    (writable : table.frozen = false)
    (bucketSize : Option UInt32)
    (query : BatchQuery) :
    let taking := table.lookupBatch bucketSize { query with remove := true }
    let reading := table.lookupBatch bucketSize { query with remove := false }
    taking.1 = reading.1 ∧ taking.2.1.count = reading.2.1.count ∧
      taking.2.1.keys = reading.2.1.keys ∧ taking.2.1.values = reading.2.1.values := by
  simp only [lookupBatch, writable, Bool.and_false, Bool.false_eq_true, if_false]
  split
  · exact ⟨rfl, rfl, rfl, rfl⟩
  · split
    · exact ⟨rfl, rfl, rfl, rfl⟩
    · split <;> exact ⟨rfl, rfl, rfl, rfl⟩

/-- On a table that can be written, a batch is served, or it gives no entry. -/
theorem serves_or_empty
    {table : Table}
    (writable : table.frozen = false)
    (bucketSize : Option UInt32)
    {query : BatchQuery}
    (lends : query.lendsToken = true) :
    table.Serves bucketSize query ∨
      ∃ error, table.lookupBatch bucketSize query = (error, ⟨0, [], [], []⟩, table) := by
  by_cases asks : query.count = 0
  · exact Or.inr ⟨none, lookupBatch_of_empty (fun _ => writable) asks bucketSize⟩
  · obtain serves | ⟨_, _, overflows⟩ :=
      table.serves_or_overflows bucketSize query (fun _ => writable) asks lends
    · exact Or.inl serves
    · exact Or.inr ⟨some Errno.noSpace, overflows⟩

/-- A batch lies between the entries that are left when it is taken out. -/
theorem entries_eq_around_batch (table : Table) (query : BatchQuery) :
    table.entries =
      table.entries.take (table.position query.token) ++ table.batchOf query ++
        table.entries.drop
          (table.position query.token + (table.batchOf query).length) := by
  have behind := List.take_append_drop (table.batchOf query).length
    (table.entries.drop (table.position query.token))
  rw [table.take_length_batchOf query] at behind
  rw [List.append_assoc, ← List.drop_drop, behind, List.take_append_drop]

section Taking

variable
  {table : Table}
  (bucketSize : Option UInt32)
  (query : BatchQuery)
  (writable : table.frozen = false)
  (lends : query.lendsToken = true)

include writable lends

/-- The entries that a batch gives are taken out, and the others keep their order. -/
theorem lookupBatch_takes
    (valid : table.Valid)
    (removes : query.remove = true)
    (token keys values : Bytes) :
    let taking := table.lookupBatch bucketSize query
    ∃ earlier later,
      table.entries = earlier ++
        (Kernel.batchReplyOf taking.1 taking.2.1 token keys values).entries
          table.keySize table.valueSize ++ later ∧
      taking.2.2 = { table with entries := earlier ++ later } := by
  obtain serves | ⟨error, empty⟩ := serves_or_empty writable bucketSize lends
  · have given : (Kernel.batchReplyOf (table.batchError query) (table.batchLeft query)
        token keys values).entries table.keySize table.valueSize = table.batchOf query :=
      entries_batchReply valid query token keys values
    rw [lookupBatch_of_serves serves]
    simp only [given]
    refine ⟨_, _, table.entries_eq_around_batch query, ?_⟩
    rw [afterBatch, if_pos removes]
    rfl
  · rw [empty]
    refine ⟨table.entries, [], ?_, ?_⟩
    · simp [BatchReply.entries, Kernel.batchReplyOf]
    · rw [List.append_nil]

/-- A batch that is too small takes nothing out. -/
theorem lookupBatch_of_noSpace
    (tooSmall : (Status.ofOutcome (Kernel.outcomeOf
      (table.lookupBatch bucketSize query).1)).isErrno Errno.noSpace = .ok true) :
    (table.lookupBatch bucketSize query).2.2 = table := by
  obtain serves | ⟨error, empty⟩ := serves_or_empty writable bucketSize lends
  · simp only [lookupBatch_of_serves serves] at tooSmall
    rcases table.batchError_eq_none_or query with more | last
    · rw [more] at tooSmall
      exact absurd tooSmall (by decide)
    · rw [last] at tooSmall
      exact absurd tooSmall (by decide)
  · rw [empty]

end Taking

end Table

namespace Kernel

/-- A batch that takes entries out, compared with one that only reads them. -/
structure TakesWhatIsRead
    (kernel : Kernel)
    (place : Nat)
    (table : Table)
    (taking reading : BatchReply × Kernel) : Prop where
  status : taking.1.status = reading.1.status
  count : taking.1.count = reading.1.count
  keys : taking.1.keys = reading.1.keys
  values : taking.1.values = reading.1.values
  /-- The entries that are given are taken out, and the others keep their order. -/
  taken : ∃ earlier later,
    table.entries =
      earlier ++ taking.1.entries table.keySize table.valueSize ++ later ∧
    taking.2 = kernel.replace place { table with entries := earlier ++ later }
  /-- A batch that is too small takes nothing out. -/
  tooSmall : taking.1.status.isErrno Errno.noSpace = .ok true → taking.2 = kernel

/-- A batch that takes entries out gives what a batch that only reads gives. -/
theorem Valid.takesWhatIsRead
    {kernel : Kernel}
    (valid : kernel.Valid)
    {descriptor : Descriptor}
    {place : Nat}
    {table : Table}
    (opened : kernel.resolve descriptor = .ok (place, table))
    (writable : table.frozen = false)
    (token : Option Bytes)
    (count : UInt32)
    (options : BatchOptions)
    (out keys values : Bytes) :
    let query (remove : Bool) : BatchQuery := { remove, descriptor, token, count, options }
    kernel.TakesWhatIsRead place table
      ((Kernel.host.lookupBatch (query true) out keys values).run kernel)
      ((Kernel.host.lookupBatch (query false) out keys values).run kernel) := by
  intro query
  have tableValid := valid.tableAt (resolve_eq_ok_iff.1 opened).2
  obtain ⟨sameError, sameCount, sameKeys, sameValues⟩ :=
    table.lookupBatch_taking writable kernel.bucketSize (query true)
  obtain ⟨earlier, later, around, left⟩ :=
    Table.lookupBatch_takes kernel.bucketSize (query true) writable rfl tableValid rfl out
      keys values
  have kept := Table.lookupBatch_of_noSpace kernel.bucketSize (query true) writable rfl
  rw [run_lookupBatch_resolved (query true) opened,
    run_lookupBatch_resolved (query false) opened]
  exact
    { status := congrArg (fun error => Status.ofOutcome (outcomeOf error)) sameError
      count := sameCount
      keys := congrArg (Bytes.overlay · keys) sameKeys
      values := congrArg (Bytes.overlay · values) sameValues
      taken := ⟨earlier, later, around, congrArg (kernel.replace place) left⟩
      tooSmall := fun tooSmall =>
        (congrArg (kernel.replace place) (kept tooSmall)).trans (replace_self opened) }

end Kernel

/-! ## All batches -/

namespace Table

/-- A batch that is not smaller than a bucket fits. -/
theorem overflowsBatch_eq_false
    {bucketSize : Option UInt32}
    {count : UInt32}
    (fits : ∀ size, bucketSize = some size → size ≤ count) :
    overflowsBatch bucketSize count = false := by
  cases bucketSize with
  | none => rfl
  | some size => exact decide_eq_false (UInt32.not_lt.2 (fits size rfl))

variable
  {table : Table}
  {query : BatchQuery}
  (start : table.position query.token = 0)

include start

theorem batchOf_of_start : table.batchOf query = table.entries.take query.count.toNat := by
  rw [batchOf, start, List.drop_zero]

/-- A batch that is taken out from the start leaves the entries after it. -/
theorem afterBatch_of_start (removes : query.remove = true) :
    table.afterBatch query =
      { table with entries := table.entries.drop query.count.toNat } := by
  have behind : table.entries.drop (table.batchOf query).length =
      table.entries.drop query.count.toNat := by
    rw [length_batchOf, start, Nat.sub_zero]
    rcases Nat.le_total table.entries.length query.count.toNat with short | long
    · rw [Nat.min_eq_left short, List.drop_length, List.drop_eq_nil_of_le short]
    · rw [Nat.min_eq_right long]
  rw [afterBatch, if_pos removes, start, Nat.zero_add, dropRange, List.take_zero,
    List.nil_append, behind]

theorem batchError_of_start :
    table.batchError query =
      if table.entries.length ≤ query.count.toNat then some Errno.noEntry else none := by
  rw [batchError, length_batchOf, start]
  refine if_congr ?_ rfl rfl
  omega

end Table

namespace Cursor

/-- The token of a cursor leads to the start of a map. -/
structure AtStart (cursor : Cursor) : Prop where
  width : Table.tokenWidth ≤ cursor.width
  position : cursor.position = 0

theorem atStart_new (keySize : UInt32) : (new keySize).AtStart :=
  ⟨width_new keySize, position_new keySize⟩

theorem atStart_moveTo
    {cursor : Cursor}
    (atStart : cursor.AtStart) :
    (cursor.moveTo 0).AtStart :=
  ⟨atStart.width, position_moveTo (by decide) cursor⟩

/-- Take one batch after the other out of a map, up to the first call that does not
succeed. -/
def drain (host : Host σ) (descriptor : Descriptor) :
    List BatchRequest → Cursor → Action σ (List BatchReply)
  | [], _ => pure []
  | request :: requests, cursor => do
      let (reply, next) ← cursor.read host true descriptor request.count request.options
        request.keys request.values
      if reply.status.isOk then
        let replies ← drain host descriptor requests next
        pure (reply :: replies)
      else pure [reply]

/-- A batch is the last one, or the next one is taken. -/
theorem run_drain_cons
    {host : Host σ}
    {descriptor : Descriptor}
    {request : BatchRequest}
    {cursor next : Cursor}
    {state after : σ}
    {reply : BatchReply}
    (stepped : (cursor.read host true descriptor request.count request.options
      request.keys request.values).run state = ((reply, next), after))
    (requests : List BatchRequest) :
    (drain host descriptor (request :: requests) cursor).run state =
      if reply.status.isOk then
        let rest := (drain host descriptor requests next).run after
        (reply :: rest.1, rest.2)
      else ([reply], after) := by
  rw [drain, Action.run_bind, stepped]
  simp only
  split <;> rfl

/-- A batch that is taken out from the start gives the first entries of the map and
leaves the others, and the cursor stays at the start. -/
theorem run_read_taking
    {kernel : Kernel}
    {descriptor : Descriptor}
    {place : Nat}
    {table : Table}
    (opened : kernel.resolve descriptor = .ok (place, table))
    (valid : table.Valid)
    (writable : table.frozen = false)
    {cursor : Cursor}
    (atStart : cursor.AtStart)
    {request : BatchRequest}
    (fits : ∀ size, kernel.bucketSize = some size → size ≤ request.count) :
    ∃ reply next,
      (cursor.read Kernel.host true descriptor request.count request.options
          request.keys request.values).run kernel =
        ((reply, next), kernel.replace place
          { table with entries := table.entries.drop request.count.toNat }) ∧
      reply.entries table.keySize table.valueSize =
        table.entries.take request.count.toNat ∧
      reply.status = .ofOutcome (Kernel.outcomeOf
        (if table.entries.length ≤ request.count.toNat then some Errno.noEntry
          else none)) ∧
      next.AtStart := by
  let query := cursor.query true descriptor request.count request.options
  have start : table.position query.token = 0 := by
    rw [Table.position_eq_min]
    exact (congrArg (min · _) atStart.position).trans (Nat.zero_min _)
  have serves : table.Serves kernel.bucketSize query :=
    { writable := fun _ => writable
      asks := UInt32.pos_iff_ne_zero.1 request.count_pos
      lends := rfl
      fits := fun overflows =>
        absurd overflows (by simp [query, Cursor.query, Table.overflowsBatch_eq_false fits]) }
  let reply := table.batchReply query cursor.scratch request.keys request.values
  have removes : query.remove = true := rfl
  -- the batch is gone, so the next one starts at the start again
  have resume : table.resumeAt query = 0 := by
    rw [Table.resumeAt, if_pos removes, start]
  have left := Table.afterBatch_of_start start removes
  refine ⟨reply, if reply.status.isOk then cursor.moveTo 0 else cursor, ?_, ?_, ?_, ?_⟩
  · rw [← resume]
    exact (run_read_of_serves opened atStart.width serves).trans
      (congrArg (fun next => (_, kernel.replace place next)) left)
  · exact (Table.entries_batchReply valid query _ _ _).trans (Table.batchOf_of_start start)
  · exact congrArg (fun error => Status.ofOutcome (Kernel.outcomeOf error))
      (Table.batchError_of_start start)
  · split
    · exact atStart_moveTo atStart
    · exact atStart

/-- Batches that are taken out from the start one after the other end with the map, and
give all of its entries in order. -/
theorem run_drain
    {kernel : Kernel}
    {descriptor : Descriptor}
    {place : Nat}
    {table : Table}
    (opened : kernel.resolve descriptor = .ok (place, table))
    (valid : table.Valid)
    (writable : table.frozen = false)
    {cursor : Cursor}
    (atStart : cursor.AtStart)
    {requests : List BatchRequest}
    (enough : table.entries.length < requests.length)
    (fits : ∀ request ∈ requests, ∀ size, kernel.bucketSize = some size →
      size ≤ request.count) :
    ∃ earlier last,
      (drain Kernel.host descriptor requests cursor).run kernel =
        (earlier ++ [last], kernel.replace place { table with entries := [] }) ∧
      (∀ reply ∈ earlier, reply.status = .ok) ∧
      last.status = .ofErrno Errno.noEntry ∧
      (earlier ++ [last]).flatMap (BatchReply.entries table.keySize table.valueSize) =
        table.entries := by
  induction requests generalizing kernel table cursor with
  | nil => exact absurd enough (Nat.not_lt_zero _)
  | cons request requests inductionHypothesis =>
      obtain ⟨firstFits, laterFit⟩ := List.forall_mem_cons.1 fits
      obtain ⟨reply, next, stepped, given, status, nextAtStart⟩ :=
        run_read_taking opened valid writable atStart firstFits
      rw [run_drain_cons stepped requests]
      by_cases ended : table.entries.length ≤ request.count.toNat
      · rw [if_pos ended] at status
        have notOk : reply.status.isOk = false := by
          rw [status]
          decide
        rw [List.take_of_length_le ended] at given
        refine ⟨[], reply, ?_, nofun, status, ?_⟩
        · rw [notOk, List.drop_eq_nil_of_le ended]
          rfl
        · rw [List.nil_append, List.flatMap_singleton, given]
      · rw [if_neg ended] at status
        have ok : reply.status.isOk = true := by
          rw [status]
          decide
        let left : Table :=
          { table with entries := table.entries.drop request.count.toNat }
        have asks : 0 < request.count.toNat := UInt32.lt_iff_toNat_lt.1 request.count_pos
        have fewer : left.entries.length < requests.length := by
          rw [List.length_cons] at enough
          rw [List.length_drop]
          omega
        obtain ⟨earlier, last, drained, succeeded, lastEnds, rest⟩ :=
          inductionHypothesis (Kernel.resolve_replace opened left)
            (valid.sublist (List.drop_sublist _ _)) writable nextAtStart fewer laterFit
        refine ⟨reply :: earlier, last, ?_, ?_, lastEnds, ?_⟩
        · rw [if_pos ok, drained, Kernel.replace_replace]
          rfl
        · exact List.forall_mem_cons.2 ⟨status, succeeded⟩
        · rw [List.cons_append, List.flatMap_cons, given]
          exact (congrArg (_ ++ ·) rest).trans (List.take_append_drop _ _)

end Cursor

namespace Kernel

/-- Taking a map apart in batches loses nothing and gives nothing twice. A batch that
takes entries out gives what a batch that only reads them gives, and takes out just
these. So a client that takes one batch after the other, from the start and none
smaller than a bucket, is given every entry once and in order, until a last call says
that there are no more; then the map is empty. -/
theorem drains_in_order
    {kernel : Kernel}
    (valid : kernel.Valid)
    {descriptor : Descriptor}
    {place : Nat}
    {table : Table}
    (opened : kernel.resolve descriptor = .ok (place, table))
    (writable : table.frozen = false) :
    (∀ token count options out keys values,
      let batch (remove : Bool) := (Kernel.host.lookupBatch
        { remove, descriptor, token, count, options } out keys values).run kernel
      kernel.TakesWhatIsRead place table (batch true) (batch false)) ∧
    ∀ (keySize : UInt32) (requests : List BatchRequest),
      table.entries.length < requests.length →
      (∀ request ∈ requests, ∀ size, kernel.bucketSize = some size →
        size ≤ request.count) →
      ∃ earlier last,
        (Cursor.drain Kernel.host descriptor requests (.new keySize)).run kernel =
          (earlier ++ [last], kernel.replace place { table with entries := [] }) ∧
        (∀ reply ∈ earlier, reply.status = .ok) ∧
        last.status = .ofErrno Errno.noEntry ∧
        (earlier ++ [last]).flatMap (BatchReply.entries table.keySize table.valueSize) =
          table.entries := by
  refine ⟨valid.takesWhatIsRead opened writable, ?_⟩
  intro keySize requests enough fits
  exact Cursor.run_drain opened (valid.tableAt (resolve_eq_ok_iff.1 opened).2) writable
    (Cursor.atStart_new keySize) enough fits

theorem two_pos : (0 : UInt32) < 2 := by
  decide

/-- Four requests, of which two are enough for a map with three entries. -/
def fourRequests : List BatchRequest :=
  [{ count := 2, count_pos := two_pos }, { count := 3, count_pos := by decide },
    { count := 2, count_pos := two_pos }, { count := 2, count_pos := two_pos }]

theorem drains_in_order_threeEntries :
    let kernel := threeEntries.run [.sizeBuckets (some 2)]
    let drained := (Cursor.drain Kernel.host 101 fourRequests (.new 1)).run kernel
    kernel.resolve 101 = .ok (0, threeEntriesTable) ∧
      threeEntriesTable.frozen = false ∧
      threeEntriesTable.entries.length < fourRequests.length ∧
      (∀ request ∈ fourRequests, ∀ size, kernel.bucketSize = some size →
        size ≤ request.count) ∧
      drained.1.map BatchReply.status = [.ok, .ofErrno Errno.noEntry] ∧
      drained.1.flatMap (BatchReply.entries 1 1) = threeEntriesTable.entries ∧
      drained.2 = kernel.replace 0 { threeEntriesTable with entries := [] } := by
  intro kernel drained
  have opened : kernel.resolve 101 = .ok (0, threeEntriesTable) := by decide +kernel
  have writable : threeEntriesTable.frozen = false := rfl
  have enough : threeEntriesTable.entries.length < fourRequests.length := by decide
  have fits : ∀ request ∈ fourRequests, ∀ size, kernel.bucketSize = some size →
      size ≤ request.count := by
    rintro request member _ ⟨⟩
    revert request
    decide
  obtain ⟨earlier, last, ends, _, _, given⟩ :=
    (drains_in_order ((valid_empty.run _).run _) opened writable).2 1 fourRequests
      enough fits
  refine ⟨opened, writable, enough, fits, by decide +kernel, ?_, congrArg Prod.snd ends⟩
  rw [← given]
  exact congrArg (fun ended => ended.1.flatMap (BatchReply.entries 1 1)) ends

end Kernel
end KernelMaps
