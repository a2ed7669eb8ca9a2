import KernelMaps.Proofs.Interleavings
import KernelMaps.Proofs.KeyOrder
import KernelMaps.Proofs.LastWrite
import KernelMaps.Proofs.OpenBatches

/-!
# Traversals in batches among other clients

A client reads a map batch by batch while others change it. Its cursor holds a
position, and removals by others shift entries across it. What was read stays
before the position as long as it is not removed, so a key is read again only if
it was removed and came back. As long as nothing is removed, the batches make up
the map.
-/

namespace KernelMaps

/-- A request for one batch, with the buffers that are lent for it. -/
structure BatchRequest where
  count : UInt32
  options : BatchOptions := {}
  keys : Bytes := []
  values : Bytes := []
  count_pos : 0 < count

/-- The entries at the start of the buffers, as many as were counted. -/
def BatchReply.entries
    (keySize valueSize : Nat)
    (reply : BatchReply) : Entries :=
  (Bytes.pieces keySize reply.count.toNat reply.keys).zip
    (Bytes.pieces valueSize reply.count.toNat reply.values)

/-- A client goes on after a success, and asks again after a batch that was too
small. -/
def BatchReply.goesOn (reply : BatchReply) : Bool :=
  reply.status.isOk || reply.status.isErrno Errno.noSpace = .ok true

/-- A client reads batches from where its cursor stands, each one after some
moves of others. -/
def traversal (place : Nat) (descriptor : Descriptor) :
    List (List Move × BatchRequest) → Cursor → Kernel → List (Sighting BatchReply) :=
  sightings place
    (fun request cursor => cursor.read Kernel.host false descriptor request.count
      request.options request.keys request.values)
    BatchReply.goesOn

/-! ## One batch -/

/-- What a batch from a position gives of the entries of a map, and the position
at which the next one starts. -/
inductive BatchGives (entries : Entries) (position : Nat) :
    Status → Entries → Nat → Prop
  /-- The batch is too small, and nothing is read. -/
  | overflow
      (remains : position < entries.length) :
      BatchGives entries position (.ofErrno Errno.noSpace) [] position
  /-- All that is left is read. -/
  | last :
      BatchGives entries position (.ofErrno Errno.noEntry) (entries.drop position)
        position
  /-- Some of what is left is read. -/
  | part
      {number : Nat}
      (more : position + number < entries.length) :
      BatchGives entries position .ok ((entries.drop position).take number)
        (position + number)

namespace BatchGives

variable
  {entries returned : Entries}
  {position next : Nat}
  {status : Status}

/-- What is read of a map lies behind the position. -/
theorem sublist_drop
    (gives : BatchGives entries position status returned next) :
    returned.Sublist (entries.drop position) := by
  cases gives with
  | overflow => exact List.nil_sublist _
  | last => exact List.Sublist.refl _
  | part => exact List.take_sublist _ _

/-- A batch after which a client goes on ends where the next one starts. -/
theorem take_next
    (gives : BatchGives entries position status returned next)
    (goesOn : (status.isOk || status.isErrno Errno.noSpace = .ok true) = true) :
    next ≤ entries.length ∧
      entries.take next = entries.take position ++ returned := by
  cases gives with
  | overflow remains =>
      exact ⟨Nat.le_of_lt remains, (List.append_nil _).symm⟩
  | last => exact absurd goesOn (by decide)
  | part more => exact ⟨Nat.le_of_lt more, List.take_add⟩

/-- The last batch ends with the last entry. -/
theorem eq_append
    (gives : BatchGives entries position status returned next)
    (ended : status.isErrno Errno.noEntry = .ok true) :
    entries = entries.take position ++ returned := by
  cases gives with
  | overflow => exact absurd ended (by decide)
  | last => exact (List.take_append_drop position entries).symm
  | part => exact absurd ended (by decide)

end BatchGives

namespace Table

/-- A batch starts at the position that the token holds, or at the end. -/
theorem batchOf_eq (table : Table) (query : BatchQuery) :
    table.batchOf query =
      (table.entries.drop (tokenPosition query.token)).take query.count.toNat := by
  rw [batchOf, position_eq_min]
  by_cases within : tokenPosition query.token ≤ table.entries.length
  · rw [Nat.min_eq_left within]
  · have beyond := Nat.le_of_not_le within
    rw [Nat.min_eq_right beyond, List.drop_length, List.drop_eq_nil_of_le beyond]

/-- A served batch that takes nothing out gives the last entries or some of them. -/
theorem batchGives_of_reads
    (table : Table)
    (query : BatchQuery)
    (reads : query.remove = false) :
    BatchGives table.entries (tokenPosition query.token)
        (.ofOutcome (Kernel.outcomeOf (table.batchError query)))
        (table.batchOf query)
        (if table.batchError query = none then table.resumeAt query
          else tokenPosition query.token) := by
  have start := table.position_eq_min query.token
  have length := table.length_batchOf query
  by_cases ended : table.position query.token + (table.batchOf query).length =
      table.entries.length
  · have error : table.batchError query = some Errno.noEntry := if_pos ended
    have whole : table.batchOf query =
        table.entries.drop (tokenPosition query.token) := by
      rw [batchOf_eq]
      apply List.take_of_length_le
      rw [List.length_drop]
      omega
    rw [error, whole, if_neg (by simp)]
    exact .last
  · have error : table.batchError query = none := if_neg ended
    have within : table.position query.token = tokenPosition query.token := by
      omega
    have resume : table.resumeAt query =
        tokenPosition query.token + (table.batchOf query).length := by
      rw [resumeAt, if_neg (by simp [reads]), within]
    have batch : table.batchOf query =
        (table.entries.drop (tokenPosition query.token)).take
          (table.batchOf query).length := by
      rw [← within]
      exact (table.take_length_batchOf query).symm
    rw [error, if_pos rfl, resume]
    nth_rewrite 1 [batch]
    apply BatchGives.part
    omega

/-- A batch that takes nothing out ends within the table. -/
theorem resumeAt_le
    (table : Table)
    (query : BatchQuery)
    (reads : query.remove = false) :
    table.resumeAt query ≤ table.entries.length := by
  have start := table.position_le query.token
  have length := table.length_batchOf query
  rw [resumeAt, if_neg (by simp [reads])]
  omega

/-- What a served batch makes of the lent buffers. -/
def batchReply
    (table : Table)
    (query : BatchQuery)
    (token keys values : Bytes) : BatchReply where
  status := .ofOutcome (Kernel.outcomeOf (table.batchError query))
  count := (table.batchLeft query).count
  token := Bytes.overlay (table.batchLeft query).token token
  keys := Bytes.overlay (table.batchLeft query).keys keys
  values := Bytes.overlay (table.batchLeft query).values values

theorem entries_batchReply
    {table : Table}
    (valid : table.Valid)
    (query : BatchQuery)
    (token keys values : Bytes) :
    (table.batchReply query token keys values).entries
      table.keySize table.valueSize = table.batchOf query := by
  rw [BatchReply.entries, batchReply, toNat_count_batchLeft]
  exact valid.cut_batch query _ _

end Table

namespace Kernel

/-- A served batch through an open descriptor. -/
theorem run_lookupBatch_of_serves
    {kernel : Kernel}
    {query : BatchQuery}
    {place : Nat}
    {table : Table}
    (opened : kernel.resolve query.descriptor = .ok (place, table))
    (serves : table.Serves kernel.bucketSize query)
    (token keys values : Bytes) :
    (Kernel.host.lookupBatch query token keys values).run kernel =
      (table.batchReply query token keys values,
        kernel.replace place (table.afterBatch query)) := by
  rw [run_lookupBatch_resolved query opened, Table.lookupBatch_of_serves serves]
  rfl

end Kernel

namespace Cursor

/-- After a served batch that succeeds, the cursor stands where the next one starts. -/
theorem run_read_of_serves
    {kernel : Kernel}
    {descriptor : Descriptor}
    {place : Nat}
    {table : Table}
    (opened : kernel.resolve descriptor = .ok (place, table))
    {cursor : Cursor}
    (width : Table.tokenWidth ≤ cursor.width)
    {remove : Bool}
    {request : BatchRequest}
    (serves : table.Serves kernel.bucketSize
      (cursor.query remove descriptor request.count request.options)) :
    let query := cursor.query remove descriptor request.count request.options
    let reply := table.batchReply query cursor.scratch request.keys request.values
    (cursor.read Kernel.host remove descriptor request.count request.options
        request.keys request.values).run kernel =
      ((reply, if reply.status.isOk then cursor.moveTo (table.resumeAt query) else cursor),
        kernel.replace place (table.afterBatch query)) := by
  intro query reply
  have replied : (Kernel.host.lookupBatch query cursor.scratch request.keys
      request.values).run kernel = (reply, kernel.replace place (table.afterBatch query)) :=
    Kernel.run_lookupBatch_of_serves opened serves _ _ _
  have token : reply.token = Bytes.padded cursor.width
      (Bytes.littleEndian Table.tokenWidth (table.resumeAt query)) :=
    Bytes.overlay_zeros _ cursor.width
  rw [run_read_of_replied replied, adopt]
  by_cases ok : reply.status.isOk
  · simp only [ok, if_true, token, advance?_eq_moveTo width]
    rfl
  · simp only [ok]
    rfl

/-- A batch that is read with a cursor through an open descriptor leaves the
kernel as it is, and the cursor stands where the next batch starts. -/
theorem run_read
    {kernel : Kernel}
    {descriptor : Descriptor}
    {place : Nat}
    {table : Table}
    (opened : kernel.resolve descriptor = .ok (place, table))
    (valid : table.Valid)
    {cursor : Cursor}
    (width : Table.tokenWidth ≤ cursor.width)
    (request : BatchRequest) :
    ∃ reply next,
      (cursor.read Kernel.host false descriptor request.count request.options
        request.keys request.values).run kernel = ((reply, next), kernel) ∧
      BatchGives table.entries cursor.position reply.status
        (reply.entries table.keySize table.valueSize) next.position ∧
      Table.tokenWidth ≤ next.width := by
  let query := cursor.query false descriptor request.count request.options
  have asks : query.count ≠ 0 := UInt32.pos_iff_ne_zero.1 request.count_pos
  obtain serves | ⟨_, remains, nothing⟩ :=
    table.serves_or_overflows kernel.bucketSize query nofun asks rfl
  · let reply := table.batchReply query cursor.scratch request.keys request.values
    have reads : query.remove = false := rfl
    have kept : kernel.replace place (table.afterBatch query) = kernel := by
      rw [table.afterBatch_of_reads reads, Kernel.replace_self opened]
    have replied : (cursor.read Kernel.host false descriptor request.count request.options
        request.keys request.values).run kernel =
      ((reply, if reply.status.isOk then cursor.moveTo (table.resumeAt query) else cursor),
        kernel) :=
      (run_read_of_serves opened width serves).trans (congrArg (Prod.mk _) kept)
    have gives := table.batchGives_of_reads query reads
    rw [← Table.entries_batchReply valid query cursor.scratch request.keys
      request.values] at gives
    refine ⟨reply, _, replied, ?_, ?_⟩
    -- the token is taken over only if the batch did not end the table
    · rcases table.batchError_eq_none_or query with more | last
      · have succeeded : reply.status.isOk = true := by
          simp only [reply, Table.batchReply, more]
          decide
        have small := Nat.lt_of_le_of_lt (table.resumeAt_le query reads)
          valid.length_lt_tokens
        rw [if_pos succeeded, position_moveTo small]
        rwa [if_pos more] at gives
      · have ended : reply.status.isOk = false := by
          simp only [reply, Table.batchReply, last]
          decide
        rw [if_neg (Bool.eq_false_iff.1 ended)]
        rwa [if_neg (by simp [last])] at gives
    · split <;> exact width
  · have issued := Kernel.run_issue_lookupBatch query opened
    simp only [nothing, Kernel.replace_self opened] at issued
    refine ⟨⟨.ofErrno Errno.noSpace, 0, cursor.scratch, request.keys, request.values⟩,
      cursor, ?_, .overflow ?_, width⟩
    · rw [read, Host.lookupBatch, Action.run_bind, Action.run_bind, issued]
      rfl
    · have position : table.position query.token =
          min cursor.position table.entries.length := rfl
      omega

end Cursor

/-! ## The whole traversal -/

/-- A traversal from a position of a map with the given entries: others do what
they like, then a batch is read, and so on until one ends the traversal. -/
inductive Traverses (place keySize valueSize : Nat) :
    Nat → Entries → List (Sighting BatchReply) → Prop
  | paused
      {position : Nat}
      {entries : Entries} :
      Traverses place keySize valueSize position entries []
  | ended
      {position next : Nat}
      {entries : Entries}
      {reading : Sighting BatchReply}
      (found : reading.found.entriesAt place = entries.along reading.since)
      (gives : BatchGives (entries.along reading.since) position
        reading.given.status (reading.given.entries keySize valueSize) next) :
      Traverses place keySize valueSize position entries [reading]
  | reading
      {position next : Nat}
      {entries : Entries}
      {reading : Sighting BatchReply}
      {later : List (Sighting BatchReply)}
      (found : reading.found.entriesAt place = entries.along reading.since)
      (gives : BatchGives (entries.along reading.since) position
        reading.given.status (reading.given.entries keySize valueSize) next)
      (goesOn : reading.given.goesOn = true)
      (rest : Traverses place keySize valueSize next
        (entries.along reading.since) later) :
      Traverses place keySize valueSize position entries (reading :: later)

namespace Traverses

variable
  {place keySize valueSize position : Nat}
  {entries : Entries}
  {first : Sighting BatchReply}
  {later : List (Sighting BatchReply)}

/-- The first batch of a traversal is the last one, or the client goes on. -/
theorem cons_cases
    (traverses : Traverses place keySize valueSize position entries
      (first :: later)) :
    first.found.entriesAt place = entries.along first.since ∧
      ∃ next, BatchGives (entries.along first.since) position first.given.status
          (first.given.entries keySize valueSize) next ∧
        (later = [] ∨ first.given.goesOn = true ∧
          Traverses place keySize valueSize next (entries.along first.since)
            later) := by
  cases traverses with
  | ended found gives => exact ⟨found, _, gives, Or.inl rfl⟩
  | reading found gives goesOn rest =>
      exact ⟨found, _, gives, Or.inr ⟨goesOn, rest⟩⟩

/-- Each batch is a part of the entries that it finds. -/
theorem returned_sublist
    {readings : List (Sighting BatchReply)}
    (traverses : Traverses place keySize valueSize position entries readings)
    (distinct : entries.Distinct) :
    ∀ reading ∈ readings,
      (reading.found.entriesAt place).Distinct ∧
        (reading.given.entries keySize valueSize).Sublist
          (reading.found.entriesAt place) := by
  induction traverses with
  | paused => simp
  | @ended position next entries reading found gives =>
      have foundDistinct := Entries.distinct_along distinct reading.since
      rw [List.forall_mem_singleton, found]
      exact ⟨foundDistinct, gives.sublist_drop.trans (List.drop_sublist _ _)⟩
  | @reading position next entries reading later found gives _ _ inductionHypothesis =>
      have foundDistinct := Entries.distinct_along distinct reading.since
      rw [List.forall_mem_cons, found]
      exact ⟨⟨foundDistinct, gives.sublist_drop.trans (List.drop_sublist _ _)⟩,
        inductionHypothesis foundDistinct⟩

end Traverses

/-! ## Keys that were read -/

/-- Where a key is that was read: before the position, gone, or back. -/
def Settled
    (key : Bytes)
    (position : Nat)
    (keys : List Bytes)
    (history : List Effect) : Prop :=
  key ∈ keys.take position ∨ Effect.removed key ∈ history ∧ key ∉ keys ∨
    Reinserted key history

/-- What others do leaves a key settled. -/
theorem Settled.keysAfter
    {key : Bytes}
    {position : Nat}
    {keys : List Bytes}
    {history : List Effect}
    (settled : Settled key position keys history)
    (distinct : keys.Nodup)
    (since : List Effect) :
    Settled key position (keysAfter keys since) (history ++ since) := by
  induction since generalizing keys history with
  | nil => rwa [List.append_nil]
  | cons effect since inductionHypothesis =>
      rw [keysAfter_cons, List.append_cons]
      refine inductionHypothesis ?_ (nodup_reorder distinct effect)
      rcases settled with before | ⟨gone, absent⟩ | back
      · by_cases removed : effect = .removed key
        · subst removed
          exact Or.inr (Or.inl ⟨List.mem_append_right _ List.mem_cons_self,
            not_mem_reorder_removed distinct key⟩)
        · exact Or.inl (mem_take_reorder before removed)
      · by_cases written : ∃ value, effect = .written key value
        · obtain ⟨value, rfl⟩ := written
          exact Or.inr (Or.inr (reinserted_of_written gone value))
        · refine Or.inr (Or.inl ⟨List.mem_append_left _ gone, ?_⟩)
          exact not_mem_reorder absent fun value equal => written ⟨value, equal⟩
      · exact Or.inr (Or.inr (back.append [effect]))

/-- A settled key is behind the position only if it came back. -/
theorem Settled.reinserted
    {key : Bytes}
    {position : Nat}
    {keys : List Bytes}
    {history : List Effect}
    (settled : Settled key position keys history)
    (distinct : keys.Nodup)
    (behind : key ∈ keys.drop position) :
    Reinserted key history := by
  rcases settled with before | ⟨_, absent⟩ | back
  · rw [← List.take_append_drop position keys] at distinct
    exact absurd rfl ((List.nodup_append.1 distinct).2.2 key before key behind)
  · exact absurd (List.mem_of_mem_drop behind) absent
  · exact back

namespace Traverses

variable
  {place keySize valueSize position : Nat}
  {entries : Entries}
  {key : Bytes}
  {first second last : Sighting BatchReply}
  {earlier middle later : List (Sighting BatchReply)}

/-- A settled key is read only if it came back. -/
theorem reinserted
    {history : List Effect}
    (traverses : Traverses place keySize valueSize position entries
      (middle ++ second :: later))
    (distinct : entries.Distinct)
    (settled : Settled key position entries.keys history)
    (again : key ∈ (second.given.entries keySize valueSize).keys) :
    Reinserted key (history ++ (middle ++ [second]).flatMap Sighting.since) := by
  induction middle generalizing position entries history with
  | nil =>
      obtain ⟨_, next, gives, _⟩ := traverses.cons_cases
      have foundDistinct := Entries.distinct_along distinct second.since
      have behind : key ∈ (entries.along second.since).keys.drop position := by
        rw [Entries.keys, ← List.map_drop]
        exact (gives.sublist_drop.map Prod.fst).subset again
      have still := settled.keysAfter distinct second.since
      rw [← Entries.keys_along] at still
      simpa using still.reinserted foundDistinct behind
  | cons reading middle inductionHypothesis =>
      obtain ⟨_, next, gives, last | ⟨goesOn, rest⟩⟩ := traverses.cons_cases
      · simp at last
      · have foundDistinct := Entries.distinct_along distinct reading.since
        have still := settled.keysAfter distinct reading.since
        rw [← Entries.keys_along] at still
        have moved : Settled key next (entries.along reading.since).keys
            (history ++ reading.since) := by
          refine still.imp_left ?_
          intro before
          rw [Entries.keys, ← List.map_take] at before ⊢
          rw [(gives.take_next goesOn).2, List.map_append]
          exact List.mem_append_left _ before
        have back := inductionHypothesis rest foundDistinct moved
        rwa [List.append_assoc] at back

/-- A key that is read twice was removed in between and came back. -/
theorem reinserted_between
    (traverses : Traverses place keySize valueSize position entries
      (earlier ++ first :: (middle ++ second :: later)))
    (distinct : entries.Distinct)
    (once : key ∈ (first.given.entries keySize valueSize).keys)
    (again : key ∈ (second.given.entries keySize valueSize).keys) :
    Reinserted key ((middle ++ [second]).flatMap Sighting.since) := by
  induction earlier generalizing position entries with
  | nil =>
      obtain ⟨_, next, gives, last | ⟨goesOn, rest⟩⟩ := traverses.cons_cases
      · simp at last
      · have foundDistinct := Entries.distinct_along distinct first.since
        have passed : key ∈ (entries.along first.since).keys.take next := by
          rw [Entries.keys, ← List.map_take, (gives.take_next goesOn).2,
            List.map_append]
          exact List.mem_append_right _ once
        have settled : Settled key next (entries.along first.since).keys [] :=
          Or.inl passed
        exact rest.reinserted foundDistinct settled again
  | cons reading earlier inductionHypothesis =>
      obtain ⟨_, next, _, last | ⟨_, rest⟩⟩ := traverses.cons_cases
      · simp at last
      · exact inductionHypothesis rest (Entries.distinct_along distinct reading.since)

/-- As long as nothing is removed, the batches make up what is before the
position in the end. -/
theorem keys_eq
    (traverses : Traverses place keySize valueSize position entries
      (first :: later))
    (stays : (keysAfter entries.keys first.since).take position =
      entries.keys.take position)
    (kept : ∀ key, Effect.removed key ∉ later.flatMap Sighting.since)
    (isLast : (first :: later).getLast? = some last)
    (ended : last.given.status.isErrno Errno.noEntry = .ok true) :
    entries.keys.take position ++ (first :: later).flatMap
        (fun reading => (reading.given.entries keySize valueSize).keys) =
      (last.found.entriesAt place).keys := by
  induction later generalizing first position entries with
  | nil =>
      obtain ⟨found, next, gives, _⟩ := traverses.cons_cases
      rw [List.getLast?_singleton] at isLast
      obtain rfl := Option.some.inj isLast
      have whole := congrArg Entries.keys (gives.eq_append ended)
      rw [Entries.keys_append] at whole
      rw [found, whole, ← stays, ← Entries.keys_along, List.flatMap_singleton]
      simp [Entries.keys]
  | cons second later inductionHypothesis =>
      obtain ⟨_, next, gives, last | ⟨goesOn, rest⟩⟩ := traverses.cons_cases
      · cases last
      · obtain ⟨within, passed⟩ := gives.take_next goesOn
        have kept_since : ∀ key, Effect.removed key ∉ second.since :=
          fun key present => kept key (List.mem_append_left _ present)
        have kept_later : ∀ key, Effect.removed key ∉ later.flatMap Sighting.since :=
          fun key present => kept key (List.mem_append_right _ present)
        have restStays : (keysAfter (entries.along first.since).keys
              second.since).take next =
            (entries.along first.since).keys.take next := by
          obtain ⟨new, appended⟩ :=
            prefix_keysAfter kept_since (entries.along first.since).keys
          rw [← appended, List.take_append_of_le_length]
          rwa [Entries.length_keys]
        have others := inductionHypothesis rest restStays kept_later isLast
        have keys : (entries.along first.since).keys.take next =
            entries.keys.take position ++
              (first.given.entries keySize valueSize).keys := by
          rw [← stays, ← Entries.keys_along, Entries.keys, ← List.map_take, passed]
          simp [Entries.keys]
        rw [← others, keys, List.flatMap_cons, List.append_assoc]

end Traverses

namespace Kernel

/-- A traversal through a descriptor that stays open. -/
theorem traverses_traversal
    {kernel : Kernel}
    (valid : kernel.Valid)
    {place : Nat}
    {table : Table}
    (present : kernel.tables[place]? = some table)
    {descriptor : Descriptor}
    {rounds : List (List Move × BatchRequest)}
    {cursor : Cursor}
    (width : Table.tokenWidth ≤ cursor.width)
    (opened : ∀ reading ∈ traversal place descriptor rounds cursor kernel,
      reading.found.descriptors.lookup descriptor = some place) :
    Traverses place table.keySize table.valueSize cursor.position
      (kernel.entriesAt place) (traversal place descriptor rounds cursor kernel) := by
  induction rounds generalizing kernel table cursor with
  | nil => exact .paused
  | cons round rounds inductionHypothesis =>
      obtain ⟨others, request⟩ := round
      rcases stepped : (cursor.read Kernel.host false descriptor request.count
          request.options request.keys request.values).run (kernel.run others) with
        ⟨⟨reply, next⟩, after⟩
      rw [traversal, sightings_cons place _ BatchReply.goesOn others request rounds
        cursor kernel stepped] at opened ⊢
      obtain ⟨foundOpen, laterOpen⟩ := List.forall_mem_cons.1 opened
      obtain ⟨now, resolved, nowValid, spec, entries⟩ :=
        valid.resolve_run present others foundOpen
      obtain ⟨_, _, read, gives, nextWidth⟩ :=
        Cursor.run_read resolved nowValid width request
      cases stepped.symm.trans read
      have keySize : now.keySize = table.keySize := by
        rw [Table.keySize, spec, Table.keySize]
      have valueSize : now.valueSize = table.valueSize := by
        rw [Table.valueSize, spec, Table.valueSize]
      have found := entriesAt_run valid others place
      rw [entries, found, keySize, valueSize] at gives
      by_cases goesOn : reply.goesOn = true
      · rw [if_pos goesOn] at laterOpen ⊢
        have rest := inductionHypothesis (valid.run others)
          (resolve_eq_ok_iff.1 resolved).2 nextWidth laterOpen
        rw [found, keySize, valueSize] at rest
        exact .reading found gives goesOn rest
      · rw [if_neg goesOn]
        exact .ended found gives

/--
A traversal with a fresh cursor, through a descriptor that stays open, among
clients that do what they like.

Each batch shows keys of the map that it finds, each once and with its value. A
key that is returned twice was removed between the two batches and came back. If
nothing is removed between the first batch and the one that ends the traversal,
the returned keys are those of the map that the last batch finds, in their order.
-/
theorem traversal_among_others
    {kernel : Kernel}
    (valid : kernel.Valid)
    {place : Nat}
    {table : Table}
    (present : kernel.tables[place]? = some table)
    (descriptor : Descriptor)
    (rounds : List (List Move × BatchRequest))
    (opened : ∀ reading ∈ traversal place descriptor rounds
        (Cursor.new table.spec.keySize) kernel,
      reading.found.descriptors.lookup descriptor = some place) :
    let readings := traversal place descriptor rounds
      (Cursor.new table.spec.keySize) kernel
    let returned := fun reading : Sighting BatchReply =>
      reading.given.entries table.keySize table.valueSize
    (∀ reading ∈ readings, (returned reading).keys.Nodup ∧
        ∀ entry ∈ returned reading,
          reading.found.valueAt place entry.1 = some entry.2) ∧
      (∀ earlier first middle second later,
        readings = earlier ++ first :: (middle ++ second :: later) →
        ∀ key, key ∈ (returned first).keys → key ∈ (returned second).keys →
          Reinserted key ((middle ++ [second]).flatMap Sighting.since)) ∧
      (∀ last, readings.getLast? = some last →
        last.given.status.isErrno Errno.noEntry = .ok true →
        (∀ key, Effect.removed key ∉ meanwhile readings) →
        readings.flatMap (fun reading => (returned reading).keys) =
          (last.found.entriesAt place).keys) := by
  intro readings returned
  have distinct := valid.distinctAt place
  have traverses : Traverses place table.keySize table.valueSize 0
      (kernel.entriesAt place) readings :=
    traverses_traversal valid present (Cursor.width_new table.spec.keySize) opened
  refine ⟨?shown, ?twice, ?whole⟩
  case shown =>
    intro reading member
    obtain ⟨foundDistinct, part⟩ := traverses.returned_sublist distinct reading member
    refine ⟨foundDistinct.sublist part, ?_⟩
    intro entry returnedEntry
    rw [valueAt_eq_lookup]
    exact foundDistinct.lookup_of_mem (part.subset returnedEntry)
  case twice =>
    intro earlier first middle second later split key once again
    rw [split] at traverses
    exact traverses.reinserted_between distinct once again
  case whole =>
    intro last isLast ended kept
    cases split : readings with
    | nil =>
        rw [split] at isLast
        cases isLast
    | cons first later =>
        rw [split] at traverses isLast kept
        have keys := traverses.keys_eq (by rw [List.take_zero, List.take_zero])
          kept isLast ended
        rwa [List.take_zero, List.nil_append] at keys

/-- A batch of one entry, a batch that is too small for a bucket, and a batch
after the first key was taken out and written again. -/
def roundsWithReturn : List (List Move × BatchRequest) :=
  [([], { count := 1, count_pos := by decide }),
    ([.sizeBuckets (some 2)], { count := 1, count_pos := by decide }),
    ([.call (.delete 101 [1]), .call (.update 101 [1] [21] 0)],
      { count := 4, count_pos := by decide })]

/-- Two batches, between which a key is added and another one is overwritten. -/
def roundsWithWrites : List (List Move × BatchRequest) :=
  [([], { count := 2, count_pos := by decide }),
    ([.call (.update 101 [4] [14] 0), .call (.update 101 [1] [21] 0)],
      { count := 2, keys := [0, 0, 170], count_pos := by decide })]

theorem traversal_among_others_threeEntries :
    (∃ first second third, traversal 0 101 roundsWithReturn (Cursor.new 1)
        threeEntries = [first, second, third] ∧
      [1] ∈ (first.given.entries 1 1).keys ∧
      [1] ∈ (third.given.entries 1 1).keys ∧
      Reinserted [1] ([second, third].flatMap Sighting.since)) ∧
    ∃ first last, traversal 0 101 roundsWithWrites (Cursor.new 1) threeEntries =
        [first, last] ∧
      (first.given.entries 1 1).keys ++ (last.given.entries 1 1).keys =
        (last.found.entriesAt 0).keys := by
  have valid : threeEntries.Valid := valid_empty.run _
  have present : threeEntries.tables[0]? = some threeEntriesTable := by decide +kernel
  constructor
  · have once : [1] ∈ (((traversal 0 101 roundsWithReturn (Cursor.new 1)
        threeEntries).head (by decide +kernel)).given.entries 1 1).keys := by
      decide +kernel
    have again : [1] ∈ (((traversal 0 101 roundsWithReturn (Cursor.new 1)
        threeEntries).getLast (by decide +kernel)).given.entries 1 1).keys := by
      decide +kernel
    have returning := traversal_among_others valid present 101 roundsWithReturn
      (by decide +kernel)
    exact ⟨_, _, _, rfl, once, again,
      returning.2.1 [] _ [_] _ [] rfl [1] once again⟩
  · have writing := traversal_among_others valid present 101 roundsWithWrites
      (by decide +kernel)
    have kept : ∀ key, Effect.removed key ∉ meanwhile
        (traversal 0 101 roundsWithWrites (Cursor.new 1) threeEntries) := by
      have history : meanwhile
          (traversal 0 101 roundsWithWrites (Cursor.new 1) threeEntries) =
          [.written [4] [14], .written [1] [21]] := by decide +kernel
      rw [history]
      simp
    exact ⟨_, _, rfl, writing.2.2 _ rfl (by decide +kernel) kept⟩

end Kernel
end KernelMaps
