import KernelMaps.Proofs.BatchTraversals

/-!
# Empty batches

A request for a batch of no entries succeeds, but leaves no token. The cursor takes over
the buffer that was lent for the token, which is still full of zeros, and zeros are the
token of the first position. So an empty batch sends a traversal back to the start.
-/

namespace KernelMaps

/-- A request for one batch, which may be empty, with the buffers that are lent for it. -/
structure BatchDemand where
  count : UInt32
  options : BatchOptions := {}
  keys : Bytes := []
  values : Bytes := []

/-- A request for some entries. -/
def BatchRequest.demand (request : BatchRequest) : BatchDemand where
  count := request.count
  options := request.options
  keys := request.keys
  values := request.values

/-- What a client is given for an empty batch: its buffers as they were. -/
def BatchDemand.emptyReply (demand : BatchDemand) (token : Bytes) : BatchReply where
  status := .ok
  count := 0
  token := token
  keys := demand.keys
  values := demand.values

/-- A batch that returns nothing leaves the next one where it started itself. -/
theorem BatchGives.next_eq_of_nil
    {entries : Entries}
    {position next : Nat}
    {status : Status}
    (gives : BatchGives entries position status [] next) :
    next = position := by
  generalize nothing : ([] : Entries) = returned at gives
  cases gives with
  | overflow | last => rfl
  | @part number more =>
      have length := congrArg List.length nothing
      rw [List.length_nil, List.length_take, List.length_drop] at length
      omega

namespace Cursor

/-- Read the next batch, which may be empty. -/
def readAny
    (descriptor : Descriptor)
    (demand : BatchDemand)
    (cursor : Cursor) : Action Kernel (BatchReply × Cursor) :=
  cursor.read Kernel.host false descriptor demand.count demand.options demand.keys
    demand.values

end Cursor

/-- A client reads batches from where its cursor stands, some of them empty, each one
after some moves of others. -/
def readings (place : Nat) (descriptor : Descriptor) :
    List (List Move × BatchDemand) → Cursor → Kernel → List (Sighting BatchReply) :=
  sightings place (Cursor.readAny descriptor) BatchReply.goesOn

/-- If no batch is empty it is a traversal. -/
theorem readings_demand
    (place : Nat)
    (descriptor : Descriptor)
    (rounds : List (List Move × BatchRequest))
    (cursor : Cursor)
    (kernel : Kernel) :
    readings place descriptor (rounds.map (Prod.map id BatchRequest.demand)) cursor
        kernel =
      traversal place descriptor rounds cursor kernel :=
  sightings_map place (Cursor.readAny descriptor) BatchReply.goesOn BatchRequest.demand
    rounds cursor kernel

theorem exists_requests
    {rounds : List (List Move × BatchDemand)}
    (asks : ∀ round ∈ rounds, round.2.count ≠ 0) :
    ∃ requests : List (List Move × BatchRequest),
      rounds = requests.map (Prod.map id BatchRequest.demand) := by
  induction rounds with
  | nil => exact ⟨[], rfl⟩
  | cons round rounds inductionHypothesis =>
      obtain ⟨first, later⟩ := List.forall_mem_cons.1 asks
      obtain ⟨requests, rfl⟩ := inductionHypothesis later
      let request : BatchRequest :=
        { round.2 with count_pos := UInt32.pos_iff_ne_zero.2 first }
      exact ⟨(round.1, request) :: requests, rfl⟩

/-! ## Cursors that cannot be told apart -/

/-- Cursors that stand at the same position, as wide as each other. -/
structure Cursor.Like (left right : Cursor) : Prop where
  width : left.width = right.width
  position : left.position = right.position

/-- Of a token only the position counts. -/
theorem Table.lookupBatch_congr
    {left right : Option Bytes}
    (same : tokenPosition left = tokenPosition right)
    (table : Table)
    (bucketSize : Option UInt32)
    (query : BatchQuery) :
    table.lookupBatch bucketSize { query with token := left } =
      table.lookupBatch bucketSize { query with token := right } := by
  have position : table.position left = table.position right := by
    rw [position_eq_min, position_eq_min, same]
  simp only [lookupBatch, position]

namespace Cursor

namespace Like

variable
  {left right : Cursor}
  (like : left.Like right)

include like

theorem adopt (reply : BatchReply) : (left.adopt reply).Like (right.adopt reply) := by
  rw [Cursor.adopt, Cursor.adopt, advance?, advance?, like.width]
  split
  · split
    · exact like
    · exact ⟨rfl, rfl⟩
  · exact like

theorem run_lookupBatch (descriptor : Descriptor) (demand : BatchDemand) (kernel : Kernel) :
    (Kernel.host.lookupBatch (left.query false descriptor demand.count demand.options)
        left.scratch demand.keys demand.values).run kernel =
      (Kernel.host.lookupBatch (right.query false descriptor demand.count demand.options)
        right.scratch demand.keys demand.values).run kernel := by
  have scratch : left.scratch = right.scratch := congrArg Bytes.zeros like.width
  cases resolved : kernel.resolve descriptor with
  | error errno =>
      rw [Host.lookupBatch, Host.lookupBatch, Action.run_bind, Action.run_bind,
        Kernel.run_issue, Kernel.run_issue, Kernel.answer_unresolved rfl resolved,
        Kernel.answer_unresolved rfl resolved, scratch]
      rfl
  | ok found =>
      obtain ⟨place, table⟩ := found
      have same : table.lookupBatch kernel.bucketSize
            (left.query false descriptor demand.count demand.options) =
          table.lookupBatch kernel.bucketSize
            (right.query false descriptor demand.count demand.options) :=
        Table.lookupBatch_congr like.position table kernel.bucketSize
          (right.query false descriptor demand.count demand.options)
      rw [Kernel.run_lookupBatch_resolved _ resolved,
        Kernel.run_lookupBatch_resolved _ resolved, same, scratch]

/-- Cursors that cannot be told apart are given the same batch, and stay like this. -/
theorem run_readAny (descriptor : Descriptor) (demand : BatchDemand) (kernel : Kernel) :
    ∃ reply leftNext rightNext after,
      (left.readAny descriptor demand).run kernel = ((reply, leftNext), after) ∧
      (right.readAny descriptor demand).run kernel = ((reply, rightNext), after) ∧
      leftNext.Like rightNext := by
  rcases replied : (Kernel.host.lookupBatch
      (right.query false descriptor demand.count demand.options) right.scratch demand.keys
      demand.values).run kernel with ⟨reply, after⟩
  have leftReplied := (like.run_lookupBatch descriptor demand kernel).trans replied
  exact ⟨reply, _, _, after, run_read_of_replied leftReplied, run_read_of_replied replied,
    like.adopt reply⟩

theorem readings_eq
    (place : Nat)
    (descriptor : Descriptor)
    (rounds : List (List Move × BatchDemand))
    (kernel : Kernel) :
    readings place descriptor rounds left kernel =
      readings place descriptor rounds right kernel :=
  sightings_congr place BatchReply.goesOn
    (fun demand _ _ kernel like => like.run_readAny descriptor demand kernel) rounds like
    kernel

end Like

/-! ## One batch -/

theorem width_readAny
    (descriptor : Descriptor)
    (demand : BatchDemand)
    (cursor : Cursor)
    (kernel : Kernel) :
    ((cursor.readAny descriptor demand).run kernel).1.2.width = cursor.width := by
  rcases replied : (Kernel.host.lookupBatch
      (cursor.query false descriptor demand.count demand.options) cursor.scratch
      demand.keys demand.values).run kernel with ⟨reply, after⟩
  rw [readAny, run_read_of_replied replied]
  exact cursor.width_adopt reply

/-- A fresh buffer is the token for the first position. -/
theorem scratch_eq_padded
    {cursor : Cursor}
    (width : Table.tokenWidth ≤ cursor.width) :
    cursor.scratch =
      Bytes.padded cursor.width (Bytes.littleEndian Table.tokenWidth 0) := by
  have zeros : Bytes.littleEndian Table.tokenWidth 0 = Bytes.zeros Table.tokenWidth := rfl
  rw [scratch, Bytes.padded, zeros, Bytes.zeros_length, Bytes.zeros, Bytes.zeros,
    Bytes.zeros, List.replicate_append_replicate, Nat.add_sub_cancel' width]

section Open

variable
  {kernel : Kernel}
  {descriptor : Descriptor}
  {place : Nat}
  {table : Table}
  (opened : kernel.resolve descriptor = .ok (place, table))
  {cursor : Cursor}
  (width : Table.tokenWidth ≤ cursor.width)
  (demand : BatchDemand)

include opened width

/-- An empty batch changes nothing in the kernel, and the cursor moves to the start. -/
theorem run_readAny_of_empty
    (empty : demand.count = 0) :
    (cursor.readAny descriptor demand).run kernel =
      ((demand.emptyReply cursor.scratch, cursor.moveTo 0), kernel) := by
  let query := cursor.query false descriptor demand.count demand.options
  have replied : (Kernel.host.lookupBatch query cursor.scratch demand.keys
      demand.values).run kernel = (demand.emptyReply cursor.scratch, kernel) := by
    have reads : query.remove = true → table.frozen = false := nofun
    rw [Kernel.run_lookupBatch_resolved query opened,
      Table.lookupBatch_of_empty reads empty]
    exact congrArg (Prod.mk _) (Kernel.replace_self opened)
  have token : (demand.emptyReply cursor.scratch).token =
      Bytes.padded cursor.width (Bytes.littleEndian Table.tokenWidth 0) :=
    scratch_eq_padded width
  have accepted : (demand.emptyReply cursor.scratch).status.isOk = true := rfl
  rw [readAny, run_read_of_replied replied, adopt, if_pos accepted, token,
    advance?_eq_moveTo width]
  rfl

/-- A batch changes nothing in the kernel; if it is empty, a cursor at the start stays
there. -/
theorem run_readAny
    (valid : table.Valid) :
    ∃ reply next,
      (cursor.readAny descriptor demand).run kernel = ((reply, next), kernel) ∧
      (cursor.position = 0 → reply.count = 0 → next.position = 0) := by
  by_cases empty : demand.count = 0
  · exact ⟨_, _, run_readAny_of_empty opened width demand empty,
      fun _ _ => position_moveTo (by decide) cursor⟩
  · let request : BatchRequest :=
      { demand with count_pos := UInt32.pos_iff_ne_zero.2 empty }
    obtain ⟨reply, next, read, gives, _⟩ := run_read opened valid width request
    refine ⟨reply, next, read, ?_⟩
    intro start nothing
    have returned : reply.entries table.keySize table.valueSize = [] := by
      rw [BatchReply.entries, nothing]
      rfl
    rw [returned] at gives
    exact gives.next_eq_of_nil.trans start

end Open

end Cursor

/-! ## Among other batches -/

namespace Kernel

section Readings

variable
  {kernel : Kernel}
  (valid : kernel.Valid)
  {place : Nat}
  {table : Table}
  (present : kernel.tables[place]? = some table)
  {descriptor : Descriptor}

include valid present

/-- Where a client stands that went on after each of its batches. -/
theorem standing_readings
    {rounds : List (List Move × BatchDemand)}
    {cursor reached : Cursor}
    {after : Kernel}
    (stood : standing (Cursor.readAny descriptor) rounds cursor kernel = (reached, after))
    (width : Table.tokenWidth ≤ cursor.width)
    (opened : ∀ reading ∈ readings place descriptor rounds cursor kernel,
      reading.found.descriptors.lookup descriptor = some place)
    (goesOn : ∀ reading ∈ readings place descriptor rounds cursor kernel,
      reading.given.goesOn = true) :
    after = kernel.run (rounds.flatMap Prod.fst) ∧ reached.width = cursor.width ∧
      (cursor.position = 0 →
        (∀ reading ∈ readings place descriptor rounds cursor kernel,
          reading.given.count = 0) →
        reached.position = 0) := by
  induction rounds generalizing kernel table cursor with
  | nil =>
      cases stood
      exact ⟨rfl, rfl, fun start _ => start⟩
  | cons round rounds inductionHypothesis =>
      obtain ⟨others, demand⟩ := round
      rcases stepped : (cursor.readAny descriptor demand).run (kernel.run others) with
        ⟨⟨reply, next⟩, found⟩
      rw [standing_cons _ stepped] at stood
      have nextWidth : next.width = cursor.width := by
        have same := Cursor.width_readAny descriptor demand cursor (kernel.run others)
        rwa [stepped] at same
      rw [readings, sightings_cons place _ BatchReply.goesOn others demand rounds cursor
        kernel stepped] at opened goesOn ⊢
      obtain ⟨foundOpen, laterOpen⟩ := List.forall_mem_cons.1 opened
      obtain ⟨firstGoes, laterGoes⟩ := List.forall_mem_cons.1 goesOn
      have goes : reply.goesOn = true := firstGoes
      rw [if_pos goes] at laterOpen laterGoes ⊢
      obtain ⟨now, resolved, nowValid, _⟩ := valid.resolve_run present others foundOpen
      obtain ⟨_, _, read, stays⟩ := Cursor.run_readAny resolved width demand nowValid
      cases stepped.symm.trans read
      obtain ⟨kept, laterWidth, laterStays⟩ := inductionHypothesis (valid.run others)
        (resolve_eq_ok_iff.1 resolved).2 stood (nextWidth ▸ width) laterOpen laterGoes
      refine ⟨?_, laterWidth.trans nextWidth, ?_⟩
      · rw [kept, List.flatMap_cons, run_append]
      · intro start counts
        obtain ⟨first, later⟩ := List.forall_mem_cons.1 counts
        exact laterStays (stays start first) later

/-- After an empty batch a client reads what it would read with a fresh cursor. -/
theorem readings_of_empty
    {cursor : Cursor}
    {keySize : UInt32}
    (width : cursor.width = (Cursor.new keySize).width)
    {others : List Move}
    {empty : BatchDemand}
    (nothing : empty.count = 0)
    (later : List (List Move × BatchDemand))
    (opened : ∀ reading ∈ readings place descriptor ((others, empty) :: later) cursor kernel,
      reading.found.descriptors.lookup descriptor = some place) :
    readings place descriptor ((others, empty) :: later) cursor kernel =
      ⟨kernel.history place others, kernel.run others,
          empty.emptyReply (Cursor.new keySize).scratch⟩ ::
        readings place descriptor later (Cursor.new keySize) (kernel.run others) := by
  obtain ⟨_, _, first⟩ := sightings_head place (Cursor.readAny descriptor)
    BatchReply.goesOn others empty later cursor kernel
  rw [readings, first] at opened
  obtain ⟨now, resolved, _⟩ :=
    valid.resolve_run present others (opened _ List.mem_cons_self)
  have wide : Table.tokenWidth ≤ cursor.width := width ▸ Cursor.width_new keySize
  have stepped := Cursor.run_readAny_of_empty resolved wide empty nothing
  have goes : (empty.emptyReply cursor.scratch).goesOn = true := rfl
  have scratch : cursor.scratch = (Cursor.new keySize).scratch :=
    congrArg Bytes.zeros width
  have fresh : (cursor.moveTo 0).Like (Cursor.new keySize) :=
    ⟨width, Cursor.position_moveTo (by decide) cursor⟩
  rw [readings, sightings_cons place _ BatchReply.goesOn others empty later cursor kernel
    stepped, if_pos goes, scratch]
  exact congrArg (List.cons _) (fresh.readings_eq place descriptor later _)

/-- Without empty batches, a fresh cursor returns no key twice that did not come back. -/
theorem readings_reinserted
    {keySize : UInt32}
    {rounds : List (List Move × BatchDemand)}
    (asks : ∀ round ∈ rounds, round.2.count ≠ 0)
    (opened : ∀ reading ∈ readings place descriptor rounds (Cursor.new keySize) kernel,
      reading.found.descriptors.lookup descriptor = some place)
    {first second third : List (Sighting BatchReply)}
    {one other : Sighting BatchReply}
    (split : readings place descriptor rounds (Cursor.new keySize) kernel =
      first ++ one :: (second ++ other :: third))
    {key : Bytes}
    (once : key ∈ (one.given.entries table.keySize table.valueSize).keys)
    (again : key ∈ (other.given.entries table.keySize table.valueSize).keys) :
    Reinserted key ((second ++ [other]).flatMap Sighting.since) := by
  obtain ⟨requests, rfl⟩ := exists_requests asks
  rw [readings_demand] at opened split
  have traverses := traverses_traversal valid present (Cursor.width_new keySize) opened
  rw [split] at traverses
  exact traverses.reinserted_between (valid.distinctAt place) once again

end Readings

/-- A client with a fresh cursor reads batches through a descriptor that stays open, and
one of them is empty. It goes on after the batches before this one.

The empty batch succeeds and changes nothing in the kernel, but what is read after it is
what a fresh cursor reads. So it makes no difference if nothing was returned before it;
and no key is returned twice after the last empty batch, unless it was removed and came
back. -/
theorem emptyBatch_starts_over
    {kernel : Kernel}
    (valid : kernel.Valid)
    {place : Nat}
    {table : Table}
    (present : kernel.tables[place]? = some table)
    {descriptor : Descriptor}
    {earlier later : List (List Move × BatchDemand)}
    {others : List Move}
    {empty : BatchDemand}
    (nothing : empty.count = 0)
    (opened : ∀ reading ∈ readings place descriptor (earlier ++ (others, empty) :: later)
        (Cursor.new table.spec.keySize) kernel,
      reading.found.descriptors.lookup descriptor = some place)
    (goesOn : ∀ reading ∈ readings place descriptor earlier
        (Cursor.new table.spec.keySize) kernel,
      reading.given.goesOn = true) :
    let fresh := Cursor.new table.spec.keySize
    let reached := kernel.run (earlier.flatMap Prod.fst)
    let found := reached.run others
    let before := readings place descriptor earlier fresh kernel
    let behind := readings place descriptor later fresh found
    let returned := fun reading : Sighting BatchReply =>
      (reading.given.entries table.keySize table.valueSize).keys
    readings place descriptor (earlier ++ (others, empty) :: later) fresh kernel =
        before ++ ⟨reached.history place others, found,
          empty.emptyReply fresh.scratch⟩ :: behind ∧
      ((∀ reading ∈ before, reading.given.count = 0) →
        (readings place descriptor (earlier ++ afterMoves others later) fresh
            kernel).map Sighting.given =
          (before ++ behind).map Sighting.given) ∧
      ((∀ round ∈ later, round.2.count ≠ 0) →
        ∀ first second third one other, behind = first ++ one :: (second ++ other :: third) →
          ∀ key, key ∈ returned one → key ∈ returned other →
            Reinserted key ((second ++ [other]).flatMap Sighting.since)) := by
  intro fresh reached found before behind returned
  rcases stood : standing (Cursor.readAny descriptor) earlier fresh kernel with
    ⟨cursor, there⟩
  have continues : ∀ rest, readings place descriptor (earlier ++ rest) fresh kernel =
      before ++ readings place descriptor rest cursor there := by
    intro rest
    have appended := sightings_append place (Cursor.readAny descriptor)
      BatchReply.goesOn rest goesOn
    rwa [stood] at appended
  rw [continues] at opened
  obtain ⟨openedBefore, openedThere⟩ := List.forall_mem_append.1 opened
  obtain ⟨rfl, width, stays⟩ := standing_readings valid present stood
    (Cursor.width_new table.spec.keySize) openedBefore goesOn
  obtain ⟨now, reachedPresent, reachedSpec, _⟩ :=
    valid.run_fixed (earlier.flatMap Prod.fst) present
  have reachedValid := valid.run (earlier.flatMap Prod.fst)
  have restarts := readings_of_empty reachedValid reachedPresent width nothing later
    openedThere
  rw [restarts] at openedThere
  refine ⟨?restarts, ?unnoticed, ?once⟩
  case restarts =>
    rw [continues, restarts]
  case unnoticed =>
    intro counts
    have like : cursor.Like fresh := ⟨width, stays rfl counts⟩
    have same := given_afterMoves place (Cursor.readAny descriptor) BatchReply.goesOn others
      later cursor reached
    rw [continues, List.map_append, List.map_append]
    refine congrArg (_ ++ ·) (same.trans ?_)
    exact congrArg (List.map _) (like.readings_eq place descriptor later found)
  case once =>
    intro asks first second third one other split key once again
    obtain ⟨last, foundPresent, foundSpec, _⟩ :=
      reachedValid.run_fixed others reachedPresent
    have keySize : last.keySize = table.keySize :=
      congrArg (fun spec => spec.keySize.toNat) (foundSpec.trans reachedSpec)
    have valueSize : last.valueSize = table.valueSize :=
      congrArg (fun spec => spec.valueSize.toNat) (foundSpec.trans reachedSpec)
    refine readings_reinserted (reachedValid.run others) foundPresent asks
      (List.forall_mem_cons.1 openedThere).2 split ?_ ?_
    · rwa [keySize, valueSize]
    · rwa [keySize, valueSize]

/-- A request for as many entries, with buffers that are empty themselves. -/
def asking (count : UInt32) : BatchDemand where
  count := count

/-- An empty batch after two entries, and one after a batch that was too small. -/
theorem emptyBatch_starts_over_threeEntries :
    let fresh := Cursor.new 1
    let tooSmall : List (List Move × BatchDemand) :=
      [([.sizeBuckets (some 2)], asking 1)]
    let addition : List Move := [.call (.update 101 [4] [14] 0)]
    readings 0 101 ([([], asking 2)] ++ ([], asking 0) :: [([], asking 4)]) fresh
        threeEntries =
      readings 0 101 [([], asking 2)] fresh threeEntries ++
        ⟨[], threeEntries, (asking 0).emptyReply fresh.scratch⟩ ::
          readings 0 101 [([], asking 4)] fresh threeEntries ∧
    (readings 0 101 (tooSmall ++ [(addition, asking 4)]) fresh threeEntries).map
        Sighting.given =
      (readings 0 101 tooSmall fresh threeEntries ++
        readings 0 101 [([], asking 4)] fresh
          ((threeEntries.run (tooSmall.flatMap Prod.fst)).run addition)).map
            Sighting.given := by
  intro fresh tooSmall addition
  have valid : threeEntries.Valid := valid_empty.run _
  have present : threeEntries.tables[0]? = some threeEntriesTable := by decide +kernel
  have opened : ∀ reading ∈ readings 0 101
      ([([], asking 2)] ++ ([], asking 0) :: [([], asking 4)]) fresh threeEntries,
      reading.found.descriptors.lookup 101 = some 0 := by decide +kernel
  have goesOn : ∀ reading ∈ readings 0 101 [([], asking 2)] fresh threeEntries,
      reading.given.goesOn = true := by decide +kernel
  have openedSmall : ∀ reading ∈ readings 0 101
      (tooSmall ++ (addition, asking 0) :: [([], asking 4)]) fresh threeEntries,
      reading.found.descriptors.lookup 101 = some 0 := by decide +kernel
  have goesOnSmall : ∀ reading ∈ readings 0 101 tooSmall fresh threeEntries,
      reading.given.goesOn = true := by decide +kernel
  have counts : ∀ reading ∈ readings 0 101 tooSmall fresh threeEntries,
      reading.given.count = 0 := by decide +kernel
  obtain ⟨restarts, _⟩ := emptyBatch_starts_over valid present rfl opened goesOn
  obtain ⟨_, unnoticed, _⟩ :=
    emptyBatch_starts_over valid present rfl openedSmall goesOnSmall
  exact ⟨restarts, unnoticed counts⟩

/-- With an empty batch in between, a client reads the first two entries twice and the
third one never, although nobody changes the map. -/
theorem emptyBatch_revisits_threeEntries :
    let plain := readings 0 101 [([], asking 2), ([], asking 2)] (Cursor.new 1)
      threeEntries
    let inserted := readings 0 101 [([], asking 2), ([], asking 0), ([], asking 2)]
      (Cursor.new 1) threeEntries
    let returned := fun reading : Sighting BatchReply => (reading.given.entries 1 1).keys
    threeEntries.Reachable ∧ meanwhile inserted = [] ∧
      plain.map returned = [[[1], [2]], [[3]]] ∧
      inserted.map returned = [[[1], [2]], [], [[1], [2]]] ∧
      (inserted.map Sighting.given).eraseIdx 1 ≠ plain.map Sighting.given := by
  intro plain inserted returned
  refine ⟨⟨_, rfl, by decide +kernel⟩, by decide +kernel, by decide +kernel,
    by decide +kernel, by decide +kernel⟩

end Kernel
end KernelMaps
