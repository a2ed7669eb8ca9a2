import KernelMaps.Proofs.BatchWalks
import KernelMaps.Proofs.Handles
import Mathlib.Data.Nat.Log

/-!
# One round of a walk over batches

A step of a walk over batches on any host, with all that it asks for. It asks
again as long as a bucket does not fit and the chunk can grow, and its last
answer decides what it gives and where the walk goes on. Only a status whose
word cannot be negated stops the program.
-/

namespace KernelMaps

/-- A request for a batch and the answer to it. -/
structure Asked where
  query : BatchQuery
  answer : Answer (.lookupBatch query)

/-- What a walk put to its host: the requests for batches, and any other calls. -/
structure Inquiry where
  batches : List Asked := []
  others : List Call := []

/-- An inquiry with one more call. -/
def Inquiry.add (inquiry : Inquiry) : (call : Call) → Answer call → Inquiry
  | .lookupBatch query, answer =>
      { inquiry with batches := inquiry.batches ++ [⟨query, answer⟩] }
  | call, _ => { inquiry with others := inquiry.others ++ [call] }

/-- A host that writes down what it is asked for. -/
def Host.asked (host : Host σ) : Host (σ × Inquiry) where
  call := fun call state =>
    let answered := host.call call state.1
    (answered.1, (answered.2, state.2.add call answered.1))
  note := fun note state => (host.note note state.1, state.2)
  patience := fun state => host.patience state.1

/-- A round of a walk: what was asked, and what came of it. -/
structure Round where
  inquiry : Inquiry
  step : BatchStep

namespace Asked

/-- Whether the request was served. -/
def isOk (asked : Asked) : Bool :=
  asked.answer.status.isOk

/-- Whether the program stops when it looks at the answer. -/
def Stops (asked : Asked) : Prop :=
  asked.answer.status.Stops

/-- Whether the answer says that a bucket did not fit. -/
def overflows (asked : Asked) : Checked Bool :=
  BatchWalk.bucketOverflows asked.answer asked.answer.left.count

instance (asked : Asked) : Decidable asked.Stops :=
  inferInstanceAs (Decidable asked.answer.status.Stops)

/-- The token that the answer leaves in a buffer of the given width. -/
def token (width : Nat) (asked : Asked) : Bytes :=
  Bytes.fit width asked.answer.left.token

/-- The keys that the answer leaves, in the buffer that was lent for them. -/
def keys (keySize : UInt32) (asked : Asked) : Bytes :=
  Bytes.fit (keySize.toNat * asked.query.count.toNat) asked.answer.left.keys

/-- The values that the answer leaves, in the buffer that was lent for them. -/
def values (valueSize : UInt32) (asked : Asked) : Bytes :=
  Bytes.fit (valueSize.toNat * asked.query.count.toNat) asked.answer.left.values

/-- The number of entries that are taken over: what the host claims, but not more
than was asked for. -/
def number (asked : Asked) : Nat :=
  min asked.answer.left.count.toNat asked.query.count.toNat

/-- The entries at the start of the lent buffers, cut at the given sizes. -/
def entries (keySize valueSize : UInt32) (asked : Asked) : Entries :=
  (List.range asked.number).map fun index =>
    (((asked.keys keySize).drop (index * keySize.toNat)).take keySize.toNat,
      ((asked.values valueSize).drop (index * valueSize.toNat)).take valueSize.toNat)

/-- What comes of the last answer of a round. -/
def verdict (keySize valueSize : UInt32) (asked : Asked) : BatchStep :=
  if asked.Stops then .panicked .overflow
  else if asked.isOk then .entries (asked.entries keySize valueSize)
  else if asked.answer.status.isErrno Errno.noEntry = .ok true then
    if asked.answer.left.count = 0 then .finished
    else .entries (asked.entries keySize valueSize)
  else .failed asked.answer.status

theorem length_entries (keySize valueSize : UInt32) (asked : Asked) :
    (asked.entries keySize valueSize).length =
      min asked.answer.left.count.toNat asked.query.count.toNat := by
  rw [entries, List.length_map, List.length_range, number]

/-- What a round can give. -/
theorem verdict_cases (keySize valueSize : UInt32) (asked : Asked) :
    (asked.Stops ∧ asked.verdict keySize valueSize = .panicked .overflow) ∨
      asked.verdict keySize valueSize = .entries (asked.entries keySize valueSize) ∨
      asked.verdict keySize valueSize = .finished ∨
      asked.verdict keySize valueSize = .failed asked.answer.status := by
  unfold verdict
  split
  · rename_i stops
    exact Or.inl ⟨stops, rfl⟩
  · refine Or.inr ?_
    split
    · exact Or.inl rfl
    · split
      · split
        · exact Or.inr (Or.inl rfl)
        · exact Or.inl rfl
      · exact Or.inr (Or.inr rfl)

/-- A round panics only at an answer that stops the program. -/
theorem stops_of_verdict
    {keySize valueSize : UInt32}
    {asked : Asked}
    {panic : Panic}
    (verdict : asked.verdict keySize valueSize = .panicked panic) :
    panic = .overflow ∧ asked.Stops := by
  rcases asked.verdict_cases keySize valueSize with ⟨stops, step⟩ | step | step | step <;>
    cases verdict.symm.trans step
  exact ⟨rfl, stops⟩

/-- The entries that a round gives are those at the start of the lent buffers. -/
theorem eq_entries_of_verdict
    {keySize valueSize : UInt32}
    {asked : Asked}
    {entries : Entries}
    (verdict : asked.verdict keySize valueSize = .entries entries) :
    entries = asked.entries keySize valueSize := by
  rcases asked.verdict_cases keySize valueSize with ⟨_, step⟩ | step | step | step <;>
    cases verdict.symm.trans step
  rfl

theorem overflows_of_stops
    {asked : Asked}
    (stops : asked.Stops) :
    asked.overflows = .error .overflow := by
  rw [overflows, BatchWalk.bucketOverflows, Status.isErrno_of_stops stops]
  rfl

theorem exists_overflows_of_not_stops
    {asked : Asked}
    (goesOn : ¬asked.Stops) :
    ∃ crowded : Bool, asked.overflows = .ok crowded := by
  obtain ⟨failed, known⟩ := Status.exists_isErrno_of_not_stops goesOn Errno.noSpace
  exact ⟨failed && asked.answer.left.count == 0, by
    rw [overflows, BatchWalk.bucketOverflows, known]
    rfl⟩

theorem not_stops_of_isOk
    {asked : Asked}
    (succeeded : asked.isOk = true) :
    ¬asked.Stops :=
  fun stops => Bool.false_ne_true ((Status.isOk_of_stops stops).symm.trans succeeded)

/-- A bucket that did not fit is a failure. -/
theorem isOk_of_overflows
    {asked : Asked}
    (crowded : asked.overflows = .ok true) :
    asked.isOk = false := by
  refine Bool.eq_false_iff.2 fun succeeded => ?_
  rw [overflows, BatchWalk.bucketOverflows, Status.isErrno_of_isOk succeeded] at crowded
  cases crowded

/-- The token that the latest success among some requests left, if there is one. -/
def latestToken (width : Nat) (asked : List Asked) : Option Bytes :=
  (asked.filter Asked.isOk).getLast?.map (Asked.token width)

theorem latestToken_append (width : Nat) (earlier later : List Asked) :
    latestToken width (earlier ++ later) =
      (latestToken width later).or (latestToken width earlier) := by
  rw [latestToken, List.filter_append, List.getLast?_append, Option.map_or]
  rfl

theorem latestToken_of_failed
    (width : Nat)
    {asked : List Asked}
    (failed : ∀ request ∈ asked, request.isOk = false) :
    latestToken width asked = none := by
  have none_ok : asked.filter Asked.isOk = [] := by
    rw [List.filter_eq_nil_iff]
    intro request member
    exact Bool.eq_false_iff.1 (failed request member)
  rw [latestToken, none_ok]
  rfl

end Asked

namespace BatchWalk

/-- What is cut out of the buffers are the entries at their start. -/
theorem cut_eq_entries
    {walk : BatchWalk}
    {asked : Asked}
    (count : asked.query.count = walk.chunk) :
    walk.cut asked.answer.left = asked.entries walk.keySize walk.valueSize := by
  have number : min asked.answer.left.count.toNat walk.chunk.toNat = asked.number := by
    rw [Asked.number, count]
  rw [cut, number, Bytes.pieces_eq_map_range, Bytes.pieces_eq_map_range, List.zip_map',
    Asked.entries]
  refine List.map_congr_left fun index member => ?_
  have within : index < asked.query.count.toNat :=
    Nat.lt_of_lt_of_le (List.mem_range.1 member) (Nat.min_le_right _ _)
  rw [Bytes.fit_drop_eq_take_drop within, Bytes.fit_drop_eq_take_drop within, Asked.keys,
    Asked.values]

/-! ## Asking again -/

/-- How often a chunk can still grow: it doubles, and stays when it has reached the
greatest size. -/
def growths (chunk : UInt32) : Nat :=
  16 - Nat.log2 chunk.toNat

/-- A chunk that grows can grow less often after that. -/
theorem growths_grownChunk
    {chunk : UInt32}
    (positive : 0 < chunk)
    (small : chunk < maxChunk) :
    growths (grownChunk chunk) + 1 ≤ growths chunk := by
  have limit : maxChunk.toNat = 65536 := rfl
  have grown := toNat_grownChunk small
  rw [UInt32.lt_iff_toNat_lt] at positive small
  have nonzero : chunk.toNat ≠ 0 := Nat.ne_of_gt positive
  have below : Nat.log2 chunk.toNat < 16 := (Nat.log2_lt nonzero).2 (by omega)
  rw [growths, growths, grown]
  rcases Nat.le_total (2 * chunk.toNat) 65536 with doubles | capped
  · rw [Nat.min_eq_left doubles, Nat.log2_two_mul nonzero]
    omega
  · have greatest : Nat.log2 65536 = 16 := by decide +kernel
    rw [Nat.min_eq_right capped, greatest]
    omega

theorem growths_le (chunk : UInt32) : growths chunk ≤ 16 :=
  Nat.sub_le 16 _

/-- A later state of a walk over the same map. -/
structure Continues (walk after : BatchWalk) : Prop where
  descriptor : after.descriptor = walk.descriptor
  keySize : after.keySize = walk.keySize
  valueSize : after.valueSize = walk.valueSize
  options : after.options = walk.options
  width : after.cursor.width = walk.cursor.width

theorem Continues.trans
    {first second third : BatchWalk}
    (early : first.Continues second)
    (late : second.Continues third) :
    first.Continues third where
  descriptor := late.descriptor.trans early.descriptor
  keySize := late.keySize.trans early.keySize
  valueSize := late.valueSize.trans early.valueSize
  options := late.options.trans early.options
  width := late.width.trans early.width

/-- What a fetch asks for: requests that a bucket did not fit into, each with a
greater chunk than the one before, and a last one. -/
inductive Fetched : BatchWalk → List Asked → Asked → BatchWalk → Prop
  /-- The first request is the last one. -/
  | last
      {walk : BatchWalk}
      {asked : Asked}
      (query : asked.query = walk.query) :
      Fetched walk [] asked walk
  /-- A bucket did not fit, and the walk asks again. -/
  | again
      {walk wide : BatchWalk}
      {first last : Asked}
      {refused : List Asked}
      (query : first.query = walk.query)
      (crowded : first.overflows = .ok true)
      (small : walk.chunk < maxChunk)
      (later : Fetched (walk.grow small) refused last wide) :
      Fetched walk (first :: refused) last wide

theorem run_issue_asked
    (host : Host σ)
    (call : Call)
    (state : σ)
    (inquiry : Inquiry) :
    (host.asked.issue call).run (state, inquiry) =
      let issued := (host.issue call).run state
      (issued.1, (issued.2, inquiry.add call issued.1)) := by
  simp only [run_issue_eq, Host.noted, Host.asked]
  cases call.kind with
  | close | duplicate => rfl
  | command number => cases (host.call call state).1.outcome <;> rfl

/-- If there are buffers, a fetch asks for batches and for nothing else, and gives the
last answer unless the program stops at it. -/
theorem run_fetch_asked
    (host : Host σ)
    {walk : BatchWalk}
    (addressable : walk.Addressable)
    (state : σ)
    (inquiry : Inquiry) :
    ∃ (refused : List Asked) (last : Asked) (wide : BatchWalk) (after : σ),
      (walk.fetch host.asked).run (state, inquiry) =
        ((if last.Stops then .error .overflow
          else .ok (last.answer.status, last.answer.left), wide),
          (after, { inquiry with
            batches := inquiry.batches ++ (refused ++ [last]) })) ∧
        Fetched walk refused last wide := by
  induction walk using growing generalizing state inquiry with
  | step walk inductionHypothesis =>
      have issued := run_issue_asked host (.lookupBatch walk.query) state inquiry
      generalize (host.issue (.lookupBatch walk.query)).run state = answered at issued
      obtain ⟨answer, after⟩ := answered
      let asked : Asked := ⟨walk.query, answer⟩
      rw [fetch, buffers_of_addressable addressable]
      dsimp only
      rw [Action.run_bind, issued]
      by_cases stops : asked.Stops
      · have overflows : bucketOverflows answer answer.left.count = .error .overflow :=
          Asked.overflows_of_stops stops
        refine ⟨[], asked, walk, after, ?_, .last rfl⟩
        rw [if_pos stops]
        simp only [overflows]
        rfl
      · obtain ⟨crowded, known⟩ := Asked.exists_overflows_of_not_stops stops
        have overflows : bucketOverflows answer answer.left.count = .ok crowded := known
        simp only [overflows]
        by_cases grows : crowded = true ∧ walk.chunk < maxChunk
        · obtain ⟨refused, last, wide, ended, fetched, asks⟩ :=
            inductionHypothesis grows.2 (addressable_grow grows.2)
              (host.note (.retrying (grownChunk walk.chunk)) after)
              (inquiry.add (.lookupBatch walk.query) answer)
          refine ⟨asked :: refused, last, wide, ended, ?_,
            .again rfl (known.trans (congrArg _ grows.1)) grows.2 asks⟩
          rw [dif_pos grows]
          refine fetched.trans ?_
          simp only [Inquiry.add, List.append_assoc]
          rfl
        · refine ⟨[], asked, walk, after, ?_, .last rfl⟩
          rw [dif_neg grows, if_neg stops]
          rfl

namespace Fetched

variable
  {walk wide : BatchWalk}
  {refused : List Asked}
  {last : Asked}

/-- Nothing but the chunk of the walk changes. -/
theorem wide_eq (fetched : Fetched walk refused last wide) :
    wide = walk.resize wide.chunk wide.chunk_pos := by
  induction fetched with
  | last => rfl
  | again _ _ _ _ inductionHypothesis => exact inductionHypothesis

theorem continues (fetched : Fetched walk refused last wide) : walk.Continues wide := by
  rw [fetched.wide_eq]
  exact ⟨rfl, rfl, rfl, rfl, rfl⟩

theorem done_eq (fetched : Fetched walk refused last wide) : wide.done = walk.done := by
  rw [fetched.wide_eq]
  rfl

/-- A walk that grows does not run out of buffers. -/
theorem addressable
    (fetched : Fetched walk refused last wide)
    (short : walk.Addressable) :
    wide.Addressable := by
  induction fetched with
  | last => exact short
  | again _ _ small _ inductionHypothesis => exact inductionHypothesis (addressable_grow small)

theorem count_last (fetched : Fetched walk refused last wide) :
    last.query.count = wide.chunk := by
  induction fetched with
  | last query => rw [query, BatchWalk.query, Cursor.query]
  | again _ _ _ _ inductionHypothesis => exact inductionHypothesis

/-- All requests of a round differ in nothing but the number of entries. -/
theorem query_eq
    (fetched : Fetched walk refused last wide)
    {asked : Asked}
    (member : asked ∈ refused ++ [last]) :
    asked.query =
      walk.cursor.query false walk.descriptor asked.query.count walk.options := by
  induction fetched with
  | last query =>
      rw [List.mem_singleton.1 member, query]
      rfl
  | again query _ _ _ inductionHypothesis =>
      rcases List.mem_cons.1 member with rfl | later
      · rw [query]
        rfl
      · exact inductionHypothesis later

theorem isOk_of_refused
    (fetched : Fetched walk refused last wide)
    {asked : Asked}
    (member : asked ∈ refused) :
    asked.isOk = false := by
  induction fetched with
  | last => cases member
  | again _ crowded _ _ inductionHypothesis =>
      rcases List.mem_cons.1 member with rfl | later
      · exact Asked.isOk_of_overflows crowded
      · exact inductionHypothesis later

theorem chunk_le (fetched : Fetched walk refused last wide) :
    walk.chunk ≤ wide.chunk := by
  induction fetched with
  | last => exact UInt32.le_refl _
  | @again walk _ _ _ _ _ _ small _ inductionHypothesis =>
      exact UInt32.le_trans (UInt32.le_of_lt (lt_grownChunk walk.chunk_pos small))
        inductionHypothesis

/-- The chunk grows to the greatest size at most. -/
theorem chunk_le_max (fetched : Fetched walk refused last wide) :
    wide.chunk.toNat ≤ max walk.chunk.toNat 65536 := by
  induction fetched with
  | last => exact Nat.le_max_left _ _
  | @again walk wide _ _ _ _ _ small _ inductionHypothesis =>
      have grown : (walk.grow small).chunk.toNat ≤ 65536 :=
        (toNat_grownChunk small).trans_le (Nat.min_le_right _ _)
      omega

/-- Each request that a bucket did not fit into uses up one growth of the chunk. -/
theorem length_refused_le (fetched : Fetched walk refused last wide) :
    refused.length + growths wide.chunk ≤ growths walk.chunk := by
  induction fetched with
  | last => exact Nat.le_of_eq (Nat.zero_add _)
  | @again walk wide _ _ refused _ _ small _ inductionHypothesis =>
      have fewer := growths_grownChunk walk.chunk_pos small
      have later : refused.length + growths wide.chunk ≤ growths (grownChunk walk.chunk) :=
        inductionHypothesis
      rw [List.length_cons]
      omega

/-- The requests ask for more and more entries, up to those of the last one. -/
theorem counts_ascend (fetched : Fetched walk refused last wide) :
    (refused ++ [last]).Pairwise (fun first second =>
        first.query.count ≤ second.query.count) ∧
      ∀ asked ∈ refused ++ [last],
        walk.chunk ≤ asked.query.count ∧ asked.query.count ≤ wide.chunk := by
  induction fetched with
  | @last walk asked query =>
      refine ⟨List.pairwise_singleton _ _, fun asked member => ?_⟩
      rw [List.mem_singleton.1 member, query]
      exact ⟨UInt32.le_refl _, UInt32.le_refl _⟩
  | @again walk wide first last refused query _ small later inductionHypothesis =>
      obtain ⟨ascend, bounds⟩ := inductionHypothesis
      have count : first.query.count = walk.chunk := by rw [query, BatchWalk.query, Cursor.query]
      have larger : walk.chunk ≤ (walk.grow small).chunk :=
        UInt32.le_of_lt (lt_grownChunk walk.chunk_pos small)
      refine ⟨List.pairwise_cons.2 ⟨fun asked member => ?_, ascend⟩, fun asked member => ?_⟩
      · rw [count]
        exact UInt32.le_trans larger (bounds asked member).1
      · rcases List.mem_cons.1 member with rfl | member
        · rw [count]
          exact ⟨UInt32.le_refl _, UInt32.le_trans larger later.chunk_le⟩
        · exact ⟨UInt32.le_trans larger (bounds asked member).1, (bounds asked member).2⟩

end Fetched

/-! ## One round -/

/-- The walk after the last answer of a round: it takes over the token of a success,
and is over after anything else, unless the program stops. -/
def adopt (walk : BatchWalk) (last : Asked) : BatchWalk :=
  if last.isOk then
    { walk with
      cursor := { walk.cursor with token := some (last.token walk.cursor.width) } }
  else if last.Stops then walk
  else walk.finish

/-- All that a round can come to. -/
inductive Turn (walk : BatchWalk) : Round → BatchWalk → Prop
  /-- The walk is over, and asks for nothing. -/
  | ended (done : walk.done = true) : Turn walk ⟨{}, .finished⟩ walk
  /-- The walk asks, maybe several times, and the last answer decides. -/
  | read
      {wide : BatchWalk}
      {refused : List Asked}
      {last : Asked}
      (active : walk.done = false)
      (fetched : Fetched walk refused last wide) :
      Turn walk
        ⟨{ batches := refused ++ [last] }, last.verdict walk.keySize walk.valueSize⟩
        (wide.adopt last)

section Verdict

variable
  {walk : BatchWalk}
  {last : Asked}

theorem adopt_of_isOk (succeeded : last.isOk = true) :
    { walk with
      cursor := (walk.cursor.advance? (Bytes.padded walk.cursor.width
        last.answer.left.token)).getD walk.cursor } = walk.adopt last := by
  rw [Cursor.advance?_padded, Option.getD_some, adopt, if_pos succeeded]
  rfl

theorem adopt_of_failed
    (goesOn : ¬last.Stops)
    (failed : ¬last.isOk = true) :
    walk.adopt last = walk.finish := by
  rw [adopt, if_neg failed, if_neg goesOn]

theorem adopt_of_stops (stops : last.Stops) : walk.adopt last = walk := by
  have failed : ¬last.isOk = true := fun succeeded =>
    Asked.not_stops_of_isOk succeeded stops
  rw [adopt, if_neg failed, if_pos stops]

/-- Nothing but a success moves the walk. -/
theorem cursor_adopt (failed : ¬last.isOk = true) :
    (walk.adopt last).cursor = walk.cursor := by
  by_cases stops : last.Stops
  · rw [adopt_of_stops stops]
  · rw [adopt_of_failed stops failed]
    rfl

/-- The step that the buffers give after a success. -/
theorem stepOf_of_isOk
    (sizes : walk.keySize ≠ 0 ∧ walk.valueSize ≠ 0)
    (active : walk.done = false)
    (count : last.query.count = walk.chunk)
    (succeeded : last.isOk = true) :
    (walk.adopt last).stepOf last.answer.left =
      last.verdict walk.keySize walk.valueSize := by
  have still : ¬(last.answer.left.count = 0 ∧ walk.done = true) := by
    rw [active]
    exact fun both => Bool.false_ne_true both.2
  rw [Asked.verdict, if_neg (Asked.not_stops_of_isOk succeeded), if_pos succeeded,
    ← cut_eq_entries count, adopt, if_pos succeeded]
  generalize some (last.token walk.cursor.width) = token
  exact (stepOf_of_sizes { walk with cursor := { walk.cursor with token } } sizes
    last.answer.left).trans (if_neg still)

/-- The step that the buffers give at the end of the entries. -/
theorem stepOf_of_noEntry
    (sizes : walk.keySize ≠ 0 ∧ walk.valueSize ≠ 0)
    (count : last.query.count = walk.chunk)
    (goesOn : ¬last.Stops)
    (failed : ¬last.isOk = true)
    (ended : last.answer.status.isErrno Errno.noEntry = .ok true) :
    walk.finish.stepOf last.answer.left =
      last.verdict walk.keySize walk.valueSize := by
  rw [stepOf_of_sizes walk.finish sizes, Asked.verdict, if_neg goesOn, if_neg failed,
    if_pos ended, ← cut_eq_entries count]
  exact if_congr (and_iff_left rfl) rfl rfl

end Verdict

/-- On any host a round is one of the two, if there are buffers for it. -/
theorem run_next_asked
    (host : Host σ)
    {walk : BatchWalk}
    (sizes : walk.keySize ≠ 0 ∧ walk.valueSize ≠ 0)
    (addressable : walk.Addressable)
    (state : σ) :
    ∃ (round : Round) (after : BatchWalk) (ended : σ),
      (walk.next host.asked).run (state, {}) =
        ((round.step, after), (ended, round.inquiry)) ∧
        Turn walk round after := by
  cases done : walk.done with
  | true =>
      exact ⟨⟨{}, .finished⟩, walk, state, run_next_of_done host.asked done (state, {}),
        .ended done⟩
  | false =>
      obtain ⟨refused, last, wide, ended, fetched, asks⟩ :=
        run_fetch_asked host addressable state {}
      refine ⟨⟨{ batches := refused ++ [last] },
        last.verdict walk.keySize walk.valueSize⟩, wide.adopt last, ended, ?_,
        .read done asks⟩
      have wideDone : wide.done = false := asks.done_eq.trans done
      rw [← asks.continues.keySize, ← asks.continues.valueSize] at sizes ⊢
      have active : ¬walk.done = true := Bool.eq_false_iff.1 done
      rw [next, if_neg active, Action.run_bind, fetched]
      dsimp only
      by_cases stops : last.Stops
      · rw [if_pos stops, adopt_of_stops stops, Asked.verdict, if_pos stops]
        rfl
      rw [if_neg stops]
      dsimp only
      by_cases succeeded : last.isOk = true
      · have ok : last.answer.status.isOk = true := succeeded
        rw [if_pos ok, adopt_of_isOk succeeded,
          stepOf_of_isOk sizes wideDone asks.count_last succeeded]
        rfl
      · have notOk : ¬last.answer.status.isOk = true := succeeded
        obtain ⟨ends, known⟩ :=
          Status.exists_isErrno_of_not_stops stops Errno.noEntry
        rw [if_neg notOk, adopt_of_failed stops succeeded, known]
        cases ends with
        | true =>
            rw [← stepOf_of_noEntry sizes asks.count_last stops succeeded known]
            rfl
        | false =>
            have other : ¬last.answer.status.isErrno Errno.noEntry = .ok true := by
              rw [known]
              simp
            rw [Asked.verdict, if_neg stops, if_neg succeeded, if_neg other]
            rfl

/-- The walk goes on at the token that the latest success left, if there was one. -/
theorem Fetched.token_adopt
    {walk wide : BatchWalk}
    {refused : List Asked}
    {last : Asked}
    (fetched : Fetched walk refused last wide) :
    (Asked.latestToken walk.cursor.width (refused ++ [last])).or walk.cursor.token =
      (wide.adopt last).cursor.token := by
  have noneBefore : Asked.latestToken walk.cursor.width refused = none :=
    Asked.latestToken_of_failed _ fun _ member => fetched.isOk_of_refused member
  rw [Asked.latestToken_append, noneBefore, Option.or_none, fetched.wide_eq]
  by_cases succeeded : last.isOk = true
  · rw [adopt, if_pos succeeded, Asked.latestToken, List.filter_cons_of_pos succeeded]
    rfl
  · rw [cursor_adopt succeeded, Asked.latestToken, List.filter_cons_of_neg succeeded]
    rfl

/-- Whatever the last answer is, the walk after it is a later state of the walk. -/
theorem continues_adopt (walk : BatchWalk) (last : Asked) :
    walk.Continues (walk.adopt last) := by
  unfold adopt
  split
  · exact ⟨rfl, rfl, rfl, rfl, rfl⟩
  · split <;> exact ⟨rfl, rfl, rfl, rfl, rfl⟩

theorem chunk_adopt (walk : BatchWalk) (last : Asked) :
    (walk.adopt last).chunk = walk.chunk := by
  unfold adopt
  split
  · rfl
  · split <;> rfl

namespace Turn

variable
  {walk after : BatchWalk}
  {round : Round}

theorem continues (turn : Turn walk round after) : walk.Continues after := by
  cases turn with
  | ended => exact ⟨rfl, rfl, rfl, rfl, rfl⟩
  | read _ fetched => exact fetched.continues.trans (continues_adopt _ _)

/-- A round that gives nothing or fails is followed by no other request. -/
theorem done_of_ends
    (turn : Turn walk round after)
    (ends : round.step = .finished ∨ ∃ status, round.step = .failed status) :
    after.done = true := by
  cases turn with
  | ended done => exact done
  | @read wide _ last _ _ =>
      have goesOn : ¬last.Stops := by
        intro stops
        rw [Asked.verdict, if_pos stops] at ends
        rcases ends with ends | ⟨status, ends⟩ <;> cases ends
      have failed : ¬last.isOk = true := by
        intro succeeded
        rw [Asked.verdict, if_neg goesOn, if_pos succeeded] at ends
        rcases ends with ends | ⟨status, ends⟩ <;> cases ends
      rw [adopt_of_failed goesOn failed]
      rfl

/-- A walk that has buffers keeps having them. -/
theorem addressable
    (turn : Turn walk round after)
    (short : walk.Addressable) :
    after.Addressable := by
  cases turn with
  | ended => exact short
  | @read wide _ last _ fetched =>
      have continues := continues_adopt wide last
      exact (fetched.addressable short).congr continues.keySize continues.valueSize
        (chunk_adopt wide last)

/-- A walk is over after a round just when it was over before, or the last answer of
the round was no success. -/
theorem done_iff
    (turn : Turn walk round after)
    (goesOn : ∀ panic, round.step ≠ .panicked panic) :
    after.done = true ↔ walk.done = true ∨
      ∃ last : Asked, round.inquiry.batches.getLast? = some last ∧ last.isOk = false := by
  cases turn with
  | ended done => exact ⟨fun _ => Or.inl done, fun _ => done⟩
  | @read wide _ last active fetched =>
      have still : wide.done = false := fetched.done_eq.trans active
      rw [active, List.getLast?_concat]
      by_cases succeeded : last.isOk = true
      · have kept : (wide.adopt last).done = false := by
          rw [adopt, if_pos succeeded]
          exact still
        simp [kept, succeeded]
      · have readable : ¬last.Stops := fun stops =>
          goesOn .overflow (if_pos stops)
        have ended : (wide.adopt last).done = true := by
          rw [adopt_of_failed readable succeeded]
          rfl
        simp [ended, Bool.eq_false_iff.2 succeeded]

/-- A round asks for nothing just when the walk is over. -/
theorem batches_eq_nil_iff (turn : Turn walk round after) :
    round.inquiry.batches = [] ↔ walk.done = true := by
  cases turn with
  | ended done => exact ⟨fun _ => done, fun _ => rfl⟩
  | read active => simp [active]

end Turn

end BatchWalk
end KernelMaps
