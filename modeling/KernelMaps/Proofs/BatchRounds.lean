import KernelMaps.Proofs.BatchTurns
import Mathlib.Algebra.GroupWithZero.Nat

/-!
# Walks over batches on any host

Whatever a host answers, a walk over batches asks only for batches, and it asks
again at most sixteen times. What it gives is cut out of the buffers of the last
answer, its token is the one that the last success left, and once it has failed
or ended it asks no more. The program stops in it only at a status whose word cannot
be negated.
-/

namespace KernelMaps
namespace BatchWalk

/-- Some rounds of a walk on any host, one for each step. The walk goes on after its
end, too, but not after a step that stops the program. -/
def rounds (host : Host σ) : Nat → BatchWalk → σ → List Round
  | 0, _, _ => []
  | number + 1, walk, state =>
      let ended := (walk.next host.asked).run (state, {})
      let round : Round := ⟨ended.2.2, ended.1.1⟩
      match round.step with
      | .panicked _ => [round]
      | _ => round :: rounds host number ended.1.2 ended.2.1

/-- Rounds of a walk, one after the other. -/
inductive Goes : BatchWalk → List Round → Prop
  | stop (walk : BatchWalk) : Goes walk []
  | turn
      {walk after : BatchWalk}
      {round : Round}
      {rounds : List Round}
      (turn : Turn walk round after)
      (last : ∀ panic, round.step = .panicked panic → rounds = [])
      (later : Goes after rounds) :
      Goes walk (round :: rounds)

/-- The program stops in the last of some rounds. -/
def StopsIn (rounds : List Round) : Prop :=
  ∃ round panic, rounds.getLast? = some round ∧ round.step = .panicked panic

theorem StopsIn.cons
    {rounds : List Round}
    (stops : StopsIn rounds)
    (round : Round) :
    StopsIn (round :: rounds) := by
  obtain ⟨last, panic, isLast, panicked⟩ := stops
  exact ⟨last, panic, by rw [List.getLast?_cons, isLast]; rfl, panicked⟩

theorem goes_rounds
    (host : Host σ)
    (number : Nat)
    {walk : BatchWalk}
    (sizes : walk.keySize ≠ 0 ∧ walk.valueSize ≠ 0)
    (addressable : walk.Addressable)
    (state : σ) :
    Goes walk (walk.rounds host number state) ∧
      ((walk.rounds host number state).length = number ∨
        StopsIn (walk.rounds host number state)) := by
  induction number generalizing walk state with
  | zero => exact ⟨.stop walk, Or.inl rfl⟩
  | succ number inductionHypothesis =>
      obtain ⟨round, after, ended, run, turn⟩ :=
        run_next_asked host sizes addressable state
      have continues := turn.continues
      rw [← continues.keySize, ← continues.valueSize] at sizes
      obtain ⟨goes, complete⟩ :=
        inductionHypothesis sizes (turn.addressable addressable) ended
      rw [rounds, run]
      dsimp only
      split
      case h_1 panic panicked =>
        exact ⟨.turn turn (fun _ _ => rfl) (.stop after),
          Or.inr ⟨round, panic, rfl, panicked⟩⟩
      case h_2 goesOn =>
        exact ⟨.turn turn (fun panic panicked => absurd panicked (goesOn panic)) goes,
          complete.imp (congrArg (· + 1)) fun stops => stops.cons round⟩

end BatchWalk

/-- All requests of some rounds, in their order. -/
def Round.allAsked (rounds : List Round) : List Asked :=
  rounds.flatMap fun round => round.inquiry.batches

/-- How often a round asks again. -/
def Round.retries (round : Round) : Nat :=
  round.inquiry.batches.length - 1

namespace BatchWalk
namespace Goes

variable
  {walk : BatchWalk}
  {rounds : List Round}

/-- The rounds of a walk that is over. -/
theorem of_done
    (goes : Goes walk rounds)
    (done : walk.done = true)
    {round : Round}
    (member : round ∈ rounds) :
    round = ⟨{}, .finished⟩ := by
  induction goes with
  | stop => cases member
  | turn turn _ _ inductionHypothesis =>
      cases turn with
      | ended =>
          rcases List.mem_cons.1 member with rfl | later
          · rfl
          · exact inductionHypothesis done later
      | read active => exact absurd (active.symm.trans done) Bool.false_ne_true

/-- After a round that gives nothing or fails the walk is over. -/
theorem ended
    (goes : Goes walk rounds)
    {before later : List Round}
    {round next : Round}
    (split : rounds = before ++ round :: later)
    (ends : round.step = .finished ∨ ∃ status, round.step = .failed status)
    (member : next ∈ later) :
    next = ⟨{}, .finished⟩ := by
  induction goes generalizing before with
  | stop => simp at split
  | turn turn _ goes inductionHypothesis =>
      cases before with
      | nil =>
          obtain ⟨rfl, rfl⟩ := List.cons.inj split
          exact goes.of_done (turn.done_of_ends ends) member
      | cons _ before => exact inductionHypothesis (List.cons.inj split).2

/-- A round asks for nothing just when a round before it has ended without
success. -/
theorem batches_eq_nil_iff
    (goes : Goes walk rounds)
    {before later : List Round}
    {round : Round}
    (split : rounds = before ++ round :: later) :
    round.inquiry.batches = [] ↔ walk.done = true ∨ ∃ earlier ∈ before, ∃ last : Asked,
      earlier.inquiry.batches.getLast? = some last ∧ last.isOk = false := by
  induction goes generalizing before with
  | stop => simp at split
  | @turn walk after head rounds turn last _ inductionHypothesis =>
      cases before with
      | nil =>
          obtain ⟨rfl, rfl⟩ := List.cons.inj split
          simpa using turn.batches_eq_nil_iff
      | cons _ before =>
          obtain ⟨rfl, rest⟩ := List.cons.inj split
          have goesOn : ∀ panic, head.step ≠ .panicked panic := by
            intro panic panicked
            rw [last panic panicked] at rest
            simp at rest
          rw [inductionHypothesis rest, turn.done_iff goesOn, List.exists_mem_cons_iff,
            or_assoc]

/-- After a round that stops the program there is no other. -/
theorem last_of_panicked
    (goes : Goes walk rounds)
    {before later : List Round}
    {round : Round}
    (split : rounds = before ++ round :: later)
    {panic : Panic}
    (panicked : round.step = .panicked panic) :
    later = [] := by
  induction goes generalizing before with
  | stop => simp at split
  | turn _ last _ inductionHypothesis =>
      cases before with
      | nil =>
          obtain ⟨rfl, rfl⟩ := List.cons.inj split
          exact last panic panicked
      | cons _ before => exact inductionHypothesis (List.cons.inj split).2

theorem retries_le (goes : Goes walk rounds) :
    (rounds.map Round.retries).sum ≤ growths walk.chunk := by
  induction goes with
  | stop => exact Nat.zero_le _
  | @turn walk after round rounds turn _ _ inductionHypothesis =>
      rw [List.map_cons, List.sum_cons]
      cases turn with
      | ended => exact (Nat.zero_add _).trans_le inductionHypothesis
      | @read wide refused last _ fetched =>
          have uses := fetched.length_refused_le
          rw [chunk_adopt] at inductionHypothesis
          simp only [Round.retries, List.length_append, List.length_singleton] at *
          omega

/-- Every request asks to read from the map of the walk. -/
theorem query_eq
    (goes : Goes walk rounds)
    {asked : Asked}
    (member : asked ∈ Round.allAsked rounds) :
    ∃ token : Option Bytes, asked.query =
      { remove := false, descriptor := walk.descriptor, token,
        count := asked.query.count, options := walk.options } := by
  induction goes with
  | stop => cases member
  | @turn walk after round rounds turn _ _ inductionHypothesis =>
      rcases List.mem_append.1 member with inRound | later
      · cases turn with
        | ended => cases inRound
        | read _ fetched => exact ⟨walk.cursor.token, fetched.query_eq inRound⟩
      · have continues := turn.continues
        rw [← continues.descriptor, ← continues.options]
        exact inductionHypothesis later

/-- The requests ask for more and more entries. -/
theorem counts_ascend (goes : Goes walk rounds) :
    (Round.allAsked rounds).Pairwise (fun first second =>
        first.query.count ≤ second.query.count) ∧
      ∀ asked ∈ Round.allAsked rounds,
        walk.chunk ≤ asked.query.count ∧
          asked.query.count.toNat ≤ max walk.chunk.toNat 65536 := by
  induction goes with
  | stop => exact ⟨List.Pairwise.nil, nofun⟩
  | @turn walk after round rounds turn _ _ inductionHypothesis =>
      cases turn with
      | ended => exact inductionHypothesis
      | @read wide refused last _ fetched =>
          obtain ⟨ascend, bounds⟩ := inductionHypothesis
          obtain ⟨roundAscends, roundBounds⟩ := fetched.counts_ascend
          have larger := fetched.chunk_le
          have limit := fetched.chunk_le_max
          rw [chunk_adopt] at bounds
          refine ⟨List.pairwise_append.2 ⟨roundAscends, ascend, ?_⟩, ?_⟩
          · intro first inRound second later
            exact UInt32.le_trans (roundBounds first inRound).2 (bounds second later).1
          · intro asked member
            rcases List.mem_append.1 member with inRound | later
            · obtain ⟨least, greatest⟩ := roundBounds asked inRound
              have atMost := UInt32.le_iff_toNat_le.1 greatest
              exact ⟨least, Nat.le_trans atMost limit⟩
            · obtain ⟨least, greatest⟩ := bounds asked later
              exact ⟨UInt32.le_trans larger least, by omega⟩

/-- The requests of a round go on at the same place. -/
theorem sameToken
    (goes : Goes walk rounds)
    {round : Round}
    (member : round ∈ rounds)
    {first second : Asked}
    (inFirst : first ∈ round.inquiry.batches)
    (inSecond : second ∈ round.inquiry.batches) :
    first.query.token = second.query.token := by
  induction goes with
  | stop => cases member
  | @turn walk after head rounds turn _ _ inductionHypothesis =>
      rcases List.mem_cons.1 member with rfl | later
      · cases turn with
        | ended => cases inFirst
        | read _ fetched =>
            rw [fetched.query_eq inFirst, fetched.query_eq inSecond]
            rfl
      · exact inductionHypothesis later

/-- A request goes on where the latest success before it ended. -/
theorem token_eq
    (goes : Goes walk rounds)
    {before later : List Asked}
    {asked : Asked}
    (split : Round.allAsked rounds = before ++ asked :: later) :
    asked.query.token =
      (Asked.latestToken walk.cursor.width before).or walk.cursor.token := by
  induction goes generalizing before later with
  | stop => simp [Round.allAsked] at split
  | @turn walk after round rounds turn _ _ inductionHypothesis =>
      cases turn with
      | ended => exact inductionHypothesis split
      | @read wide refused last active fetched =>
          have width := (Turn.read active fetched).continues.width
          have adopted := fetched.token_adopt
          have parts : (refused ++ [last]) ++ Round.allAsked rounds =
              before ++ asked :: later := split
          rcases List.append_eq_append_iff.1 parts with
            ⟨between, rfl, rest⟩ | ⟨_ | ⟨first, between⟩, inRound, rest⟩
          · rw [Asked.latestToken_append, Option.or_assoc, adopted, ← width]
            exact inductionHypothesis rest
          · rw [List.append_nil] at inRound
            have atStart : Round.allAsked rounds = [] ++ asked :: later := rest.symm
            rw [← inRound, adopted]
            exact inductionHypothesis atStart
          · obtain ⟨rfl, _⟩ := List.cons.inj rest
            have member : asked ∈ refused ++ [last] := by
              rw [inRound]
              exact List.mem_append_right _ List.mem_cons_self
            have earlier : before ++ (asked :: between).dropLast = refused := by
              rw [← List.dropLast_append_of_ne_nil (List.cons_ne_nil _ _), ← inRound,
                List.dropLast_concat]
            have failed : ∀ request ∈ before, request.isOk = false := by
              intro request inBefore
              refine fetched.isOk_of_refused ?_
              rw [← earlier]
              exact List.mem_append_left _ inBefore
            rw [fetched.query_eq member, Asked.latestToken_of_failed _ failed]
            rfl

/-- What a round gives is decided by its last answer. -/
theorem step_eq
    (goes : Goes walk rounds)
    {round : Round}
    (member : round ∈ rounds) :
    round.inquiry.others = [] ∧
      round.step =
        match round.inquiry.batches.getLast? with
        | none => .finished
        | some last => last.verdict walk.keySize walk.valueSize := by
  induction goes with
  | stop => cases member
  | @turn walk after head rounds turn _ _ inductionHypothesis =>
      rcases List.mem_cons.1 member with rfl | later
      · cases turn with
        | ended => exact ⟨rfl, rfl⟩
        | read => exact ⟨rfl, by rw [List.getLast?_concat]⟩
      · have continues := turn.continues
        rw [← continues.keySize, ← continues.valueSize]
        exact inductionHypothesis later

end Goes

/-- What holds of some rounds of a walk, whatever the host answers. -/
structure Disciplined
    (descriptor : Descriptor)
    (keySize valueSize chunk : UInt32)
    (options : BatchOptions)
    (number : Nat)
    (rounds : List Round) : Prop where
  /-- There is a round for each step, unless the program stops in the last one. -/
  complete : rounds.length = number ∨ StopsIn rounds
  /-- The program stops only at an answer whose status has no word, or one that cannot
  be negated. Then no other round follows. -/
  stops : ∀ before round later, rounds = before ++ round :: later →
    ∀ panic, round.step = .panicked panic →
      panic = .overflow ∧ later = [] ∧
        ∃ last : Asked, round.inquiry.batches.getLast? = some last ∧ last.Stops
  /-- The walk puts no calls but requests to read a batch of its map. -/
  noOthers : ∀ round ∈ rounds, round.inquiry.others = []
  query : ∀ asked ∈ Round.allAsked rounds, ∃ token : Option Bytes,
    asked.query = { remove := false, descriptor, token, count := asked.query.count, options }
  /-- The lent buffers are no longer than buffers can be. -/
  buffers : ∀ asked ∈ Round.allAsked rounds,
    keySize.toNat * asked.query.count.toNat ≤ Checked.longestBuffer ∧
      valueSize.toNat * asked.query.count.toNat ≤ Checked.longestBuffer
  /-- All rounds together ask again at most sixteen times. -/
  retries : (rounds.map Round.retries).sum ≤ 16
  /-- The number of entries that is asked for never gets smaller. -/
  ascend : (Round.allAsked rounds).Pairwise fun first second =>
    first.query.count ≤ second.query.count
  atLeast : ∀ asked ∈ Round.allAsked rounds,
    max chunk.toNat 1 ≤ asked.query.count.toNat
  atMost : ∀ asked ∈ Round.allAsked rounds,
    asked.query.count.toNat ≤ max chunk.toNat 65536
  /-- The requests of a round go on at the same place. -/
  sameToken : ∀ round ∈ rounds,
    ∀ first ∈ round.inquiry.batches, ∀ second ∈ round.inquiry.batches,
      first.query.token = second.query.token
  /-- A request has the token that the latest success before it left, and none before
  the first success. -/
  token : ∀ before asked later, Round.allAsked rounds = before ++ asked :: later →
    asked.query.token = Asked.latestToken (max keySize.toNat 4) before
  /-- The last answer of a round decides what it gives, and a round that asks for
  nothing gives nothing. -/
  verdict : ∀ round ∈ rounds, round.step =
    match round.inquiry.batches.getLast? with
    | none => .finished
    | some last => last.verdict keySize valueSize
  /-- Entries that are given are as many as the last answer claims, but not more than
  were asked for, and are cut out of its buffers one after the other. -/
  cut : ∀ round ∈ rounds, ∀ entries : Entries, round.step = .entries entries →
    ∃ last : Asked, round.inquiry.batches.getLast? = some last ∧
      entries.length = min last.answer.left.count.toNat last.query.count.toNat ∧
      entries = last.entries keySize valueSize
  /-- A round asks for nothing just when a round before it has ended without
  success. -/
  asks : ∀ before round later, rounds = before ++ round :: later →
    (round.inquiry.batches = [] ↔ ∃ earlier ∈ before, ∃ last : Asked,
      earlier.inquiry.batches.getLast? = some last ∧ last.isOk = false)
  /-- After a failure or the end a round asks for nothing and gives nothing. -/
  ended : ∀ before round later, rounds = before ++ round :: later →
    (round.step = .finished ∨ ∃ status, round.step = .failed status) →
    ∀ next ∈ later, next = ⟨{}, .finished⟩

/-- If there is a buffer for the first request, there is one for each request that asks
for no more than the first or the greatest chunk. -/
theorem mul_le_longestBuffer_of_le_max
    {size : UInt32}
    {first count : Nat}
    (short : size.toNat * first ≤ Checked.longestBuffer)
    (atMost : count ≤ max first 65536) :
    size.toNat * count ≤ Checked.longestBuffer := by
  rcases Nat.le_total first 65536 with small | large
  · exact mul_le_longestBuffer size (by omega)
  · have below : count ≤ first := by omega
    exact Nat.le_trans (Nat.mul_le_mul_left _ below) short

/-- Whatever a host answers, a walk over entries whose sizes are not zero is
disciplined for any number of rounds, if there are buffers for its first chunk. -/
theorem rounds_disciplined
    (host : Host σ)
    (descriptor : Descriptor)
    {keySize valueSize : UInt32}
    (keySizeNonzero : keySize ≠ 0)
    (valueSizeNonzero : valueSize ≠ 0)
    {chunk : UInt32}
    (keysShort : keySize.toNat * max chunk.toNat 1 ≤ Checked.longestBuffer)
    (valuesShort : valueSize.toNat * max chunk.toNat 1 ≤ Checked.longestBuffer)
    (options : BatchOptions)
    (number : Nat)
    (state : σ) :
    Disciplined descriptor keySize valueSize chunk options number
      ((new descriptor keySize valueSize chunk options).rounds host number state) := by
  let walk := new descriptor keySize valueSize chunk options
  have sizes : walk.keySize ≠ 0 ∧ walk.valueSize ≠ 0 := ⟨keySizeNonzero, valueSizeNonzero⟩
  have first : walk.chunk.toNat = max chunk.toNat 1 :=
    toNat_chunk_new descriptor keySize valueSize chunk options
  rw [← first] at keysShort valuesShort
  obtain ⟨goes, complete⟩ := goes_rounds host number sizes ⟨keysShort, valuesShort⟩ state
  obtain ⟨ascend, bounds⟩ := goes.counts_ascend
  have verdict := fun (round : Round)
    (member : round ∈ walk.rounds host number state) => (goes.step_eq member).2
  have gives : ∀ round ∈ walk.rounds host number state,
      round.step = .finished ∨ ∃ last : Asked,
        round.inquiry.batches.getLast? = some last ∧
          round.step = last.verdict keySize valueSize := by
    intro round member
    have step := verdict round member
    cases last : round.inquiry.batches.getLast? with
    | none => exact Or.inl (by rw [step, last])
    | some asked => exact Or.inr ⟨asked, rfl, by rw [step, last]; rfl⟩
  constructor
  case complete => exact complete
  case stops =>
    intro before round later split panic panicked
    have member : round ∈ walk.rounds host number state := by
      rw [split]
      exact List.mem_append_right _ List.mem_cons_self
    have last := goes.last_of_panicked split panicked
    rcases gives round member with nothing | ⟨asked, isLast, step⟩
    · cases nothing.symm.trans panicked
    · obtain ⟨overflow, stops⟩ := Asked.stops_of_verdict (step.symm.trans panicked)
      exact ⟨overflow, last, asked, isLast, stops⟩
  case noOthers => exact fun round member => (goes.step_eq member).1
  case query => exact fun asked member => goes.query_eq member
  case buffers =>
    intro asked member
    have atMost := (bounds asked member).2
    exact ⟨mul_le_longestBuffer_of_le_max keysShort atMost,
      mul_le_longestBuffer_of_le_max valuesShort atMost⟩
  case retries => exact goes.retries_le.trans (growths_le walk.chunk)
  case ascend => exact ascend
  case atLeast =>
    intro asked member
    rw [← first]
    exact UInt32.le_iff_toNat_le.1 (bounds asked member).1
  case atMost =>
    intro asked member
    have atMost := (bounds asked member).2
    omega
  case sameToken =>
    exact fun round member first inFirst second inSecond =>
      goes.sameToken member inFirst inSecond
  case token =>
    exact fun before asked later split => (goes.token_eq split).trans Option.or_none
  case verdict => exact verdict
  case cut =>
    intro round member entries given
    rcases gives round member with nothing | ⟨last, isLast, step⟩
    · cases nothing.symm.trans given
    · obtain rfl := Asked.eq_entries_of_verdict (step.symm.trans given)
      exact ⟨last, isLast, last.length_entries keySize valueSize, rfl⟩
  case asks =>
    intro before round later split
    have active : walk.done = false := rfl
    rw [goes.batches_eq_nil_iff split, active]
    exact or_iff_right Bool.false_ne_true
  case ended =>
    exact fun before round later split ends next member => goes.ended split ends member

/-- A host that gives prepared answers to requests for batches. -/
def prepared : Host (List (Outcome × BatchLeft)) where
  call
    | .lookupBatch _, (outcome, left) :: rest => (⟨outcome, left⟩, rest)
    | call, answers => (.refuse call Errno.invalid, answers)
  note := fun _ answers => answers
  patience := List.length

/-- A bucket that does not fit, a success that claims more entries than were asked
for, and a failure that claims some. -/
def untrueAnswers : List (Outcome × BatchLeft) :=
  [(.error (.ofErrno Errno.noSpace), ⟨0, [], [], []⟩),
    (.ok 0, ⟨900, [7], [1, 2], [4, 5, 6]⟩),
    (.error (.ofErrno Errno.noSpace), ⟨1, [8], [], []⟩)]

theorem rounds_disciplined_untrueAnswers :
    Disciplined 5 1 2 1 {} 4 ((new 5 1 2 1 {}).rounds prepared 4 untrueAnswers) :=
  rounds_disciplined prepared 5 (by decide) (by decide) (by decide) (by decide) {} 4
    untrueAnswers

example : ((new 5 1 2 1 {}).rounds prepared 4 untrueAnswers).map Round.step =
    [.entries [([1], [4, 5]), ([2], [6, 0])], .failed (.ofErrno Errno.noSpace),
      .finished, .finished] := by
  decide +kernel

/-- A host can answer with the number whose low half is the least word. Asked for the
error number of this status, the program stops. -/
theorem rounds_leastWord :
    ((new 5 1 2 1 {}).rounds prepared 1 [(.ok 2147483648, ⟨0, [], [], []⟩)]).map
        Round.step = [.panicked .overflow] ∧
      ((new 5 1 2 1 {}).rounds prepared 1
        [(.error (.ofErrno Int32.minValue), ⟨0, [], [], []⟩)]).map
          Round.step = [.panicked .overflow] := by
  decide +kernel

end BatchWalk
end KernelMaps
