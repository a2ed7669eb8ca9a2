import KernelMaps.Cursor
import Mathlib.Data.List.Forall2

/-!
# The lives of cursors

A program makes cursors, clones them, takes tokens over and forgets them. What a cursor
holds is told by its own life alone: the start of the last buffer that was long enough,
unless the token was forgotten after that. A clone shares the life that its original
has had, and from then on each of them has its own.
-/

namespace KernelMaps
namespace Cursor

/-! ## Uses of cursors -/

/-- What a program does with its cursors, which it names by numbers in the order in
which they are made. -/
inductive Use
  | make (keySize : UInt32)
  | clone (name : Nat)
  | look (name : Nat)
  | split (name : Nat) (buffer : Bytes)
  | advance (name : Nat) (out : Bytes)
  | reset (name : Nat)
  deriving DecidableEq, Repr

/-- What a program sees of a use. -/
inductive Sight
  | nothing
  | token (token : Option Bytes)
  | sides (token : Option Bytes) (buffer : Bytes)
  | panic
  deriving DecidableEq, Repr

/-- Use the cursor of a name; without a cursor nothing happens. -/
def useOf (cursors : List Cursor) (name : Nat) (use : Cursor → Sight × List Cursor) :
    Sight × List Cursor :=
  match cursors[name]? with
  | none => (.nothing, cursors)
  | some cursor => use cursor

namespace Use

/-- Make use of the cursors. -/
def perform (cursors : List Cursor) : Use → Sight × List Cursor
  | make keySize => (.nothing, cursors ++ [.new keySize])
  | clone name => useOf cursors name fun cursor => (.nothing, cursors ++ [cursor])
  | look name => useOf cursors name fun cursor => (.token cursor.token, cursors)
  | split name buffer =>
      useOf cursors name fun cursor =>
        let (token, buffer) := cursor.split buffer
        (.sides token buffer, cursors)
  | advance name out =>
      useOf cursors name fun cursor =>
        match cursor.advance? out with
        | none => (.panic, cursors)
        | some next => (.nothing, cursors.set name next)
  | reset name =>
      useOf cursors name fun cursor => (.nothing, cursors.set name cursor.reset)

/-- The cursor that is used. -/
def subject? : Use → Option Nat
  | make _ => none
  | clone name | look name | split name _ | advance name _ | reset name => some name

/-- Whether a use is of the cursor of a name. -/
def isOf (name : Nat) (use : Use) : Bool :=
  use.subject? == some name

/-- Whether a use only shows something. -/
def onlyShows : Use → Bool
  | look _ | split .. => true
  | _ => false

/-- What a use makes of the cursor that is used. -/
def change (cursor : Cursor) : Use → Cursor
  | advance _ out => (cursor.advance? out).getD cursor
  | reset _ => cursor.reset
  | _ => cursor

/-- The cursors that were there before a use, after it. -/
def changed (cursors : List Cursor) (use : Use) : List Cursor :=
  match use.subject? with
  | none => cursors
  | some name => cursors.modify name use.change

/-- The cursors that are there only after a use. -/
def made (cursors : List Cursor) : Use → List Cursor
  | make keySize => [.new keySize]
  | clone name => cursors[name]?.toList
  | look _ | split .. | advance .. | reset _ => []

end Use

/-- The cursors after one use and the other. -/
def performAll (uses : List Use) (cursors : List Cursor) : List Cursor :=
  uses.foldl (fun cursors use => (use.perform cursors).2) cursors

/-! ## Lives -/

/-- What can happen to the token of a cursor. -/
inductive Event
  | advance (out : Bytes)
  | reset
  deriving DecidableEq, Repr

/-- The key size that a cursor was made for, and what has happened to its token. -/
structure Life where
  keySize : UInt32
  events : List Event := []
  deriving DecidableEq, Repr

/-- A buffer that is too short for a token was offered. -/
def Event.Fails (width : Nat) : Event → Prop
  | advance out => out.length < width
  | reset => False

namespace Life

/-- The number of bytes of a token: those of a key, and at least those of a 32-bit number. -/
def width (life : Life) : Nat :=
  max life.keySize.toNat 4

/-- One thing more happens. -/
def add (event : Event) (life : Life) : Life :=
  { life with events := life.events ++ [event] }

/-- A life leaves a token: the start of a buffer that was long enough, and nothing but
buffers that were too short came after it. -/
def Leaves (life : Life) (token : Bytes) : Prop :=
  ∃ before out after, life.events = before ++ .advance out :: after ∧
    life.width ≤ out.length ∧ token = out.take life.width ∧
    ∀ event ∈ after, event.Fails life.width

/-- What a use shows of a cursor with a life. -/
inductive Shows (life : Life) : Use → Sight → Prop
  | cloned {name : Nat} : Shows life (.clone name) .nothing
  | looked
      {name : Nat}
      {token : Option Bytes}
      (left : ∀ bytes, token = some bytes ↔ life.Leaves bytes) :
      Shows life (.look name) (.token token)
  /-- Nothing of what the buffer held before is in it. -/
  | split
      {name : Nat}
      {buffer : Bytes}
      {token : Option Bytes}
      (left : ∀ bytes, token = some bytes ↔ life.Leaves bytes) :
      Shows life (.split name buffer) (.sides token (Bytes.zeros life.width))
  | advanced
      {name : Nat}
      {out : Bytes}
      (long : life.width ≤ out.length) :
      Shows life (.advance name out) .nothing
  | refused
      {name : Nat}
      {out : Bytes}
      (short : out.length < life.width) :
      Shows life (.advance name out) .panic
  | forgotten {name : Nat} : Shows life (.reset name) .nothing

end Life

/-- The lives of the cursors after a use. A clone has had the life of its original. -/
def Use.live (lives : List Life) : Use → List Life
  | make keySize => lives ++ [{ keySize }]
  | clone name => lives ++ lives[name]?.toList
  | look _ | split .. => lives
  | advance name out => lives.modify name (.add (.advance out))
  | reset name => lives.modify name (.add .reset)

/-- The lives of cursors after all uses. -/
def livesAfter (uses : List Use) (lives : List Life) : List Life :=
  uses.foldl Use.live lives

/-- A cursor is as its life has made it. -/
structure Follows (cursor : Cursor) (life : Life) : Prop where
  width : cursor.width = life.width
  token_iff : ∀ token, cursor.token = some token ↔ life.Leaves token

/-- What holds of all cursors after some uses, whatever comes next. -/
structure Orderly (uses : List Use) : Prop where
  follows : List.Forall₂ Follows (performAll uses []) (livesAfter uses [])
  length_token : ∀ cursor ∈ performAll uses [], ∀ token,
    cursor.token = some token → token.length = cursor.width
  shows : ∀ name life, (livesAfter uses [])[name]? = some life →
    ∀ use : Use, use.subject? = some name →
      life.Shows use (use.perform (performAll uses [])).1
  /-- Nothing is changed by looking at a cursor, by splitting it, or by a buffer that it
  does not take. -/
  kept : ∀ use : Use,
    use.onlyShows = true ∨ (use.perform (performAll uses [])).1 = .panic →
      (use.perform (performAll uses [])).2 = performAll uses []
  /-- A buffer that a cursor has handed out is taken back, whenever that is and whatever
  was written in it. -/
  takesBack : ∀ name before token given,
    ((Use.split name before).perform (performAll uses [])).1 = .sides token given →
    ∀ later out, out.length = given.length →
      ((Use.advance name out).perform (performAll later (performAll uses []))).1 = .nothing
  /-- What becomes of a cursor does not depend on the uses of others, be they its
  clones. -/
  apart : ∀ name < (performAll uses []).length, ∀ later,
    (performAll later (performAll uses []))[name]? =
      (performAll (later.filter (Use.isOf name)) (performAll uses []))[name]?

/-! ## One cursor and its life -/

section Life

variable
  {life : Life}
  {token out : Bytes}

/-- Which token a life leaves depends on what happened last. -/
theorem Life.leaves_add_iff (event : Event) :
    (life.add event).Leaves token ↔
      (∃ out, event = .advance out ∧ life.width ≤ out.length ∧
        token = out.take life.width) ∨
      event.Fails life.width ∧ life.Leaves token := by
  constructor
  · rintro ⟨before, out, after, split, long, start, failed⟩
    obtain rfl | ⟨rest, last, rfl⟩ := List.eq_nil_or_concat after
    · obtain ⟨-, same⟩ := List.append_inj' split rfl
      exact Or.inl ⟨out, (List.cons.inj same).1, long, start⟩
    · rw [List.concat_eq_append, ← List.cons_append, ← List.append_assoc] at split
      obtain ⟨sameEvents, sameLast⟩ := List.append_inj' split rfl
      obtain ⟨restFailed, lastFailed⟩ := List.forall_mem_append.1
        (List.concat_eq_append ▸ failed)
      obtain rfl := (List.cons.inj sameLast).1
      exact Or.inr ⟨lastFailed event List.mem_cons_self,
        before, out, rest, sameEvents, long, start, restFailed⟩
  · rintro (⟨out, rfl, long, start⟩ | ⟨ends, before, out, after, split, long, start, failed⟩)
    · exact ⟨life.events, out, [], rfl, long, start, List.forall_mem_nil _⟩
    · refine ⟨before, out, after ++ [event], ?_, long, start, ?_⟩
      · rw [Life.add, split, List.append_assoc, List.cons_append]
      · exact List.forall_mem_append.2
          ⟨failed, List.forall_mem_singleton.2 ends⟩

theorem Life.length_of_leaves (left : life.Leaves token) : token.length = life.width := by
  obtain ⟨before, out, after, -, long, rfl, -⟩ := left
  rw [List.length_take, Nat.min_eq_left long]

end Life

theorem advance?_of_short
    {cursor : Cursor}
    {out : Bytes}
    (short : out.length < cursor.width) :
    cursor.advance? out = none :=
  if_pos short

theorem advance?_of_long
    {cursor : Cursor}
    {out : Bytes}
    (long : cursor.width ≤ out.length) :
    cursor.advance? out = some { cursor with token := some (out.take cursor.width) } :=
  if_neg (Nat.not_lt.2 long)

/-- A buffer that is split off is a fresh one, whatever it held. -/
theorem split_eq (cursor : Cursor) (buffer : Bytes) :
    cursor.split buffer = (cursor.token, cursor.scratch) := by
  rw [split, List.take_zero, Bytes.fit, List.take_nil, List.nil_append, List.length_nil,
    Nat.sub_zero, scratch]

@[simp] theorem width_change (cursor : Cursor) (use : Use) :
    (use.change cursor).width = cursor.width := by
  cases use with
  | advance name out =>
      rw [Use.change]
      by_cases long : cursor.width ≤ out.length
      · rw [advance?_of_long long]
        rfl
      · rw [advance?_of_short (Nat.lt_of_not_le long)]
        rfl
  | make | clone | look | split | reset => rfl

namespace Follows

variable
  {cursor : Cursor}
  {life : Life}

theorem made (keySize : UInt32) : Follows (.new keySize) { keySize } where
  width := rfl
  token_iff := by
    intro token
    refine iff_of_false nofun ?_
    rintro ⟨before, out, after, split, -⟩
    exact absurd split.symm (List.append_ne_nil_of_right_ne_nil _ (List.cons_ne_nil _ _))

theorem reset (follows : Follows cursor life) :
    Follows cursor.reset (life.add .reset) where
  width := follows.width
  token_iff := by
    intro token
    rw [Life.leaves_add_iff]
    refine iff_of_false nofun ?_
    rintro (⟨_, ⟨⟩, _⟩ | ⟨⟨⟩, _⟩)

/-- A buffer that is too short leaves the cursor behind its life as it is. -/
theorem advance (follows : Follows cursor life) (name : Nat) (out : Bytes) :
    Follows ((Use.advance name out).change cursor) (life.add (.advance out)) where
  width := by
    rw [width_change]
    exact follows.width
  token_iff := by
    intro token
    rw [Life.leaves_add_iff, Use.change, ← follows.width, ← follows.token_iff]
    by_cases long : cursor.width ≤ out.length
    · rw [advance?_of_long long, Option.getD_some, Option.some.injEq]
      constructor
      · rintro rfl
        exact Or.inl ⟨out, rfl, long, rfl⟩
      · rintro (⟨_, ⟨⟩, -, rfl⟩ | ⟨short, -⟩)
        · rfl
        · exact absurd short (Nat.not_lt.2 long)
    · have short := Nat.lt_of_not_le long
      rw [advance?_of_short short, Option.getD_none]
      constructor
      · exact fun left => Or.inr ⟨short, left⟩
      · rintro (⟨_, ⟨⟩, contrary, -⟩ | ⟨-, left⟩)
        · exact absurd contrary long
        · exact left

end Follows

/-! ## One use -/

section Lists

variable
  {R : α → β → Prop}
  {left : List α}
  {right : List β}

theorem forall₂_modify
    {f : α → α}
    {g : β → β}
    (related : List.Forall₂ R left right)
    (kept : ∀ {x y}, R x y → R (f x) (g y))
    (name : Nat) :
    List.Forall₂ R (left.modify name f) (right.modify name g) := by
  induction related generalizing name with
  | nil =>
      rw [List.modify_nil, List.modify_nil]
      exact .nil
  | cons first rest inductionHypothesis =>
      cases name with
      | zero => exact .cons (kept first) rest
      | succ name => exact .cons first (inductionHypothesis name)

theorem forall₂_getElem?
    (related : List.Forall₂ R left right)
    (name : Nat) :
    List.Forall₂ R left[name]?.toList right[name]?.toList := by
  induction related generalizing name with
  | nil => exact .nil
  | cons first rest inductionHypothesis =>
      cases name with
      | zero => exact .cons first .nil
      | succ name => exact inductionHypothesis name

end Lists

section Uses

variable (cursors : List Cursor)

theorem useOf_of_some
    {name : Nat}
    {cursor : Cursor}
    (found : cursors[name]? = some cursor)
    (use : Cursor → Sight × List Cursor) :
    useOf cursors name use = use cursor := by
  rw [useOf, found]

/-- A use changes the cursor that is used, and new cursors come after the others. -/
theorem perform_eq (use : Use) :
    (use.perform cursors).2 = use.changed cursors ++ use.made cursors := by
  cases use with
  | make keySize => rfl
  | clone name | look name | split name _ | reset name =>
      rw [Use.perform, useOf, Use.changed, Use.subject?]
      dsimp only
      rw [List.modify_eq_set_getElem?]
      cases found : cursors[name]? with
      | none => simp [Use.made, found]
      | some cursor =>
          obtain ⟨bound, rfl⟩ := List.getElem?_eq_some_iff.1 found
          simp [Use.made, Use.change, List.getElem?_eq_getElem bound]
  | advance name out =>
      rw [Use.perform, useOf, Use.changed, Use.subject?, Use.made]
      dsimp only
      rw [List.modify_eq_set_getElem?, List.append_nil]
      cases found : cursors[name]? with
      | none => rfl
      | some cursor =>
          obtain ⟨bound, rfl⟩ := List.getElem?_eq_some_iff.1 found
          cases taken : cursors[name].advance? out <;> simp [Use.change, taken]

/-- Cursors are as they were after a use that makes nothing else of them. -/
theorem changed_eq_self
    {use : Use}
    (same : ∀ cursor, use.change cursor = cursor) :
    use.changed cursors = cursors := by
  rw [Use.changed]
  cases use.subject? with
  | none => rfl
  | some name =>
      have sameAll : use.change = id := funext same
      dsimp only
      rw [sameAll, List.modify_id]

@[simp] theorem length_changed (use : Use) :
    (use.changed cursors).length = cursors.length := by
  rw [Use.changed]
  cases use.subject? with
  | none => rfl
  | some name => exact List.length_modify ..

theorem length_le_perform (use : Use) :
    cursors.length ≤ (use.perform cursors).2.length := by
  rw [perform_eq, List.length_append, length_changed]
  exact Nat.le_add_right _ _

/-- A use changes a cursor that is there only if it is of this cursor. -/
theorem getElem?_perform
    {name : Nat}
    (bound : name < cursors.length)
    (use : Use) :
    (use.perform cursors).2[name]? =
      cursors[name]?.map fun cursor =>
        if use.isOf name then use.change cursor else cursor := by
  rw [perform_eq, List.getElem?_append_left (by rwa [length_changed]), Use.changed, Use.isOf]
  cases use.subject? with
  | none => simp
  | some other =>
      rw [List.getElem?_modify]
      simp

end Uses

/-- Cursors follow their lives from one use to the next. -/
theorem follows_perform
    {cursors : List Cursor}
    {lives : List Life}
    (follow : List.Forall₂ Follows cursors lives)
    (use : Use) :
    List.Forall₂ Follows (use.perform cursors).2 (use.live lives) := by
  rw [perform_eq]
  cases use with
  | make keySize => exact List.rel_append follow (.cons (.made keySize) .nil)
  | clone name =>
      rw [changed_eq_self cursors fun _ => rfl]
      exact List.rel_append follow (forall₂_getElem? follow name)
  | look name | split name buffer =>
      rw [changed_eq_self cursors fun _ => rfl, Use.made, List.append_nil]
      exact follow
  | advance name out =>
      rw [Use.made, List.append_nil]
      exact forall₂_modify follow (fun follows => follows.advance name out) name
  | reset name =>
      rw [Use.made, List.append_nil]
      exact forall₂_modify follow Follows.reset name

/-- A use shows of a cursor what its life tells. -/
theorem shows_perform
    {cursors : List Cursor}
    {lives : List Life}
    (follow : List.Forall₂ Follows cursors lives)
    {name : Nat}
    {life : Life}
    (lived : lives[name]? = some life)
    {use : Use}
    (subject : use.subject? = some name) :
    life.Shows use (use.perform cursors).1 := by
  have related := forall₂_getElem? follow name
  rw [lived] at related
  cases found : cursors[name]? with
  | none =>
      rw [found] at related
      cases related
  | some cursor =>
      rw [found] at related
      obtain ⟨⟩ | ⟨follows, -⟩ := related
      cases use with
      | make keySize => cases subject
      | clone other =>
          obtain rfl := Option.some.inj subject
          rw [Use.perform, useOf_of_some cursors found]
          exact .cloned
      | look other =>
          obtain rfl := Option.some.inj subject
          rw [Use.perform, useOf_of_some cursors found]
          exact .looked follows.token_iff
      | split other buffer =>
          obtain rfl := Option.some.inj subject
          rw [Use.perform, useOf_of_some cursors found, split_eq, scratch, follows.width]
          exact .split follows.token_iff
      | advance other out =>
          obtain rfl := Option.some.inj subject
          rw [Use.perform, useOf_of_some cursors found]
          by_cases long : cursor.width ≤ out.length
          · rw [advance?_of_long long]
            exact .advanced (follows.width ▸ long)
          · rw [advance?_of_short (Nat.lt_of_not_le long)]
            exact .refused (follows.width ▸ Nat.lt_of_not_le long)
      | reset other =>
          obtain rfl := Option.some.inj subject
          rw [Use.perform, useOf_of_some cursors found]
          exact .forgotten

/-- A use that only shows something leaves everything as it is, and so does one that
panics. -/
theorem perform_eq_self
    {cursors : List Cursor}
    {use : Use}
    (idle : use.onlyShows = true ∨ (use.perform cursors).1 = .panic) :
    (use.perform cursors).2 = cursors := by
  obtain shows | panics := idle
  · rw [perform_eq]
    cases use with
    | look | split => rw [changed_eq_self cursors fun _ => rfl, Use.made, List.append_nil]
    | make | clone | advance | reset => cases shows
  · cases use with
    | make => cases panics
    | clone name | look name | split name _ | reset name =>
        rw [Use.perform, useOf] at panics
        cases found : cursors[name]? <;> rw [found] at panics <;> cases panics
    | advance name out =>
        rw [Use.perform, useOf] at panics ⊢
        cases found : cursors[name]? with
        | none => rfl
        | some cursor =>
            rw [found] at panics
            cases taken : cursor.advance? out with
            | none => simp [taken]
            | some next => simp [taken] at panics

/-! ## Many uses -/

theorem follows_performAll
    {cursors : List Cursor}
    {lives : List Life}
    (follow : List.Forall₂ Follows cursors lives)
    (uses : List Use) :
    List.Forall₂ Follows (performAll uses cursors) (livesAfter uses lives) := by
  induction uses generalizing cursors lives with
  | nil => exact follow
  | cons use rest inductionHypothesis =>
      exact inductionHypothesis (follows_perform follow use)

/-- What becomes of a cursor is what its own uses make of it. -/
theorem getElem?_performAll
    {name : Nat}
    {cursors : List Cursor}
    (bound : name < cursors.length)
    (uses : List Use) :
    (performAll uses cursors)[name]? =
      cursors[name]?.map fun cursor =>
        (uses.filter (Use.isOf name)).foldl Use.change cursor := by
  induction uses generalizing cursors with
  | nil => simp [performAll]
  | cons use rest inductionHypothesis =>
      have later := inductionHypothesis (Nat.lt_of_lt_of_le bound (length_le_perform cursors use))
      rw [getElem?_perform cursors bound, Option.map_map] at later
      rw [performAll, List.foldl_cons]
      refine later.trans ?_
      congr 1
      funext cursor
      by_cases own : use.isOf name = true
      · rw [List.filter_cons_of_pos own, Function.comp_apply, if_pos own, List.foldl_cons]
      · rw [List.filter_cons_of_neg own, Function.comp_apply, if_neg own]

theorem width_foldl_change (uses : List Use) (cursor : Cursor) :
    (uses.foldl Use.change cursor).width = cursor.width := by
  induction uses generalizing cursor with
  | nil => rfl
  | cons use rest inductionHypothesis =>
      rw [List.foldl_cons, inductionHypothesis, width_change]

/-- Cursors that are used in any order, and cloned, keep to their own lives. A token has
as many bytes as a key and at least four, it is there if and only if a buffer was taken
over after the cursor was made and after the token was forgotten last, and it is then
the start of the last one that was. A buffer that is split off holds zeros only and is
taken back at any later time, one that is too short is refused and changes nothing, and
nothing that is done to one cursor matters to another. -/
theorem cursors_orderly (uses : List Use) : Orderly uses := by
  have follow := follows_performAll .nil uses
  refine ⟨follow, ?length_token, ?shows, fun use => perform_eq_self, ?takesBack, ?apart⟩
  case shows => exact fun name life lived use subject => shows_perform follow lived subject
  case length_token =>
    intro cursor member token held
    obtain ⟨name, bound, rfl⟩ := List.getElem_of_mem member
    have follows := follow.get bound (follow.length_eq ▸ bound)
    rw [List.get_eq_getElem, List.get_eq_getElem] at follows
    rw [follows.width]
    exact Life.length_of_leaves ((follows.token_iff token).1 held)
  case takesBack =>
    generalize performAll uses [] = cursors
    intro name before token given handedOut later out sameLength
    rw [Use.perform] at handedOut
    cases found : cursors[name]? with
    | none =>
        rw [useOf, found] at handedOut
        cases handedOut
    | some cursor =>
        rw [useOf_of_some cursors found, split_eq] at handedOut
        obtain ⟨-, rfl⟩ := Sight.sides.inj handedOut
        obtain ⟨bound, -⟩ := List.getElem?_eq_some_iff.1 found
        have foundLater := getElem?_performAll bound later
        rw [found, Option.map_some] at foundLater
        have fits : ((later.filter (Use.isOf name)).foldl Use.change cursor).width =
            out.length := by
          rw [width_foldl_change, sameLength, scratch, Bytes.zeros_length]
        rw [Use.perform, useOf_of_some _ foundLater, advance?_of_long (Nat.le_of_eq fits)]
  case apart =>
    intro name bound later
    rw [getElem?_performAll bound, getElem?_performAll bound, List.filter_filter]
    simp only [Bool.and_self]

end Cursor
end KernelMaps
