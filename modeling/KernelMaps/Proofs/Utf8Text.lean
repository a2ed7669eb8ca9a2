import KernelMaps.Text.Utf8
import Mathlib.Data.List.Basic

/-!
# UTF-8 text read back

The bytes of a character are read as this character, wherever they stand. Some
of its bytes, but not all of them, are read as one replacement character.
-/

namespace KernelMaps
namespace Utf8

/-! ## Reading a character -/

/-- What a byte gives, between characters or within one. -/
def feed : Option Partial → UInt8 → List Char × Option Partial
  | none, byte => start byte
  | some partly, byte => partly.next byte

theorem decodeFrom_cons (state : Option Partial) (byte : UInt8) (rest : Bytes) :
    decodeFrom state (byte :: rest) =
      (feed state byte).1 ++ decodeFrom (feed state byte).2 rest := by
  cases state <;> rfl

/-- Bytes that are read as one character, of which some bytes may have been read
before. -/
inductive Reads (c : Char) : Option Partial → Bytes → Prop
  /-- The last byte completes the character. -/
  | last
      {state : Option Partial}
      {byte : UInt8}
      (fed : feed state byte = ([c], none)) :
      Reads c state [byte]
  /-- A byte before the last one leaves the character begun. -/
  | more
      {state : Option Partial}
      {byte : UInt8}
      {partly : Partial}
      {rest : Bytes}
      (fed : feed state byte = ([], some partly))
      (reads : Reads c (some partly) rest) :
      Reads c state (byte :: rest)

namespace Reads

variable
  {c : Char}
  {state : Option Partial}
  {bytes : Bytes}

/-- After its last byte a character is there, and the reader stands between
characters. -/
theorem decodeFrom_append
    (reads : Reads c state bytes)
    (rest : Bytes) :
    decodeFrom state (bytes ++ rest) = c :: decodeFrom none rest := by
  induction reads with
  | last fed =>
      rw [List.singleton_append, decodeFrom_cons, fed]
      rfl
  | more fed _ inductionHypothesis =>
      rw [List.cons_append, decodeFrom_cons, fed, List.nil_append, inductionHypothesis]

/-- A character that was begun and not completed is shown as one replacement. -/
theorem decodeFrom_take
    (reads : Reads c state bytes)
    {count : Nat}
    (begun : state.isSome ∨ 0 < count)
    (short : count < bytes.length) :
    decodeFrom state (bytes.take count) = [replacement] := by
  induction reads generalizing count with
  | last fed =>
      obtain rfl : count = 0 := Nat.lt_one_iff.1 short
      obtain ⟨partly, rfl⟩ := Option.isSome_iff_exists.1
        (begun.resolve_right (Nat.lt_irrefl 0))
      rfl
  | more fed _ inductionHypothesis =>
      cases count with
      | zero =>
          obtain ⟨partly, rfl⟩ := Option.isSome_iff_exists.1
            (begun.resolve_right (Nat.lt_irrefl 0))
          rfl
      | succ count =>
          rw [List.take_succ_cons, decodeFrom_cons, fed, List.nil_append]
          exact inductionHypothesis (Or.inl rfl) (Nat.lt_of_succ_lt_succ short)

end Reads

/-! ## The bytes of a character -/

/-- The byte that carries six bits of a character. -/
def tail (number : Nat) : UInt8 :=
  UInt8.ofNat (number % 64 + 128)

theorem toNat_tail (number : Nat) : (tail number).toNat = number % 64 + 128 := by
  rw [tail, UInt8.toNat_ofNat']
  omega

/-- A byte within the bounds adds six bits. -/
theorem Partial.next_tail
    {partly : Partial}
    {number : Nat}
    (low : partly.low.toNat ≤ number % 64 + 128)
    (high : number % 64 + 128 ≤ partly.high.toNat) :
    partly.next (tail number) =
      match partly.more with
      | 0 => ([Char.ofNat (partly.bits * 64 + number % 64)], none)
      | more + 1 => ([], some ⟨partly.bits * 64 + number % 64, more, 0x80, 0xbf⟩) := by
  have within : (partly.low ≤ tail number && tail number ≤ partly.high) = true := by
    rw [Bool.and_eq_true, decide_eq_true_eq, decide_eq_true_eq, UInt8.le_iff_toNat_le,
      UInt8.le_iff_toNat_le, toNat_tail]
    exact ⟨low, high⟩
  have bits : (tail number).toNat - 0x80 = number % 64 := by
    rw [toNat_tail]
    exact Nat.add_sub_cancel _ _
  have taken : partly.next (tail number) = _ := if_pos within
  rw [bits] at taken
  exact taken

/-- The last byte of a character. -/
theorem reads_last
    {c : Char}
    {bits number : Nat}
    {low high : UInt8}
    (lowest : low.toNat ≤ number % 64 + 128)
    (highest : number % 64 + 128 ≤ high.toNat)
    (whole : bits * 64 + number % 64 = c.toNat) :
    Reads c (some ⟨bits, 0, low, high⟩) [tail number] := by
  refine .last ?_
  rw [feed, Partial.next_tail lowest highest, whole, Char.ofNat_toNat]

/-- A byte of a character with others to follow. -/
theorem reads_more
    {c : Char}
    {bits more number : Nat}
    {low high : UInt8}
    {rest : Bytes}
    (lowest : low.toNat ≤ number % 64 + 128)
    (highest : number % 64 + 128 ≤ high.toNat)
    (reads : Reads c (some ⟨bits * 64 + number % 64, more, 0x80, 0xbf⟩) rest) :
    Reads c (some ⟨bits, more + 1, low, high⟩) (tail number :: rest) := by
  refine .more ?_ reads
  rw [feed, Partial.next_tail lowest highest]

/-- Any six bits lie within the usual bounds. -/
theorem usual_bounds (number : Nat) :
    (0x80 : UInt8).toNat ≤ number % 64 + 128 ∧
      number % 64 + 128 ≤ (0xbf : UInt8).toNat := by
  have least : (0x80 : UInt8).toNat = 128 := rfl
  have greatest : (0xbf : UInt8).toNat = 191 := rfl
  omega

theorem feed_lead
    {lead : UInt8}
    {partly : Partial}
    (high : 128 ≤ lead.toNat)
    (leads : Partial.ofLead lead = some partly) :
    feed none lead = ([], some partly) := by
  have notSmall : ¬lead < 0x80 := by
    rw [UInt8.lt_iff_toNat_lt]
    exact Nat.not_lt.2 high
  rw [feed, start, if_neg notSmall, leads]

/-- The first of two bytes. -/
theorem ofLead_two
    {number : Nat}
    (least : 2 ≤ number)
    (greatest : number < 32) :
    Partial.ofLead (UInt8.ofNat (number + 192)) = some ⟨number, 0, 0x80, 0xbf⟩ := by
  have each : ∀ number : Fin 32, 2 ≤ number.val →
      Partial.ofLead (UInt8.ofNat (number.val + 192)) =
        some ⟨number.val, 0, 0x80, 0xbf⟩ := by
    decide
  exact each ⟨number, greatest⟩ least

/-- The first of three bytes, and the bounds that it sets to the second. -/
theorem ofLead_three
    {number : Nat}
    (greatest : number < 16) :
    Partial.ofLead (UInt8.ofNat (number + 224)) =
      some ⟨number, 1, if number = 0 then 0xa0 else 0x80,
        if number = 13 then 0x9f else 0xbf⟩ := by
  have each : ∀ number : Fin 16,
      Partial.ofLead (UInt8.ofNat (number.val + 224)) =
        some ⟨number.val, 1, if number.val = 0 then 0xa0 else 0x80,
          if number.val = 13 then 0x9f else 0xbf⟩ := by
    decide
  exact each ⟨number, greatest⟩

/-- The first of four bytes, and the bounds that it sets to the second. -/
theorem ofLead_four
    {number : Nat}
    (greatest : number < 5) :
    Partial.ofLead (UInt8.ofNat (number + 240)) =
      some ⟨number, 2, if number = 0 then 0x90 else 0x80,
        if number = 4 then 0x8f else 0xbf⟩ := by
  have each : ∀ number : Fin 5,
      Partial.ofLead (UInt8.ofNat (number.val + 240)) =
        some ⟨number.val, 2, if number.val = 0 then 0x90 else 0x80,
          if number.val = 4 then 0x8f else 0xbf⟩ := by
    decide
  exact each ⟨number, greatest⟩

/-- Characters are no surrogates and lie below the greatest one. -/
theorem toNat_ranges (c : Char) :
    c.toNat < 55296 ∨ 57343 < c.toNat ∧ c.toNat < 1114112 :=
  c.valid

section Lengths

variable {c : Char}

theorem reads_one (greatest : c.toNat ≤ 127) :
    Reads c none [UInt8.ofNat c.toNat] := by
  have value : (UInt8.ofNat c.toNat).toNat = c.toNat := by
    rw [UInt8.toNat_ofNat']
    omega
  have small : UInt8.ofNat c.toNat < 0x80 := by
    rw [UInt8.lt_iff_toNat_lt, value]
    exact Nat.lt_succ_of_le greatest
  refine .last ?_
  rw [feed, start, if_pos small, value, Char.ofNat_toNat]

theorem reads_two
    (least : ¬c.toNat ≤ 127)
    (greatest : c.toNat ≤ 2047) :
    Reads c none [UInt8.ofNat (c.toNat / 64 % 32 + 192), tail c.toNat] := by
  obtain ⟨low, high⟩ := usual_bounds c.toNat
  have lead : (UInt8.ofNat (c.toNat / 64 % 32 + 192)).toNat =
      c.toNat / 64 % 32 + 192 := by
    rw [UInt8.toNat_ofNat']
    omega
  refine .more (feed_lead (by omega) (ofLead_two (by omega) (by omega))) ?_
  exact reads_last low high (by omega)

/-- Without a sixth bit in its second byte a character would be shorter, and with
it some would be surrogates. -/
theorem reads_three
    (least : ¬c.toNat ≤ 2047)
    (greatest : c.toNat ≤ 65535) :
    Reads c none [UInt8.ofNat (c.toNat / 4096 % 16 + 224), tail (c.toNat / 64),
      tail c.toNat] := by
  have ranges := toNat_ranges c
  obtain ⟨low, high⟩ := usual_bounds c.toNat
  obtain ⟨secondLow, secondHigh⟩ := usual_bounds (c.toNat / 64)
  have lead : (UInt8.ofNat (c.toNat / 4096 % 16 + 224)).toNat =
      c.toNat / 4096 % 16 + 224 := by
    rw [UInt8.toNat_ofNat']
    omega
  refine .more (feed_lead (by omega) (ofLead_three (by omega)))
    (reads_more ?_ ?_ (reads_last low high (by omega)))
  · split
    · change 160 ≤ _
      omega
    · exact secondLow
  · split
    · change _ ≤ 159
      omega
    · exact secondHigh

/-- Without a bit above the sixteenth a character would be shorter, and some bits
would make it too great. -/
theorem reads_four (least : ¬c.toNat ≤ 65535) :
    Reads c none [UInt8.ofNat (c.toNat / 262144 % 8 + 240), tail (c.toNat / 4096),
      tail (c.toNat / 64), tail c.toNat] := by
  have ranges := toNat_ranges c
  obtain ⟨low, high⟩ := usual_bounds c.toNat
  obtain ⟨thirdLow, thirdHigh⟩ := usual_bounds (c.toNat / 64)
  obtain ⟨secondLow, secondHigh⟩ := usual_bounds (c.toNat / 4096)
  have lead : (UInt8.ofNat (c.toNat / 262144 % 8 + 240)).toNat =
      c.toNat / 262144 % 8 + 240 := by
    rw [UInt8.toNat_ofNat']
    omega
  refine .more (feed_lead (by omega) (ofLead_four (by omega)))
    (reads_more ?_ ?_ (reads_more thirdLow thirdHigh (reads_last low high (by omega))))
  · split
    · change 144 ≤ _
      omega
    · exact secondLow
  · split
    · change _ ≤ 143
      omega
    · exact secondHigh

end Lengths

/-- The bytes of a character are read as this character. -/
theorem reads_utf8EncodeChar (c : Char) :
    Reads c none (String.utf8EncodeChar c) := by
  unfold String.utf8EncodeChar
  dsimp only
  split
  · rename_i one
    exact reads_one one
  · rename_i notOne
    split
    · rename_i two
      exact reads_two notOne two
    · rename_i notTwo
      split
      · rename_i three
        exact reads_three notTwo three
      · rename_i notThree
        exact reads_four notThree

/-! ## Texts -/

/-- The bytes of a list of characters. -/
def bytesOf (text : List Char) : Bytes :=
  text.flatMap String.utf8EncodeChar

@[simp] theorem bytesOf_nil : bytesOf [] = [] := rfl

@[simp] theorem bytesOf_cons (c : Char) (rest : List Char) :
    bytesOf (c :: rest) = String.utf8EncodeChar c ++ bytesOf rest := rfl

theorem bytesOf_append (left right : List Char) :
    bytesOf (left ++ right) = bytesOf left ++ bytesOf right :=
  List.flatMap_append

theorem decodeFrom_bytesOf_append (text : List Char) (rest : Bytes) :
    decodeFrom none (bytesOf text ++ rest) = text ++ decodeFrom none rest := by
  induction text with
  | nil => rfl
  | cons c text inductionHypothesis =>
      rw [bytesOf_cons, List.append_assoc,
        (reads_utf8EncodeChar c).decodeFrom_append, inductionHypothesis, List.cons_append]

/-! ## The first zero -/

theorem ofNat_ne_zero
    {number : Nat}
    (positive : number % 256 ≠ 0) :
    UInt8.ofNat number ≠ 0 := by
  intro zero
  rw [← UInt8.toNat_inj, UInt8.toNat_ofNat'] at zero
  exact positive zero

/-- No byte of a character is zero, unless it is the zero character. -/
theorem ne_zero_of_mem_utf8EncodeChar
    {c : Char}
    (other : c ≠ '\x00')
    {byte : UInt8}
    (member : byte ∈ String.utf8EncodeChar c) :
    byte ≠ 0 := by
  have positive : c.toNat ≠ 0 := by
    intro zero
    rw [← Char.ofNat_toNat c, zero] at other
    exact other rfl
  change c.val.toNat ≠ 0 at positive
  unfold String.utf8EncodeChar at member
  dsimp only at member
  split at member
  · rw [List.mem_singleton.1 member]
    exact ofNat_ne_zero (by omega)
  · split at member
    · simp only [List.mem_cons, List.not_mem_nil, or_false] at member
      rcases member with rfl | rfl <;> exact ofNat_ne_zero (by omega)
    · split at member <;>
        simp only [List.mem_cons, List.not_mem_nil, or_false] at member
      · rcases member with rfl | rfl | rfl <;> exact ofNat_ne_zero (by omega)
      · rcases member with rfl | rfl | rfl | rfl <;> exact ofNat_ne_zero (by omega)

/-- The bytes before the first zero are those of the characters before the first
zero character. -/
theorem takeWhile_bytesOf (text : List Char) :
    (bytesOf text).takeWhile (· != 0) = bytesOf (text.takeWhile (· != '\x00')) := by
  induction text with
  | nil => rfl
  | cons c rest inductionHypothesis =>
      by_cases zero : c = '\x00'
      · subst zero
        rfl
      · have kept : ∀ byte ∈ String.utf8EncodeChar c, (byte != 0) = true :=
          fun _ member => bne_iff_ne.2 (ne_zero_of_mem_utf8EncodeChar zero member)
        have first : (c :: rest).takeWhile (· != '\x00') =
            c :: rest.takeWhile (· != '\x00') :=
          List.takeWhile_cons_of_pos (bne_iff_ne.2 zero)
        rw [bytesOf_cons, List.takeWhile_append_of_pos kept, inductionHypothesis, first,
          bytesOf_cons]

/-! ## Cutting a text to a number of bytes -/

/-- How a text is cut to a number of bytes: the characters that lie within them as
a whole, and the rest. -/
structure CutAt (room : Nat) (text whole rest : List Char) : Prop where
  split : text = whole ++ rest
  fits : (bytesOf whole).length ≤ room
  /-- The next character does not fit any more. -/
  full : ∀ c ∈ rest.head?, room < (bytesOf whole).length + c.utf8Size

/-- What is shown of the character inside which a text was cut. -/
def cutMark (room : Nat) (whole rest : List Char) : List Char :=
  if (bytesOf whole).length < room ∧ rest ≠ [] then [replacement] else []

theorem exists_cutAt (room : Nat) (text : List Char) :
    ∃ whole rest, CutAt room text whole rest := by
  induction text generalizing room with
  | nil => exact ⟨[], [], rfl, Nat.zero_le room, nofun⟩
  | cons c text inductionHypothesis =>
      by_cases enough : c.utf8Size ≤ room
      · obtain ⟨whole, rest, cut⟩ := inductionHypothesis (room - c.utf8Size)
        have count : (bytesOf (c :: whole)).length =
            c.utf8Size + (bytesOf whole).length := by
          rw [bytesOf_cons, List.length_append, String.length_utf8EncodeChar]
        have fits := cut.fits
        refine ⟨c :: whole, rest, congrArg (c :: ·) cut.split, by omega, ?_⟩
        intro next first
        have full := cut.full next first
        omega
      · refine ⟨[], c :: text, rfl, Nat.zero_le room, ?_⟩
        rintro _ ⟨rfl⟩
        rw [bytesOf_nil, List.length_nil, Nat.zero_add]
        exact Nat.lt_of_not_le enough

/-- A text that is cut is read as its whole characters, and a mark if the cut falls
inside a character. -/
theorem CutAt.decodeFrom_take
    {room : Nat}
    {text whole rest : List Char}
    (cut : CutAt room text whole rest) :
    decodeFrom none ((bytesOf text).take room) = whole ++ cutMark room whole rest := by
  rw [cut.split, bytesOf_append, List.take_append, List.take_of_length_le cut.fits,
    decodeFrom_bytesOf_append]
  refine congrArg (whole ++ ·) ?_
  cases rest with
  | nil =>
      rw [bytesOf_nil, List.take_nil, cutMark, if_neg (fun both => both.2 rfl)]
      rfl
  | cons c rest =>
      have short : room - (bytesOf whole).length < (String.utf8EncodeChar c).length := by
        have full := cut.full c rfl
        have fits := cut.fits
        rw [String.length_utf8EncodeChar]
        omega
      rw [bytesOf_cons, List.take_append_of_le_length (Nat.le_of_lt short)]
      by_cases inside : (bytesOf whole).length < room
      · rw [cutMark, if_pos ⟨inside, List.cons_ne_nil c rest⟩]
        exact (reads_utf8EncodeChar c).decodeFrom_take
          (Or.inr (Nat.sub_pos_of_lt inside)) short
      · rw [cutMark, if_neg (fun both => inside both.1),
          Nat.sub_eq_zero_of_le (Nat.le_of_not_lt inside)]
        rfl

/-- A text that fits as a whole is not cut. -/
theorem CutAt.of_fits
    {room : Nat}
    {text whole rest : List Char}
    (cut : CutAt room text whole rest)
    (fits : (bytesOf text).length ≤ room) :
    whole = text ∧ rest = [] := by
  cases rest with
  | nil => exact ⟨(cut.split.trans (List.append_nil whole)).symm, rfl⟩
  | cons c rest =>
      have full := cut.full c rfl
      rw [cut.split, bytesOf_append, bytesOf_cons, List.length_append, List.length_append,
        String.length_utf8EncodeChar] at fits
      omega

end Utf8
end KernelMaps
