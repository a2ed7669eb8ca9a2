import KernelMaps.Bytes

/-!
# UTF-8

The bytes of a text, and the text of any bytes. A reader of bytes meets three things: a whole
character, the start of a character that the next byte does not continue, and a byte that starts
nothing. The last two are each shown as one replacement character U+FFFD.
-/

namespace KernelMaps
namespace Utf8

/-- The UTF-8 bytes of a text. -/
def encode (text : String) : Bytes :=
  text.toList.flatMap String.utf8EncodeChar

/-- The number of bytes of a text. -/
def width (text : List Char) : Nat :=
  text.foldr (fun c total => c.utf8Size + total) 0

/-- Split a text behind a number of bytes, unless this is inside a character or past the end. -/
def splitAt? : Nat → List Char → Option (List Char × List Char)
  | 0, text => some ([], text)
  | _ + 1, [] => none
  | count + 1, c :: rest =>
      if c.utf8Size ≤ count + 1 then
        (splitAt? (count + 1 - c.utf8Size) rest).map fun parts => (c :: parts.1, parts.2)
      else none

/-- The character that stands for bytes which are no character. -/
def replacement : Char :=
  Char.ofNat 0xfffd

/-- A character of which some bytes have been read. -/
structure Partial where
  /-- The bits read so far. -/
  bits : Nat
  /-- How many bytes are still to come after the next one. -/
  more : Nat
  /-- The least value of the next byte. -/
  low : UInt8
  /-- The greatest value of the next byte. -/
  high : UInt8
  deriving DecidableEq, Repr

/-- The character that a first byte starts, if it starts a longer one. -/
def Partial.ofLead (byte : UInt8) : Option Partial :=
  let bits := byte.toNat
  if 0xc2 ≤ byte && byte ≤ 0xdf then some ⟨bits - 0xc0, 0, 0x80, 0xbf⟩
  else if byte == 0xe0 then some ⟨bits - 0xe0, 1, 0xa0, 0xbf⟩
  else if byte == 0xed then some ⟨bits - 0xe0, 1, 0x80, 0x9f⟩
  else if 0xe1 ≤ byte && byte ≤ 0xef then some ⟨bits - 0xe0, 1, 0x80, 0xbf⟩
  else if byte == 0xf0 then some ⟨bits - 0xf0, 2, 0x90, 0xbf⟩
  else if 0xf1 ≤ byte && byte ≤ 0xf3 then some ⟨bits - 0xf0, 2, 0x80, 0xbf⟩
  else if byte == 0xf4 then some ⟨bits - 0xf0, 2, 0x80, 0x8f⟩
  else none

/-- What a byte between characters gives: characters at once, and a character begun. -/
def start (byte : UInt8) : List Char × Option Partial :=
  if byte < 0x80 then ([Char.ofNat byte.toNat], none)
  else
    match Partial.ofLead byte with
    | some partly => ([], some partly)
    | none => ([replacement], none)

/-- What a byte within a character gives. -/
def Partial.next (partly : Partial) (byte : UInt8) : List Char × Option Partial :=
  if partly.low ≤ byte && byte ≤ partly.high then
    let bits := partly.bits * 64 + (byte.toNat - 0x80)
    match partly.more with
    | 0 => ([Char.ofNat bits], none)
    | more + 1 => ([], some ⟨bits, more, 0x80, 0xbf⟩)
  else
    let fresh := start byte
    (replacement :: fresh.1, fresh.2)

/-- Read on from where the last byte left off. -/
def decodeFrom : Option Partial → Bytes → List Char
  | none, [] => []
  | some _, [] => [replacement]
  | none, byte :: rest => (start byte).1 ++ decodeFrom (start byte).2 rest
  | some partly, byte :: rest => (partly.next byte).1 ++ decodeFrom (partly.next byte).2 rest

/-- The text of any bytes. -/
def decode (bytes : Bytes) : String :=
  String.ofList (decodeFrom none bytes)

end Utf8
end KernelMaps
