import KernelMaps.Text.Blank
import KernelMaps.Text.Numeral
import KernelMaps.Text.Quoted
import KernelMaps.Text.Utf8

/-!
# Hexadecimal byte strings

Bytes are written with two lower-case digits each. The reader also takes upper-case digits, blanks
anywhere between and around the digits, and one leading `0x` without blanks inside.
-/

namespace KernelMaps
namespace Hex

/-- The two digits of a byte, high half first. -/
def digitsOf (byte : UInt8) : List Char :=
  [Nat.digitChar (byte.toNat / 16), Nat.digitChar (byte.toNat % 16)]

/-- The written form of a byte string. -/
def encode (bytes : Bytes) : String :=
  String.ofList (bytes.flatMap digitsOf)

/-- The value of a hexadecimal digit. -/
def digit? (c : Char) : Option Nat :=
  if '0' ≤ c && c ≤ '9' then some (c.toNat - '0'.toNat)
  else if 'a' ≤ c && c ≤ 'f' then some (c.toNat - 'a'.toNat + 10)
  else if 'A' ≤ c && c ≤ 'F' then some (c.toNat - 'A'.toNat + 10)
  else none

/-- Whether a character is a hexadecimal digit. -/
def isDigit (c : Char) : Bool :=
  (digit? c).isSome

/-- Why a text is no byte string. -/
inductive Error
  | empty
  /-- Some character is neither a digit nor a blank. -/
  | invalid (text : String)
  /-- A digit has no partner. -/
  | odd (text : String)
  /-- Two bytes of the text are no numeral of a byte. -/
  | invalidByte (pair : String) (cause : Text.NumeralError)
  /-- Two bytes of the text are not made up of whole characters. -/
  | torn
  deriving DecidableEq, Repr

/-- The wording of a fault. -/
def Error.message : Error → String
  | empty => "empty hex string"
  | invalid text => "invalid hex string " ++ Text.quote text
  | odd text => "hex string " ++ Text.quote text ++ " has an odd number of digits"
  | invalidByte pair _ => "invalid hex byte " ++ Text.quote pair
  | torn => "hex byte inside of a character"

/-- The wording of a fault, followed by that of its cause. -/
def Error.chain : Error → List String
  | invalidByte pair cause => [(invalidByte pair cause).message, cause.message]
  | error => [error.message]

/-- Drop one leading `0x`. -/
def dropMark : List Char → List Char
  | '0' :: 'x' :: rest => rest
  | text => text

/-- The characters that have to be digits: all but blanks and a leading mark. -/
def significant (text : List Char) : List Char :=
  (dropMark (Text.trim text)).filter fun c => !Text.isBlank c

/-- Join the digits pairwise; a last digit without partner is dropped. -/
def joinPairs : List Nat → Bytes
  | high :: low :: rest => UInt8.ofNat (16 * high + low) :: joinPairs rest
  | _ => []

/-- Continue a number digit by digit, as long as a byte holds it. -/
def readDigits : Nat → List Char → Except Text.NumeralError Nat
  | number, [] => .ok number
  | number, c :: rest =>
      match digit? c with
      | none => .error .invalidDigit
      | some digit =>
          if 16 * number + digit < UInt8.size then readDigits (16 * number + digit) rest
          else .error .tooLarge

/-- Read the numeral of a byte; one plus sign may come first. -/
def readByte : List Char → Except Text.NumeralError UInt8
  | [] => .error .empty
  | ['+'] => .error .invalidDigit
  | '+' :: rest => (readDigits 0 rest).map UInt8.ofNat
  | text => (readDigits 0 text).map UInt8.ofNat

/-- Read as many bytes, each from the next two bytes of a text. -/
def readPairs : Nat → List Char → Except Error Bytes
  | 0, _ => .ok []
  | count + 1, text =>
      match Utf8.splitAt? 2 text with
      | none => .error .torn
      | some (pair, rest) =>
          match readByte pair with
          | .error cause => .error (.invalidByte (String.ofList pair) cause)
          | .ok byte => (readPairs count rest).map (byte :: ·)

/-- Read a byte string, which has at least one byte. -/
def parse (text : String) : Except Error Bytes :=
  let digits := significant text.toList
  if digits.isEmpty then .error .empty
  else if !digits.all isDigit then .error (.invalid text)
  else if Utf8.width digits % 2 ≠ 0 then .error (.odd text)
  else readPairs (Utf8.width digits / 2) digits

end Hex
end KernelMaps
