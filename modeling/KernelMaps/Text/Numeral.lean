/-!
# Decimal numerals

Decimal numerals with an upper limit. The reader goes from left to right and stops at the first
fault: a character that is no digit, or the digit with which the number passes the limit.
-/

namespace KernelMaps
namespace Text

/-- Why a text is no numeral. -/
inductive NumeralError
  | empty
  | invalidDigit
  | tooLarge
  deriving DecidableEq, Repr

/-- The wording of a numeral's fault. -/
def NumeralError.message : NumeralError → String
  | empty => "cannot parse integer from empty string"
  | invalidDigit => "invalid digit found in string"
  | tooLarge => "number too large to fit in target type"

namespace Numeral

/-- The value of an ASCII decimal digit. -/
def digit? (c : Char) : Option Nat :=
  if c.isDigit then some (c.toNat - '0'.toNat) else none

/-- Continue a number digit by digit, never above the limit. -/
def readDigits (limit : Nat) : Nat → List Char → Except NumeralError Nat
  | number, [] => .ok number
  | number, c :: rest =>
      match digit? c with
      | none => .error .invalidDigit
      | some digit =>
          if 10 * number + digit ≤ limit then readDigits limit (10 * number + digit) rest
          else .error .tooLarge

/-- Read digits, of which there is at least one. -/
def readUnsigned (limit : Nat) : List Char → Except NumeralError Nat
  | [] => .error .invalidDigit
  | text => readDigits limit 0 text

/-- Read a natural number; one plus sign may come first. -/
def read (limit : Nat) : List Char → Except NumeralError Nat
  | [] => .error .empty
  | '+' :: rest => readUnsigned limit rest
  | text => readUnsigned limit text

/-- Read a natural number that may carry either sign, so that zero is the only negative one. -/
def readSigned (limit : Nat) : List Char → Except NumeralError Nat
  | '-' :: rest => readUnsigned 0 rest
  | text => read limit text

end Numeral
end Text
end KernelMaps
