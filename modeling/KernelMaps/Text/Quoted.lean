import KernelMaps.Text.ExtendingMark
import KernelMaps.Text.Unprintable

/-!
# Quoted text

A text between double quotes, in which every character can be seen: a quote and a backslash get a
backslash, the common controls their letter, and all else that shows nothing or joins the
character before it is written by its code point.
-/

namespace KernelMaps
namespace Text

/-- A code point in lower-case hexadecimal between braces. -/
def escapeCodePoint (c : Char) : List Char :=
  ['\\', 'u', '\x7b'] ++ Nat.toDigits 16 c.toNat ++ ['\x7d']

/-- The written form of one character inside quotes. -/
def quoteChar (c : Char) : List Char :=
  if c = '\x00' then ['\\', '0']
  else if c = '\t' then ['\\', 't']
  else if c = '\r' then ['\\', 'r']
  else if c = '\n' then ['\\', 'n']
  else if c = '\\' || c = '"' then ['\\', c]
  else if isExtendingMark c || isUnprintable c then escapeCodePoint c
  else [c]

/-- A text in quotes. -/
def quote (text : String) : String :=
  String.ofList (['"'] ++ text.toList.flatMap quoteChar ++ ['"'])

end Text
end KernelMaps
