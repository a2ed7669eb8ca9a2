/-!
# Words of a command line

The shapes of the words on a command line: a long option with or without a value attached, a group
of short options, the mark after which there are no options, or anything else.
-/

namespace KernelMaps
namespace CommandLine

/-- The shape of a word. -/
inductive Word
  /-- The mark `--`. -/
  | escape
  /-- A word `--name` or `--name=value`. -/
  | long (name : String) (value : Option String)
  /-- A word `-xyz`. -/
  | short (letters : List Char)
  /-- Any other word. -/
  | plain (text : String)
  deriving DecidableEq, Repr

namespace Word

/-- Split a long option at its first equals sign. -/
def ofLong (text : List Char) : Word :=
  match text.span (· != '=') with
  | (name, '=' :: value) => long (String.ofList name) (some (String.ofList value))
  | (name, _) => long (String.ofList name) none

/-- The shape of the word with the given text. -/
def ofText (text : String) : Word :=
  match text.toList with
  | ['-', '-'] => escape
  | '-' :: '-' :: rest => ofLong rest
  | ['-'] => plain text
  | '-' :: letters => short letters
  | _ => plain text

end Word
end CommandLine
end KernelMaps
