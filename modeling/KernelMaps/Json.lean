/-!
# JSON

JSON values whose objects keep the order of their fields, and their form over several lines with
an indent of two blanks.
-/

namespace KernelMaps

/-- A JSON value, as far as it is needed. -/
inductive Json
  | number (value : Nat)
  | text (value : String)
  | array (items : List Json)
  | object (fields : List (String × Json))

namespace Json

/-- The written form of a character inside quotes. -/
def quoteChar (c : Char) : List Char :=
  if c = '"' || c = '\\' then ['\\', c]
  else if c = '\n' then ['\\', 'n']
  else if c = '\r' then ['\\', 'r']
  else if c = '\t' then ['\\', 't']
  else if c = '\x08' then ['\\', 'b']
  else if c = '\x0c' then ['\\', 'f']
  else if c.toNat < 0x20 then
    ['\\', 'u', '0', '0', Nat.digitChar (c.toNat / 16), Nat.digitChar (c.toNat % 16)]
  else [c]

/-- A text in quotes. -/
def quote (text : String) : String :=
  String.ofList (['"'] ++ text.toList.flatMap quoteChar ++ ['"'])

/-- The start of a line at some depth. -/
def newline (depth : Nat) : String :=
  String.ofList ('\n' :: List.replicate (2 * depth) ' ')

/-- Put parts on lines of their own between two brackets; without parts the brackets meet. -/
def block (depth : Nat) (opening closing : String) (parts : List String) : String :=
  if parts.isEmpty then opening ++ closing
  else
    opening ++ newline (depth + 1) ++
      String.intercalate ("," ++ newline (depth + 1)) parts ++ newline depth ++ closing

mutual

/-- The written form of a value at some depth. -/
def renderAt (depth : Nat) : Json → String
  | number value => toString value
  | text value => quote value
  | array items => block depth "[" "]" (renderItems (depth + 1) items)
  | object fields => block depth "\x7b" "\x7d" (renderFields (depth + 1) fields)

/-- The written forms of the items of an array. -/
def renderItems (depth : Nat) : List Json → List String
  | [] => []
  | item :: rest => renderAt depth item :: renderItems depth rest

/-- The written forms of the fields of an object. -/
def renderFields (depth : Nat) : List (String × Json) → List String
  | [] => []
  | (name, value) :: rest =>
      (quote name ++ ": " ++ renderAt depth value) :: renderFields depth rest

end

/-- The written form of a value. -/
def render (value : Json) : String :=
  renderAt 0 value

end Json
end KernelMaps
