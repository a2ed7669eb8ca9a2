import KernelMaps.CommandLine.Grammar

/-!
# Settings

What was read of a command line: the command and the values of its options. This is what the
program makes its command of.
-/

namespace KernelMaps
namespace CommandLine

/-- The values of options. -/
abbrev Settings := List (Flag × Value)

namespace Settings

/-- The text given for an option. -/
def text? (settings : Settings) (flag : Flag) : Option String :=
  match settings.lookup flag with
  | some (.text value) => some value
  | _ => none

/-- The number given for an option. -/
def number? (settings : Settings) (flag : Flag) : Option Nat :=
  match settings.lookup flag with
  | some (.number value) => some value
  | _ => none

/-- The 32-bit number given for an option. -/
def word? (settings : Settings) (flag : Flag) : Option UInt32 :=
  (settings.number? flag).map UInt32.ofNat

/-- The map that the options point at, if they point at one. -/
def target? (settings : Settings) : Option Target :=
  match settings.text? .pin, settings.word? .id with
  | some path, none => some (.pin path)
  | none, some id => some (.id id)
  | _, _ => none

/-- What the options say about a map to be created, if they say enough. -/
def creation? (settings : Settings) : Option Inspect.Creation := do
  let path ← settings.text? .pin
  let mapType ← settings.word? .mapType
  let keySize ← settings.word? .keySize
  let valueSize ← settings.word? .valueSize
  let maxEntries ← settings.word? .maxEntries
  let mapFlags ← settings.word? .mapFlags
  some
    { path, mapType, keySize, valueSize, maxEntries, mapFlags
      name := settings.text? .name }

/-- The command that the options make up, if none is missing. -/
def command? (settings : Settings) : Verb → Option Command
  | .info => settings.target?.map .info
  | .list => some .list
  | .dump => settings.target?.map .dump
  | .batchDump => do
      let target ← settings.target?
      let chunk ← settings.word? .chunk
      some (.batchDump target chunk)
  | .delete => do
      let target ← settings.target?
      let key ← settings.text? .key
      some (.delete target key)
  | .freeze => settings.target?.map .freeze
  | .create => settings.creation?.map .create
  | .watch => do
      let target ← settings.target?
      let interval ← settings.number? .interval
      some (.watch target (UInt64.ofNat interval))
  | .version => some .version

end Settings

/-- A reader of command lines. -/
structure Reader where
  /-- The value that a text stands for. -/
  judge : Kind → String → Except Refusal Value
  /-- What the words of a command line say, which may be nothing. -/
  read : List String → Except Refusal (Option (Verb × Settings))

/-- The command that a command line asks for, if it asks for one. -/
def Reader.command (reader : Reader) (words : List String) :
    Except Refusal (Option Command) := do
  match ← reader.read words with
  | none => .ok none
  | some (verb, settings) =>
      match settings.command? verb with
      | some command => .ok (some command)
      | none => .error .missingRequiredArgument

end CommandLine
end KernelMaps
