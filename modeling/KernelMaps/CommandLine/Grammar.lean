import KernelMaps.Inspect.Command

/-!
# The grammar of the command line

The commands, the options that each of them takes, and what is declared of an option: the kind of
its values, whether it has to be given, and what it is if it is not. How a command line is read
according to this is not said here.
-/

namespace KernelMaps
namespace CommandLine

/-- Why a command line is refused; asking for help is one of the reasons. -/
inductive Refusal
  | valueValidation
  | unknownArgument
  | invalidValue
  | tooManyValues
  | argumentConflict
  | missingRequiredArgument
  | invalidSubcommand
  | displayHelp
  deriving DecidableEq, Repr

namespace Refusal

/-- The name of a reason. -/
def label : Refusal → String
  | valueValidation => "ValueValidation"
  | unknownArgument => "UnknownArgument"
  | invalidValue => "InvalidValue"
  | tooManyValues => "TooManyValues"
  | argumentConflict => "ArgumentConflict"
  | missingRequiredArgument => "MissingRequiredArgument"
  | invalidSubcommand => "InvalidSubcommand"
  | displayHelp => "DisplayHelp"

/-- The number with which the program ends. -/
def exitCode : Refusal → Nat
  | displayHelp => 0
  | _ => 2

end Refusal

/-- What a command line asks for. -/
inductive Command
  | info (target : Target)
  | list
  | dump (target : Target)
  | batchDump (target : Target) (chunk : UInt32)
  | delete (target : Target) (key : String)
  | freeze (target : Target)
  | create (creation : Inspect.Creation)
  | watch (target : Target) (interval : UInt64)
  | version
  deriving DecidableEq, Repr

/-- The commands by name. -/
inductive Verb
  | info
  | list
  | dump
  | batchDump
  | delete
  | freeze
  | create
  | watch
  | version
  deriving DecidableEq, Repr

/-- The options by name. -/
inductive Flag
  | pin
  | id
  | chunk
  | key
  | mapType
  | keySize
  | valueSize
  | maxEntries
  | name
  | mapFlags
  | interval
  deriving DecidableEq, Repr

/-- What values an option takes. -/
inductive Kind
  | path
  | text
  | word
  | doubleWord
  deriving DecidableEq, Repr

/-- The value of an option. -/
inductive Value
  | text (value : String)
  | number (value : Nat)
  deriving DecidableEq, Repr

/-- Whether an option has to be given. -/
inductive Presence
  | required
  | optional
  /-- An option that is not given has this value. -/
  | default (value : Value)
  deriving DecidableEq, Repr

/-- An option that a command takes. -/
structure Argument where
  flag : Flag
  presence : Presence
  deriving DecidableEq, Repr

namespace Verb

/-- All commands, in the order in which they are listed. -/
def all : List Verb :=
  [info, list, dump, batchDump, delete, freeze, create, watch, version]

/-- The name of a command. -/
def label : Verb → String
  | info => "info"
  | list => "list"
  | dump => "dump"
  | batchDump => "batch-dump"
  | delete => "delete"
  | freeze => "freeze"
  | create => "create"
  | watch => "watch"
  | version => "version"

/-- What a command does. -/
def about : Verb → String
  | info => "Print a map's metadata as JSON"
  | list => "List every map visible to this process"
  | dump => "Print all entries, walking keys one by one"
  | batchDump => "Print all entries using batch lookups"
  | delete => "Delete one entry"
  | freeze => "Make a map read-only for userspace"
  | create => "Create a map and pin it to bpffs"
  | watch => "Print the entry count periodically until ctrl-c"
  | version => "Print library and kernel versions"

/-- The command of a name. -/
def ofLabel? (label : String) : Option Verb :=
  all.find? fun verb => verb.label == label

/-- The options by which a command finds its map. -/
def pointers : List Argument :=
  [⟨.pin, .optional⟩, ⟨.id, .optional⟩]

/-- The options that a command takes. -/
def arguments : Verb → List Argument
  | info | dump | freeze => pointers
  | list | version => []
  | batchDump => pointers ++ [⟨.chunk, .default (.number 64)⟩]
  | delete => pointers ++ [⟨.key, .required⟩]
  | create =>
      [⟨.pin, .required⟩, ⟨.mapType, .required⟩, ⟨.keySize, .required⟩,
        ⟨.valueSize, .required⟩, ⟨.maxEntries, .required⟩, ⟨.name, .optional⟩,
        ⟨.mapFlags, .default (.number 0)⟩]
  | watch => pointers ++ [⟨.interval, .default (.number 5)⟩]

/-- The options of which a command needs one and takes no more, if there are such. -/
def alternatives : Verb → List Flag
  | info | dump | batchDump | delete | freeze | watch => [.pin, .id]
  | list | create | version => []

/-- The options that a command takes, by name. -/
def flags (verb : Verb) : List Flag :=
  verb.arguments.map Argument.flag

/-- The options that have to be given. -/
def required (verb : Verb) : List Flag :=
  (verb.arguments.filter fun argument => argument.presence == .required).map Argument.flag

/-- The options that have a value although they are not given. -/
def defaults (verb : Verb) : List (Flag × Value) :=
  verb.arguments.filterMap fun argument =>
    match argument.presence with
    | .default value => some (argument.flag, value)
    | _ => none

/-- No two alternatives are among some options. -/
def Single (verb : Verb) (given : List Flag) : Prop :=
  ∀ first ∈ verb.alternatives, ∀ second ∈ verb.alternatives,
    first ∈ given → second ∈ given → first = second

/-- All that a command needs is among some options. -/
def Complete (verb : Verb) (given : List Flag) : Prop :=
  (∀ flag ∈ verb.required, flag ∈ given) ∧
    (verb.alternatives = [] ∨ ∃ flag ∈ verb.alternatives, flag ∈ given)

instance (verb : Verb) (given : List Flag) : Decidable (verb.Single given) :=
  inferInstanceAs (Decidable (∀ first ∈ _, _))

instance (verb : Verb) (given : List Flag) : Decidable (verb.Complete given) :=
  inferInstanceAs (Decidable (_ ∧ _))

end Verb

namespace Flag

/-- The name of an option. -/
def label : Flag → String
  | pin => "pin"
  | id => "id"
  | chunk => "chunk"
  | key => "key"
  | mapType => "type"
  | keySize => "key-size"
  | valueSize => "value-size"
  | maxEntries => "max-entries"
  | name => "name"
  | mapFlags => "flags"
  | interval => "interval-secs"

/-- What values an option takes. -/
def kind : Flag → Kind
  | pin => .path
  | key | name => .text
  | id | chunk | mapType | keySize | valueSize | maxEntries | mapFlags => .word
  | interval => .doubleWord

end Flag

end CommandLine
end KernelMaps
