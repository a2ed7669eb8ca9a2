import KernelMaps.CommandLine.Settings
import KernelMaps.CommandLine.Word
import KernelMaps.Text.Numeral

/-!
# Reading a command line word by word

A reader that takes the words from left to right. The value of an option that stands in a word of
its own is judged when the next option comes or the words end, so an unknown word after it is
refused first. What is missing or in conflict is seen when all words have been read.
-/

namespace KernelMaps
namespace CommandLine

/--
The value that a text stands for. A path is not empty; a 32-bit number may carry a minus sign if
it is zero, and a 64-bit number may not.
-/
def Kind.judge (kind : Kind) (text : String) : Except Refusal Value :=
  match kind with
  | path => if text.isEmpty then .error .invalidValue else .ok (.text text)
  | Kind.text => .ok (.text text)
  | word =>
      match Text.Numeral.readSigned (UInt32.size - 1) text.toList with
      | .ok number => .ok (.number number)
      | .error _ => .error .valueValidation
  | doubleWord =>
      match Text.Numeral.read (UInt64.size - 1) text.toList with
      | .ok number => .ok (.number number)
      | .error _ => .error .valueValidation

/-- The option of a command with the given name. -/
def Verb.flag? (verb : Verb) (label : String) : Option Flag :=
  verb.flags.find? fun flag => flag.label == label

namespace Settings

/-- Give an option its value, which it must not have yet. -/
def assign (settings : Settings) (flag : Flag) (text : String) : Except Refusal Settings :=
  if (settings.lookup flag).isSome then .error .argumentConflict
  else (flag.kind.judge text).map fun value => (flag, value) :: settings

/-- The settings of a command, with those that it has by default. -/
def finish (settings : Settings) (verb : Verb) : Except Refusal Settings :=
  let given := settings.map Prod.fst
  if ¬verb.Single given then .error .argumentConflict
  else if ¬verb.Complete given then .error .missingRequiredArgument
  else .ok (settings ++ verb.defaults)

end Settings

/-- Where the reading of options stands. -/
structure Progress where
  settings : Settings := []
  /-- The option that was named last, and its value if that stands in a word of its own. -/
  pending : Option (Flag × Option String) := none
  deriving DecidableEq, Repr

namespace Progress

/-- Judge the value of the option that was named last. -/
def settle (progress : Progress) : Except Refusal Settings :=
  match progress.pending with
  | none => .ok progress.settings
  | some (_, none) => .error .invalidValue
  | some (flag, some text) => progress.settings.assign flag text

/-- Give help, once the option named last has been judged. -/
def help (progress : Progress) : Refusal :=
  match progress.settle with
  | .ok _ => .displayHelp
  | .error refusal => refusal

/-- Go on after a long option. -/
def long (verb : Verb) (progress : Progress) (name : String) (value : Option String) :
    Except Refusal Progress :=
  if name = "help" then
    match value with
    | none => .error progress.help
    | some _ => .error .tooManyValues
  else
    match verb.flag? name with
    | none => .error .unknownArgument
    | some flag => do
        let settings ← progress.settle
        match value with
        | none => .ok ⟨settings, some (flag, none)⟩
        | some text => do
            let settings ← settings.assign flag text
            .ok ⟨settings, none⟩

/-- Go on after a group of short options. -/
def short (progress : Progress) (letters : List Char) : Except Refusal Progress :=
  if letters.head? = some 'h' then .error progress.help else .error .unknownArgument

/-- Go on after a word that is no option. -/
def plain (progress : Progress) (text : String) : Except Refusal Progress :=
  match progress.pending with
  | some (flag, none) => .ok { progress with pending := some (flag, some text) }
  | _ => .error .unknownArgument

end Progress

/-- Read the words after a command's name. -/
def readOptions (verb : Verb) : Progress → List String → Except Refusal Settings
  | progress, [] => progress.settle
  | progress, text :: rest =>
      match Word.ofText text with
      | .escape => if rest.isEmpty then progress.settle else .error .unknownArgument
      | .long name value => do
          let progress ← progress.long verb name value
          readOptions verb progress rest
      | .short letters => do
          let progress ← progress.short letters
          readOptions verb progress rest
      | .plain text => do
          let progress ← progress.plain text
          readOptions verb progress rest

/-- The name of the command that gives help. -/
def helpLabel : String :=
  "help"

/-- Whether a word is the name of a command. -/
def isLabel (text : String) : Bool :=
  text == helpLabel || (Verb.ofLabel? text).isSome

/-- Why the words after `help` are refused: help is given for at most one known command. -/
def helpFor : List String → Refusal
  | [] => .displayHelp
  | [text] => if isLabel text then .displayHelp else .invalidSubcommand
  | _ => .invalidSubcommand

/-- Why a first word that names no command is refused, if it is; the mark `--` alone is not. -/
def withoutVerb (text : String) (rest : List String) :
    Except Refusal (Option (Verb × Settings)) :=
  match Word.ofText text, rest with
  | .escape, [] => .ok none
  | .escape, next :: _ =>
      if isLabel next then .error .unknownArgument else .error .invalidSubcommand
  | .long name value, _ =>
      if name = "help" then
        if value.isNone then .error .displayHelp else .error .tooManyValues
      else .error .unknownArgument
  | .short letters, _ =>
      if letters.head? = some 'h' then .error .displayHelp else .error .unknownArgument
  | .plain _, _ => .error .invalidSubcommand

/-- Read the words of a command line, which may say nothing. -/
def readWords : List String → Except Refusal (Option (Verb × Settings))
  | [] => .ok none
  | text :: rest =>
      if text = helpLabel then .error (helpFor rest)
      else
        match Verb.ofLabel? text with
        | none => withoutVerb text rest
        | some verb => do
            let settings ← readOptions verb {} rest
            let settings ← settings.finish verb
            .ok (some (verb, settings))

/-- The reader that takes the words from left to right. -/
def wordByWord : Reader where
  judge := Kind.judge
  read := readWords

/-- The command that a command line asks for, if it asks for one. -/
def parse (words : List String) : Except Refusal (Option Command) :=
  wordByWord.command words

end CommandLine
end KernelMaps
