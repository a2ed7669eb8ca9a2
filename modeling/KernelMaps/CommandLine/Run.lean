import KernelMaps.CommandLine.Grammar
import KernelMaps.Inspect.Render
import KernelMaps.Release

/-!
# Running a command line

What each command does on a host, and what it prints.
-/

namespace KernelMaps
namespace CommandLine

/-- What a command has to print. -/
inductive Output
  | nothing
  | help
  | json (value : Json)
  | version
  | gauge (reading : Inspect.Gauge)

/-- The texts that depend on more than the maps. -/
structure Surroundings where
  /-- How to use the program. -/
  help : String
  /-- What to call the running kernel. -/
  kernel : String
  /-- The present time. -/
  time : String

namespace Output

/-- The text that is printed. -/
def text (surroundings : Surroundings) : Output → String
  | nothing => ""
  | help => surroundings.help ++ "\n\n"
  | json value => value.render ++ "\n"
  | version => Version.current.beside surroundings.kernel ++ "\n"
  | gauge reading => reading.line surroundings.time ++ "\n"

end Output

namespace Command

/-- Do what a command asks for; a watch stops after its first report. -/
def run (host : Host σ) (machine : Machine) : Command → Task σ Output
  | info target => do
      let info ← Inspect.showInfo host target
      pure (.json info.toJson)
  | list => do
      let infos ← Inspect.list host
      pure (.json (.array (infos.map MapInfo.toJson)))
  | dump target => do
      let entries ← Dump.byKeys host machine target
      pure (.json (entriesJson entries))
  | batchDump target chunk => do
      let entries ← Dump.byBatches host machine target chunk
      pure (.json (entriesJson entries))
  | delete target key => do
      Inspect.deleteKey host target key
      pure .nothing
  | freeze target => do
      Inspect.freeze host target
      pure .nothing
  | create creation => do
      let info ← Inspect.create host machine creation
      pure (.json info.toJson)
  | watch target _ => do
      let reading ← Inspect.watch host target
      pure (.gauge reading)
  | version => pure .version

end Command

/-- Do what a command line asks for; if it asks for nothing, give help. -/
def run (host : Host σ) (machine : Machine) (command : Option Command) : Task σ Output :=
  match command with
  | none => pure .help
  | some command => command.run host machine

end CommandLine
end KernelMaps
