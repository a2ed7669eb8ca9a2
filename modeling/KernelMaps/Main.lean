import KernelMaps.CommandLine.Help
import KernelMaps.CommandLine.Parse
import KernelMaps.CommandLine.Run
import Std.Time

/-!
# The program

The command line on a fresh kernel in memory. Reading the clock and the machine's files, printing
and the exit code are all that is done here.
-/

namespace KernelMaps

/-- The contents of a file of the machine, or the error for one that is missing. -/
def readMachineFile (path : String) : IO (Except SystemError String) := do
  try
    let contents ← IO.FS.readFile path
    pure (.ok contents)
  catch _ => pure (.error (.os Errno.noEntry))

/-- The machine that the program runs on. -/
def currentMachine : IO Machine := do
  let processors ← readMachineFile Machine.processorsPath
  pure ⟨processors, FilePath.directoryError⟩

/-- The texts for the present time and the running kernel. -/
def currentSurroundings : IO CommandLine.Surroundings := do
  let release ← readMachineFile "/proc/sys/kernel/osrelease"
  let running := Running.ofRelease (release.toOption.getD "")
  let now ← Std.Time.Timestamp.now
  let time := Std.Time.DateTime.ofTimestampWithZone now Std.Time.TimeZone.UTC
  pure
    { help := CommandLine.usage
      kernel := running.kernelText
      time := time.format "uuuu-MM-dd'T'HH:mm:ss'Z'" }

/-- Run a command line and print what it has to say. -/
def runProgram (words : List String) : IO UInt32 := do
  match CommandLine.parse words with
  | .error refusal =>
      if refusal = .displayHelp then IO.println refusal.message
      else IO.eprintln refusal.message
      pure (UInt32.ofNat refusal.exitCode)
  | .ok command =>
      let machine ← currentMachine
      let surroundings ← currentSurroundings
      match ((CommandLine.run Kernel.host machine command).run.run {}).1 with
      | .ok output =>
          IO.print (output.text surroundings)
          pure 0
      | .error (.panicked panic) =>
          IO.eprintln panic.message
          pure 101
      | .error report =>
          IO.eprintln ("bpfmap error: " ++ report.message)
          pure 1

end KernelMaps

/-- The entry of the program. -/
def main (words : List String) : IO UInt32 :=
  KernelMaps.runProgram words
