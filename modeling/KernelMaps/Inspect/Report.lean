import KernelMaps.CpuList
import KernelMaps.FilePath.Place
import KernelMaps.HandleError
import KernelMaps.Hex
import KernelMaps.Host

/-!
# Reports

Why a command on maps fails: a chain of wordings, from the outermost to the last cause. A task is
a computation on a host that may end in such a report.
-/

namespace KernelMaps

/-- Why a command fails. -/
inductive Report
  /-- The map pinned to a path cannot be opened. -/
  | pinUnopened (path : String) (cause : HandleError)
  /-- The map with an identifier cannot be opened. -/
  | idUnopened (id : UInt32) (cause : HandleError)
  /-- A call fails. -/
  | callFailed (call : String) (cause : SystemError)
  /-- A walk over keys fails. -/
  | walkFailed (status : String)
  /-- A walk over batches fails. -/
  | batchFailed (status : String)
  | zeroChunk
  | zeroValueSize
  | zeroMaxEntries
  | keyUnreadable (cause : Hex.Error)
  | keyLength (given : Nat) (id keySize : UInt32)
  | cpuListUnreadable (path : String) (cause : SystemError)
  | cpuListInvalid (cause : CpuList.Error)
  | uncreated (cause : HandleError)
  | directoryUncreated (path : String) (cause : FilePath.DirectoryError)
  | unpinned (path : String) (cause : SystemError)
  | handle (cause : HandleError)
  /-- The program stops, and there is no report. -/
  | panicked (panic : Panic)
  /-- A walk takes more steps than its host allows. -/
  | unending
  deriving DecidableEq, Repr

namespace Report

/-- The wordings of a report, the outermost first. -/
def chain : Report → List String
  | pinUnopened path cause => ("failed to open pinned map " ++ path) :: cause.chain
  | idUnopened id cause => ("failed to open map id " ++ toString id) :: cause.chain
  | callFailed call cause => [call ++ " failed", cause.message]
  | walkFailed status => ["bpf_map_get_next_key failed: " ++ status]
  | batchFailed status => ["bpf_map_lookup_batch failed: " ++ status]
  | zeroChunk => ["chunk must be greater than zero"]
  | zeroValueSize => ["value size must be greater than zero"]
  | zeroMaxEntries => ["max entries must be greater than zero"]
  | keyUnreadable cause => cause.chain
  | keyLength given id keySize =>
      ["key is " ++ toString given ++ " bytes, map " ++ toString id ++ " expects " ++
        toString keySize]
  | cpuListUnreadable path cause => ["failed to read " ++ path, cause.message]
  | cpuListInvalid cause => cause.chain
  | uncreated cause => "failed to create map" :: cause.chain
  | directoryUncreated path cause => ["failed to create " ++ path, cause.message]
  | unpinned path cause =>
      ["failed to pin map at " ++ path, "bpf_obj_pin failed", cause.message]
  | handle cause => cause.chain
  | panicked panic => [panic.message]
  | unending => ["walk does not end"]

/-- The lines for causes that are numbered from a first number. -/
def numbered : Nat → List String → List String
  | _, [] => []
  | number, cause :: rest =>
      ("    " ++ toString number ++ ": " ++ cause) :: numbered (number + 1) rest

/-- The lines for the causes of a report; a single one bears no number. -/
def causeLines : List String → List String
  | [cause] => ["    " ++ cause]
  | causes => numbered 0 causes

/-- A chain of wordings over several lines. -/
def layOut : List String → String
  | [] => ""
  | [outermost] => outermost
  | outermost :: causes =>
      outermost ++ "\n\nCaused by:\n" ++ String.intercalate "\n" (causeLines causes)

/-- The wording of a report with all its causes. -/
def message (report : Report) : String :=
  layOut report.chain

end Report

/-- A computation on a host that may end in a report. -/
abbrev Task (σ α : Type) := ExceptT Report (StateM σ) α

namespace Task

/-- Give up with a report. -/
def fail (report : Report) : Task σ α :=
  throw report

/-- Do something that cannot fail. -/
def lift (action : Action σ α) : Task σ α :=
  monadLift action

/-- Go on only if a condition holds. -/
def require (condition : Bool) (report : Report) : Task σ Unit :=
  if condition then pure () else fail report

/-- Take a value that may be missing for a reason. -/
def ofExcept (explain : ε → Report) (value : Except ε α) : Task σ α :=
  match value with
  | .ok value => pure value
  | .error error => fail (explain error)

/-- Take a value, or stop with the program. -/
def attempt (value : Checked α) : Task σ α :=
  ofExcept .panicked value

/-- The number that a successful call returned. -/
def check (call : String) (status : Status) : Task σ UInt32 := do
  let result ← attempt status.toResult
  ofExcept (fun errno => .callFailed call (.os errno)) result

/-- Do something after a task, however the task ended. -/
def ensuring (finish : Action σ Unit) (task : Task σ α) : Task σ α :=
  ExceptT.mk (do
    let result ← task.run
    finish
    pure result)

end Task
end KernelMaps
