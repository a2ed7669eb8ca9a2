import KernelMaps.FilePath.Place

/-!
# Machines

What commands need to know of the machine beside its kernel: the list of its processors, and
whether a directory can be made.
-/

namespace KernelMaps

/-- The machine on which commands run. -/
structure Machine where
  /-- The kernel's list of processors, or why it cannot be read. -/
  processors : Except SystemError String
  /-- Why a directory cannot be made along with those above it, if it cannot. -/
  directoryError : String → Option FilePath.DirectoryError

namespace Machine

/-- Where the kernel keeps its list of processors. -/
def processorsPath : String :=
  "/sys/devices/system/cpu/possible"

end Machine

/-- A machine with the given processors, on which only the null device is no directory. -/
def Machine.plain (processors : String) : Machine :=
  ⟨.ok processors, FilePath.directoryError⟩

end KernelMaps
