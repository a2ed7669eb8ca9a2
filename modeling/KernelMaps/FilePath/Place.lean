import KernelMaps.FilePath
import KernelMaps.SystemError

/-!
# Places

Where a path leads when every directory that is missing on its way is made, on a machine whose
only file that is no directory is the null device. The walk goes component by component, and its
first error is the reason why a directory cannot be made.
-/

namespace KernelMaps
namespace FilePath

/-- A place that a walk has come to. -/
inductive Place
  /-- The directory with the given components from the root, the last one first. -/
  | directory (trail : List (List Char))
  /-- Some directory, it is not known where. -/
  | somewhere
  /-- A file that is no directory. -/
  | file
  deriving DecidableEq, Repr

/-- Why a directory cannot be made. -/
inductive DirectoryError
  /-- A zero character would end the path too early. -/
  | zeroCharacter
  | system (error : SystemError)
  deriving DecidableEq, Repr

/-- The wording of an error. -/
def DirectoryError.message : DirectoryError → String
  | zeroCharacter => "file name contained an unexpected NUL byte"
  | system error => error.message

/-- The component that leads to the directory above. -/
def above : List Char :=
  ['.', '.']

/-- The components of the null device, the last one first. -/
def nullDevice : List (List Char) :=
  [['n', 'u', 'l', 'l'], ['d', 'e', 'v']]

/-- The greatest number of bytes in a component. -/
def maxComponent : Nat :=
  255

/-- The greatest number of bytes in a path. -/
def maxPath : Nat :=
  4095

namespace Place

/-- The place under a name in the directory with the given components. -/
def entry (trail : List (List Char)) (name : List Char) : Place :=
  if name :: trail = nullDevice then file else directory (name :: trail)

/-- Follow one component, making the directory that it names; the root lies above itself. -/
def follow (place : Place) (component : List Char) : Except Errno Place :=
  match place with
  | file => .error Errno.notDirectory
  | somewhere =>
      if maxComponent < (String.ofList component).utf8ByteSize then .error Errno.nameTooLong
      else .ok somewhere
  | directory trail =>
      if component = above then .ok (directory trail.tail)
      else if maxComponent < (String.ofList component).utf8ByteSize then
        .error Errno.nameTooLong
      else .ok (entry trail component)

/-- Where a walk along a path starts. -/
def start (path : String) : Place :=
  if path.toList.head? = some separator then directory [] else somewhere

/-- Where a path leads. -/
def ofPath (path : String) : Except Errno Place :=
  (components path).foldlM follow (start path)

end Place

/-- Why a directory cannot be made along with those above it, if it cannot. -/
def directoryError (path : String) : Option DirectoryError :=
  if path.toList.contains '\x00' then some .zeroCharacter
  else if maxPath < path.utf8ByteSize then some (.system (.os Errno.nameTooLong))
  else
    match Place.ofPath path with
    | .error errno => some (.system (.os errno))
    | .ok .file => some (.system (.os Errno.alreadyExists))
    | .ok _ => none

end FilePath
end KernelMaps
