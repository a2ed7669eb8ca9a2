/-!
# System errors

The numbers of system errors, their wording and their kinds, and the error that a failing call
reports: a number, or none.
-/

namespace KernelMaps

/-- The number of a system error. -/
abbrev Errno := Int32

namespace Errno

/-- The caller may not do this; so are writes to a read-only map refused. -/
def notPermitted : Errno := 1
/-- There is no such entry, map or path. -/
def noEntry : Errno := 2
/-- A failure that cannot be told more closely. -/
def inputOutput : Errno := 5
/-- There is no room for one entry more. -/
def tooBig : Errno := 7
/-- A descriptor names nothing that is open. -/
def badDescriptor : Errno := 9
/-- A buffer is missing that the call needs. -/
def badAddress : Errno := 14
/-- Something is in the requested state already. -/
def busy : Errno := 16
/-- There is such an entry or path already. -/
def alreadyExists : Errno := 17
/-- A component of a path is no directory. -/
def notDirectory : Errno := 20
/-- A request makes no sense. -/
def invalid : Errno := 22
/-- A buffer is too small for what has to go into it. -/
def noSpace : Errno := 28
/-- A path, or a component of it, has too many bytes. -/
def nameTooLong : Errno := 36
/-- The kernel has no such call. -/
def noFunction : Errno := 38

/-- What is known of a system error: its number, its wording and its kind. -/
structure Entry where
  number : Errno
  wording : String
  kind : String

/-- The kind of all errors without one of their own. -/
def commonKind : String :=
  "Uncategorized"

/-- The system errors that have a wording of their own. -/
def entries : List Entry :=
  [⟨0, "Success", commonKind⟩,
    ⟨notPermitted, "Operation not permitted", "PermissionDenied"⟩,
    ⟨noEntry, "No such file or directory", "NotFound"⟩,
    ⟨3, "No such process", commonKind⟩,
    ⟨4, "Interrupted system call", "Interrupted"⟩,
    ⟨inputOutput, "Input/output error", "InputOutputError"⟩,
    ⟨tooBig, "Argument list too long", "ArgumentListTooLong"⟩,
    ⟨badDescriptor, "Bad file descriptor", commonKind⟩,
    ⟨11, "Resource temporarily unavailable", "WouldBlock"⟩,
    ⟨12, "Cannot allocate memory", "OutOfMemory"⟩,
    ⟨13, "Permission denied", "PermissionDenied"⟩,
    ⟨badAddress, "Bad address", commonKind⟩,
    ⟨busy, "Device or resource busy", "ResourceBusy"⟩,
    ⟨alreadyExists, "File exists", "AlreadyExists"⟩,
    ⟨notDirectory, "Not a directory", "NotADirectory"⟩,
    ⟨invalid, "Invalid argument", "InvalidInput"⟩,
    ⟨24, "Too many open files", "TooManyOpenFiles"⟩,
    ⟨noSpace, "No space left on device", "StorageFull"⟩,
    ⟨nameTooLong, "File name too long", "InvalidFilename"⟩,
    ⟨noFunction, "Function not implemented", "Unsupported"⟩,
    ⟨95, "Operation not supported", "Unsupported"⟩]

/-- The entry of a system error; an unknown one is described by its number. -/
def entry (errno : Errno) : Entry :=
  (entries.find? fun entry => entry.number == errno).getD
    ⟨errno, "Unknown error " ++ toString errno, commonKind⟩

/-- The wording of a system error. -/
def wording (errno : Errno) : String :=
  errno.entry.wording

/-- The kind of a system error. -/
def kind (errno : Errno) : String :=
  errno.entry.kind

end Errno

/-- The error of a failing call. -/
inductive SystemError
  | os (errno : Errno)
  /-- The failure came without an error number. -/
  | uncoded
  deriving DecidableEq, Repr

namespace SystemError

/-- The wording of an error without number. -/
def uncodedWording : String :=
  "no os code"

/-- The number of an error, if it has one. -/
def errno? : SystemError → Option Errno
  | os errno => some errno
  | uncoded => none

/-- The wording of an error, with its number. -/
def message : SystemError → String
  | os errno => errno.wording ++ " (os error " ++ toString errno ++ ")"
  | uncoded => uncodedWording

/-- The fields of an error, spelled out. -/
def detail : SystemError → String
  | os errno =>
      "Os \x7b code: " ++ toString errno ++ ", kind: " ++ errno.kind ++ ", message: \"" ++
        errno.wording ++ "\" \x7d"
  | uncoded => "Custom \x7b kind: Other, error: \"" ++ uncodedWording ++ "\" \x7d"

end SystemError
end KernelMaps
