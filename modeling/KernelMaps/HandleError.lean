import KernelMaps.Status

/-!
# Handle errors

Why no handle, or no descriptor of a handle, can be had.
-/

namespace KernelMaps

/-- Why a handle cannot serve. -/
inductive HandleError
  /-- The handle no longer owns a descriptor. -/
  | closed
  /-- The call that was to give the descriptor failed. -/
  | refused (call : String) (error : SystemError)
  deriving DecidableEq, Repr

namespace HandleError

/-- The wording of an error. -/
def message : HandleError → String
  | closed => "descriptor handle already closed"
  | refused call _ => "`" ++ call ++ "` failed"

/-- The wording of an error, followed by that of its cause. -/
def chain (error : HandleError) : List String :=
  match error with
  | closed => [error.message]
  | refused _ cause => [error.message, cause.message]

/-- The fields of an error, spelled out. -/
def detail : HandleError → String
  | closed => "Closed"
  | refused call error =>
      "SyscallError \x7b call: \"" ++ call ++ "\", io_error: " ++ error.detail ++ " \x7d"

end HandleError
end KernelMaps
