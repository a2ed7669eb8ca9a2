import KernelMaps.Kernel.Basic

/-!
# The kernel's answers

The kernel as a whole: the answer to any call, and the state after it. A refused call leaves the
state as it was, except that a batch keeps the elements done before the one that was refused.
-/

namespace KernelMaps
namespace Kernel

/-- The outcome of a call that an error may have stopped, and that returns nothing else. -/
def outcomeOf (error : Option Errno) : Outcome :=
  match error with
  | none => .ok 0
  | some errno => .error (.ofErrno errno)

/-- Answer a call that changes the state and returns nothing. -/
def afterChange (call : Call) (kernel : Kernel) (result : Except Errno Kernel)
    (left : call.Left) : Answer call × Kernel :=
  match result with
  | .error errno => (.refuse call errno, kernel)
  | .ok next => (.accept call 0 left, next)

/-- Answer a call that returns a new descriptor. -/
def afterOpen (call : Call) (kernel : Kernel) (result : Except Errno (Descriptor × Kernel))
    (left : call.Left) : Answer call × Kernel :=
  match result with
  | .error errno => (.refuse call errno, kernel)
  | .ok (descriptor, next) => (.accept call descriptor.toInt64 left, next)

/-- Answer a call that only reads. -/
def afterRead (call : Call) (kernel : Kernel) (result : Except Errno call.Left) :
    Answer call × Kernel :=
  match result with
  | .error errno => (.refuse call errno, kernel)
  | .ok left => (.accept call 0 left, kernel)

/-- The answer to a call, and the kernel after it. -/
def answer : (call : Call) → Kernel → Answer call × Kernel
  | .close descriptor, kernel =>
      afterChange (.close descriptor) kernel (kernel.close descriptor) ()
  | .duplicate descriptor, kernel =>
      afterOpen (.duplicate descriptor) kernel (kernel.duplicate descriptor) ()
  | .create spec, kernel => afterOpen (.create spec) kernel (kernel.create spec) ()
  | .lookup descriptor key flags, kernel =>
      afterRead (.lookup descriptor key flags) kernel (kernel.lookup descriptor key)
  | .update descriptor key value flags, kernel =>
      afterChange (.update descriptor key value flags) kernel
        (kernel.update descriptor key value flags) ()
  | .delete descriptor key, kernel =>
      afterChange (.delete descriptor key) kernel
        ((kernel.delete descriptor key).map Prod.snd) ()
  | .nextKey descriptor key, kernel =>
      afterRead (.nextKey descriptor key) kernel (kernel.nextKey descriptor key)
  | .pin descriptor path, kernel =>
      afterChange (.pin descriptor path) kernel (kernel.pin descriptor path) ()
  | .openPath path, kernel => afterOpen (.openPath path) kernel (kernel.openPath path) ()
  | .nextId start, kernel => afterRead (.nextId start) kernel (kernel.nextId start)
  | .openId id, kernel => afterOpen (.openId id) kernel (kernel.openId id) ()
  | .info descriptor length, kernel =>
      afterRead (.info descriptor length) kernel (kernel.info descriptor length)
  | .lookupAndDelete descriptor key, kernel =>
      match kernel.delete descriptor key with
      | .error errno => (.refuse (.lookupAndDelete descriptor key) errno, kernel)
      | .ok (value, next) => (.accept (.lookupAndDelete descriptor key) 0 value, next)
  | .freeze descriptor, kernel =>
      afterChange (.freeze descriptor) kernel (kernel.freeze descriptor) ()
  | .lookupBatch query, kernel =>
      let (error, left, next) := kernel.lookupBatch query
      (⟨outcomeOf error, left⟩, next)
  | .updateBatch descriptor keys values count options, kernel =>
      let (error, left, next) := kernel.updateBatch descriptor keys values count options
      (⟨outcomeOf error, left⟩, next)
  | .deleteBatch descriptor keys count _, kernel =>
      let (error, left, next) := kernel.deleteBatch descriptor keys count
      (⟨outcomeOf error, left⟩, next)
  | .unknown command, kernel => (.refuse (.unknown command) Errno.invalid, kernel)

end Kernel
end KernelMaps
