import KernelMaps.Operation.Batch

/-!
# Cursors

A cursor keeps the token by which one reading batch goes on where the last one ended. It holds no
token until a first one has been taken over.
-/

namespace KernelMaps

/-- Where a series of reading batches stands. -/
structure Cursor where
  /-- The number of bytes of a token. -/
  width : Nat
  /-- The token for the next call, absent until one was taken over. -/
  token : Option Bytes := none
  deriving DecidableEq, Repr

namespace Cursor

/-- A cursor for a map with the given key size; its token has room for a 32-bit position. -/
def new (keySize : UInt32) : Cursor :=
  { width := max keySize.toNat Table.tokenWidth }

/-- A fresh buffer for the token that a call leaves. -/
def scratch (cursor : Cursor) : Bytes :=
  Bytes.zeros cursor.width

/--
Both sides of the next call: the token, and a caller's buffer for the token that the call leaves.
Whatever the buffer held goes, and it is filled up with zeros.
-/
def split (cursor : Cursor) (buffer : Bytes) : Option Bytes × Bytes :=
  (cursor.token, Bytes.fit cursor.width (buffer.take 0))

/-- Take over the token that a call left, unless it is too short. -/
def advance? (cursor : Cursor) (out : Bytes) : Option Cursor :=
  if out.length < cursor.width then none
  else some { cursor with token := some (out.take cursor.width) }

/-- Forget the token. -/
def reset (cursor : Cursor) : Cursor :=
  { cursor with token := none }

/-- The request for the next batch. -/
def query (cursor : Cursor) (remove : Bool) (descriptor : Descriptor) (count : UInt32)
    (options : BatchOptions) : BatchQuery :=
  { remove, descriptor, token := cursor.token, count, options }

/-- Read the next batch, and take over the token it leaves if the call succeeds. -/
def read (host : Host σ) (cursor : Cursor) (remove : Bool) (descriptor : Descriptor)
    (count : UInt32) (options : BatchOptions) (keys values : Bytes) :
    Action σ (BatchReply × Cursor) := do
  let reply ← host.lookupBatch (cursor.query remove descriptor count options) cursor.scratch
    keys values
  if reply.status.isOk then pure (reply, (cursor.advance? reply.token).getD cursor)
  else pure (reply, cursor)

end Cursor
end KernelMaps
