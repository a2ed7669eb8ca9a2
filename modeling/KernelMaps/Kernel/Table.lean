import KernelMaps.Abi.MapRecord
import KernelMaps.Call

/-!
# Tables

A table holds the entries of one map. Entries stay in the order in which their keys were first
inserted, which is the order of every walk; an overwritten entry keeps its place.
-/

namespace KernelMaps

/-- The entries of a map, in the order of insertion. -/
abbrev Entries := List (Bytes × Bytes)

namespace Entries

/-- Overwrite the value of a key, or append a new entry. -/
def put (key value : Bytes) : Entries → Entries
  | [] => [(key, value)]
  | entry :: rest =>
      if entry.1 = key then (key, value) :: rest else entry :: put key value rest

/-- Take out the entry of a key. -/
def erase (key : Bytes) (entries : Entries) : Entries :=
  entries.eraseP fun entry => entry.1 == key

/-- The entries after the one with the given key; all of them if there is no such key. -/
def after (key : Bytes) (entries : Entries) : Entries :=
  match entries.dropWhile (fun entry => entry.1 != key) with
  | [] => entries
  | _ :: rest => rest

end Entries

/-- A map in the kernel. -/
structure Table where
  id : UInt32
  spec : MapSpec
  frozen : Bool := false
  entries : Entries := []
  deriving DecidableEq, Repr

namespace Table

/-- The width of a key. -/
def keySize (table : Table) : Nat :=
  table.spec.keySize.toNat

/-- The width of a value. -/
def valueSize (table : Table) : Nat :=
  table.spec.valueSize.toNat

/-- The value of a key. -/
def find? (table : Table) (key : Bytes) : Option Bytes :=
  table.entries.lookup key

/-- The flags that an element may carry. -/
def knownFlags : UInt64 :=
  Abi.ElementFlag.noExist ||| Abi.ElementFlag.exist ||| Abi.ElementFlag.lock

/-- The flags that say whether the key has to be there. -/
def existenceFlags : UInt64 :=
  Abi.ElementFlag.noExist ||| Abi.ElementFlag.exist

/-- Insert or overwrite one entry. -/
def update (table : Table) (key value : Bytes) (flags : UInt64) : Except Errno Table :=
  if table.frozen then .error Errno.notPermitted
  else if flags &&& ~~~knownFlags ≠ 0 then .error Errno.invalid
  else
    let existence := flags &&& existenceFlags
    if (table.find? key).isSome then
      if existence = Abi.ElementFlag.noExist then .error Errno.alreadyExists
      else .ok { table with entries := table.entries.put key value }
    else if existence = Abi.ElementFlag.exist then .error Errno.noEntry
    else if table.spec.maxEntries.toNat ≤ table.entries.length then .error Errno.tooBig
    else .ok { table with entries := table.entries.put key value }

/-- Take out one entry. -/
def delete (table : Table) (key : Bytes) : Except Errno (Bytes × Table) :=
  if table.frozen then .error Errno.notPermitted
  else
    match table.find? key with
    | none => .error Errno.noEntry
    | some value => .ok (value, { table with entries := table.entries.erase key })

/-- The key after the given one; an unknown key is followed by the first. -/
def nextKey (table : Table) (key : Option Bytes) : Except Errno Bytes :=
  match (key.elim table.entries fun key => table.entries.after key) with
  | [] => .error Errno.noEntry
  | entry :: _ => .ok entry.1

/-- Make the table read-only. -/
def freeze (table : Table) : Except Errno Table :=
  if table.frozen then .error Errno.busy else .ok { table with frozen := true }

/-- The metadata of a table. -/
def record (table : Table) : MapRecord where
  mapType := table.spec.mapType
  id := table.id
  keySize := table.spec.keySize
  valueSize := table.spec.valueSize
  maxEntries := table.spec.maxEntries
  mapFlags := table.spec.mapFlags
  name := table.spec.name
  interface := table.spec.interface
  netnsDevice := 4
  netnsInode := 4026531840

end Table
end KernelMaps
