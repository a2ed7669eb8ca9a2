import KernelMaps.SystemError

/-!
# Kernel constants

The numbers by which the kernel interface names its commands, flags and map types, and the tables
that list them under their customary names.
-/

namespace KernelMaps
namespace Abi

/-- The length of an object name in the kernel, with its closing zero. -/
def nameLength : Nat :=
  16

namespace Command

/-- Create a map. -/
def mapCreate : UInt32 := 0
/-- Read the value of a key. -/
def mapLookup : UInt32 := 1
/-- Insert or overwrite a value. -/
def mapUpdate : UInt32 := 2
/-- Take an entry out. -/
def mapDelete : UInt32 := 3
/-- Read the key after another one. -/
def mapNextKey : UInt32 := 4
/-- Pin a map to a path. -/
def objectPin : UInt32 := 6
/-- Open the map pinned to a path. -/
def objectGet : UInt32 := 7
/-- Read the least identifier above another one. -/
def mapNextId : UInt32 := 12
/-- Open the map with an identifier. -/
def mapOpenId : UInt32 := 14
/-- Read the metadata of a map. -/
def objectInfo : UInt32 := 15
/-- Read a value and take its entry out. -/
def mapLookupAndDelete : UInt32 := 21
/-- Make a map read-only. -/
def mapFreeze : UInt32 := 22
/-- Read a batch of entries. -/
def mapLookupBatch : UInt32 := 24
/-- Read a batch of entries and take them out. -/
def mapLookupAndDeleteBatch : UInt32 := 25
/-- Insert or overwrite a batch of values. -/
def mapUpdateBatch : UInt32 := 26
/-- Take out a batch of entries. -/
def mapDeleteBatch : UInt32 := 27

/-- The commands by name. -/
def table : List (String × Nat) :=
  [("BPF_MAP_CREATE", mapCreate.toNat), ("BPF_MAP_LOOKUP_ELEM", mapLookup.toNat),
    ("BPF_MAP_UPDATE_ELEM", mapUpdate.toNat), ("BPF_MAP_DELETE_ELEM", mapDelete.toNat),
    ("BPF_MAP_GET_NEXT_KEY", mapNextKey.toNat), ("BPF_OBJ_PIN", objectPin.toNat),
    ("BPF_OBJ_GET", objectGet.toNat), ("BPF_MAP_GET_NEXT_ID", mapNextId.toNat),
    ("BPF_MAP_GET_FD_BY_ID", mapOpenId.toNat), ("BPF_OBJ_GET_INFO_BY_FD", objectInfo.toNat),
    ("BPF_MAP_LOOKUP_AND_DELETE_ELEM", mapLookupAndDelete.toNat),
    ("BPF_MAP_FREEZE", mapFreeze.toNat), ("BPF_MAP_LOOKUP_BATCH", mapLookupBatch.toNat),
    ("BPF_MAP_LOOKUP_AND_DELETE_BATCH", mapLookupAndDeleteBatch.toNat),
    ("BPF_MAP_UPDATE_BATCH", mapUpdateBatch.toNat),
    ("BPF_MAP_DELETE_BATCH", mapDeleteBatch.toNat)]

end Command

namespace ElementFlag

/-- Insert or overwrite. -/
def any : UInt64 := 0
/-- Insert only. -/
def noExist : UInt64 := 1
/-- Overwrite only. -/
def exist : UInt64 := 2
/-- Hold the lock of the value while it is copied. -/
def lock : UInt64 := 4

/-- The element flags by name. -/
def table : List (String × Nat) :=
  [("BPF_ANY", any.toNat), ("BPF_NOEXIST", noExist.toNat), ("BPF_EXIST", exist.toNat),
    ("BPF_F_LOCK", lock.toNat)]

end ElementFlag

namespace MapFlag

/-- A NUMA node was chosen. -/
def numaNode : UInt32 := 4

/-- The map flags by name. -/
def table : List (String × Nat) :=
  [("BPF_F_NO_PREALLOC", 1), ("BPF_F_NO_COMMON_LRU", 2), ("BPF_F_NUMA_NODE", numaNode.toNat),
    ("BPF_F_RDONLY", 8), ("BPF_F_WRONLY", 16), ("BPF_F_RDONLY_PROG", 128),
    ("BPF_F_WRONLY_PROG", 256), ("BPF_F_MMAPABLE", 1024)]

end MapFlag

namespace MapType

/-- Entries under any keys. -/
def hash : UInt32 := 1
/-- Values under the numbers of their places. -/
def array : UInt32 := 2
/-- Programs under the numbers of their places. -/
def progArray : UInt32 := 3
/-- Event streams under the numbers of their places. -/
def perfEventArray : UInt32 := 4
/-- Entries under any keys, with a value for each processor. -/
def perCpuHash : UInt32 := 5
/-- Values under the numbers of their places, one for each processor. -/
def perCpuArray : UInt32 := 6
/-- Entries under any keys, of which those unused for longest give way. -/
def lruHash : UInt32 := 9
/-- Entries that give way, with a value for each processor. -/
def lruPerCpuHash : UInt32 := 10
/-- Entries found by the longest matching start of a key. -/
def lpmTrie : UInt32 := 11
/-- Maps under the numbers of their places. -/
def arrayOfMaps : UInt32 := 12
/-- Maps under any keys. -/
def hashOfMaps : UInt32 := 13
/-- Storage of a control group, with a value for each processor. -/
def perCpuCgroupStorage : UInt32 := 21
/-- Values that come out in the order in which they went in. -/
def queue : UInt32 := 22
/-- Values that come out in the reverse order. -/
def stack : UInt32 := 23
/-- A ring of records. -/
def ringbuf : UInt32 := 27
/-- A set that may hold more than was put into it. -/
def bloomFilter : UInt32 := 30

/-- The map types by name. -/
def table : List (String × Nat) :=
  [("BPF_MAP_TYPE_UNSPEC", 0), ("BPF_MAP_TYPE_HASH", hash.toNat),
    ("BPF_MAP_TYPE_ARRAY", array.toNat), ("BPF_MAP_TYPE_PROG_ARRAY", progArray.toNat),
    ("BPF_MAP_TYPE_PERF_EVENT_ARRAY", perfEventArray.toNat),
    ("BPF_MAP_TYPE_PERCPU_HASH", perCpuHash.toNat),
    ("BPF_MAP_TYPE_PERCPU_ARRAY", perCpuArray.toNat), ("BPF_MAP_TYPE_STACK_TRACE", 7),
    ("BPF_MAP_TYPE_CGROUP_ARRAY", 8), ("BPF_MAP_TYPE_LRU_HASH", lruHash.toNat),
    ("BPF_MAP_TYPE_LRU_PERCPU_HASH", lruPerCpuHash.toNat),
    ("BPF_MAP_TYPE_LPM_TRIE", lpmTrie.toNat),
    ("BPF_MAP_TYPE_ARRAY_OF_MAPS", arrayOfMaps.toNat),
    ("BPF_MAP_TYPE_HASH_OF_MAPS", hashOfMaps.toNat), ("BPF_MAP_TYPE_DEVMAP", 14),
    ("BPF_MAP_TYPE_SOCKMAP", 15), ("BPF_MAP_TYPE_CPUMAP", 16), ("BPF_MAP_TYPE_XSKMAP", 17),
    ("BPF_MAP_TYPE_SOCKHASH", 18), ("BPF_MAP_TYPE_CGROUP_STORAGE", 19),
    ("BPF_MAP_TYPE_REUSEPORT_SOCKARRAY", 20),
    ("BPF_MAP_TYPE_PERCPU_CGROUP_STORAGE", perCpuCgroupStorage.toNat),
    ("BPF_MAP_TYPE_QUEUE", queue.toNat), ("BPF_MAP_TYPE_STACK", stack.toNat),
    ("BPF_MAP_TYPE_SK_STORAGE", 24), ("BPF_MAP_TYPE_DEVMAP_HASH", 25),
    ("BPF_MAP_TYPE_STRUCT_OPS", 26), ("BPF_MAP_TYPE_RINGBUF", ringbuf.toNat),
    ("BPF_MAP_TYPE_INODE_STORAGE", 28), ("BPF_MAP_TYPE_TASK_STORAGE", 29),
    ("BPF_MAP_TYPE_BLOOM_FILTER", bloomFilter.toNat), ("BPF_MAP_TYPE_USER_RINGBUF", 31),
    ("BPF_MAP_TYPE_CGRP_STORAGE", 32), ("BPF_MAP_TYPE_ARENA", 33)]

/-- The short names of the map types that have one. -/
def shortNames : List (UInt32 × String) :=
  [(hash, "hash"), (array, "array"), (progArray, "prog_array"),
    (perfEventArray, "perf_event_array"), (perCpuHash, "percpu_hash"),
    (perCpuArray, "percpu_array"), (lruHash, "lru_hash"), (lruPerCpuHash, "lru_percpu_hash"),
    (lpmTrie, "lpm_trie"), (hashOfMaps, "hash_of_maps"), (arrayOfMaps, "array_of_maps"),
    (queue, "queue"), (stack, "stack"), (ringbuf, "ringbuf"), (bloomFilter, "bloom_filter")]

/-- The short name of a map type, or else its number. -/
def name (mapType : UInt32) : String :=
  (shortNames.lookup mapType).getD (toString mapType)

/-- Whether maps of a type keep a value for each processor. -/
def isPerCpu (mapType : UInt32) : Bool :=
  mapType == perCpuHash || mapType == perCpuArray || mapType == lruPerCpuHash ||
    mapType == perCpuCgroupStorage

end MapType

/-- The error numbers that callers compare with, by name. -/
def errnoTable : List (String × Int) :=
  [("E2BIG", Errno.tooBig.toInt), ("EBADF", Errno.badDescriptor.toInt),
    ("EBUSY", Errno.busy.toInt), ("EEXIST", Errno.alreadyExists.toInt),
    ("EFAULT", Errno.badAddress.toInt), ("EINVAL", Errno.invalid.toInt),
    ("ENOENT", Errno.noEntry.toInt), ("ENOSYS", Errno.noFunction.toInt),
    ("EPERM", Errno.notPermitted.toInt)]

end Abi
end KernelMaps
