import KernelMaps.Bytes

/-!
# Record layouts

Records of the kernel interface as lists of members. A member starts at the next multiple of its
width, and a record ends at a multiple of its widest member.
-/

namespace KernelMaps
namespace Abi

/-- A member of a record: a word, or several of one width side by side. -/
structure Member where
  name : String
  width : Nat
  count : Nat := 1
  deriving DecidableEq, Repr

/-- A member that is a 32-bit word. -/
def word (name : String) : Member :=
  ⟨name, 4, 1⟩

/-- A member that is a 64-bit word. -/
def doubleWord (name : String) : Member :=
  ⟨name, 8, 1⟩

/-- A record, as the list of its members in order. -/
abbrev Layout := List Member

namespace Layout

/-- The least multiple of `width` that is not below `position`. -/
def alignUp (position width : Nat) : Nat :=
  (position + width - 1) / width * width

/-- The members with their offsets, the first one not before `position`. -/
def offsetsFrom : Nat → Layout → List (String × Nat)
  | _, [] => []
  | position, member :: rest =>
      let offset := alignUp position member.width
      (member.name, offset) :: offsetsFrom (offset + member.width * member.count) rest

/-- The members with their offsets. -/
def offsets (layout : Layout) : List (String × Nat) :=
  offsetsFrom 0 layout

/-- The end of the last member. -/
def endFrom : Nat → Layout → Nat
  | position, [] => position
  | position, member :: rest =>
      endFrom (alignUp position member.width + member.width * member.count) rest

/-- The size of a record. -/
def size (layout : Layout) : Nat :=
  alignUp (endFrom 0 layout) ((layout.map Member.width).foldl max 1)

end Layout

/-- Creation of a map. -/
def mapCreate : Layout :=
  [word "map_type", word "key_size", word "value_size", word "max_entries", word "map_flags",
    word "inner_map_fd", word "numa_node", ⟨"map_name", 1, 16⟩, word "map_ifindex",
    word "btf_fd", word "btf_key_type_id", word "btf_value_type_id",
    word "btf_vmlinux_value_type_id", doubleWord "map_extra"]

/-- Commands on one element. -/
def mapElement : Layout :=
  [word "map_fd", word "pad0", doubleWord "key", doubleWord "value", doubleWord "flags"]

/-- Commands on a batch of elements. -/
def mapBatch : Layout :=
  [doubleWord "in_batch", doubleWord "out_batch", doubleWord "keys", doubleWord "values",
    word "count", word "map_fd", doubleWord "elem_flags", doubleWord "flags"]

/-- Commands on pinned objects. -/
def object : Layout :=
  [doubleWord "pathname", word "bpf_fd", word "file_flags"]

/-- Commands on identifiers. -/
def identifier : Layout :=
  [word "id", word "next_id", word "open_flags"]

/-- The metadata query. -/
def infoQuery : Layout :=
  [word "bpf_fd", word "info_len", doubleWord "info"]

/-- The metadata of a map. -/
def mapInfo : Layout :=
  [word "map_type", word "id", word "key_size", word "value_size", word "max_entries",
    word "map_flags", ⟨"name", 1, 16⟩, word "ifindex", word "btf_vmlinux_value_type_id",
    doubleWord "netns_dev", doubleWord "netns_ino", word "btf_id", word "btf_key_type_id",
    word "btf_value_type_id", word "btf_vmlinux_id", doubleWord "map_extra"]

/-- The block in which every request travels, before anything is filled in. -/
def blankRequest : Bytes :=
  Bytes.zeros (16 * 8)

example : mapInfo.size = 88 := by decide
example : mapBatch.size = 56 := by decide
example : mapCreate.offsets.lookup "map_extra" = some 64 := by decide

end Abi
end KernelMaps
