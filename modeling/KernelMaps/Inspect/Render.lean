import KernelMaps.Abi.Constants
import KernelMaps.Abi.MapInfo
import KernelMaps.Hex
import KernelMaps.Json

/-!
# Maps as JSON

The metadata of a map and its entries as JSON values. Of the optional metadata, the name is shown
whenever it is known, and the others if they are known and not zero.
-/

namespace KernelMaps

/-- A number in hexadecimal, with its mark. -/
def hexNumeral (number : UInt32) : String :=
  "0x" ++ String.ofList (Nat.toDigits 16 number.toNat)

/-- An optional field, shown if it is known and not zero. -/
def nonzeroField (label : String) (value : Option Nat) : List (String × Json) :=
  match value with
  | none | some 0 => []
  | some number => [(label, .number number)]

/-- The metadata of a map. -/
def MapInfo.toJson (info : MapInfo) : Json :=
  .object
    ([("id", .number info.id.toNat),
      ("type", .text (Abi.MapType.name info.mapType)),
      ("key_size", .number info.keySize.toNat),
      ("value_size", .number info.valueSize.toNat),
      ("max_entries", .number info.maxEntries.toNat),
      ("flags", .text (hexNumeral info.mapFlags))] ++
      (info.name.map fun name => ("name", Json.text name)).toList ++
      nonzeroField "ifindex" (info.interface.map UInt32.toNat) ++
      nonzeroField "btf_id" (info.btfId.map UInt32.toNat) ++
      nonzeroField "map_extra" (info.mapExtra.map UInt64.toNat))

/-- One entry of a map. -/
def entryJson (key value : Bytes) : Json :=
  .object [("key", .text (Hex.encode key)), ("value", .text (Hex.encode value))]

/-- The entries of a map. -/
def entriesJson (entries : List (Bytes × Bytes)) : Json :=
  .array (entries.map fun entry => entryJson entry.1 entry.2)

end KernelMaps
