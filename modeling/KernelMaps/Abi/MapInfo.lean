import KernelMaps.Abi.MapRecord
import KernelMaps.Text.Utf8

/-!
# Map metadata

The metadata of a map as its clients see it. The leading fields are always there; each of the
others only if the record that the kernel wrote was long enough to hold it.
-/

namespace KernelMaps

/-- The fields of the record that may be missing. -/
inductive InfoField
  | name
  | interface
  | netnsDevice
  | netnsInode
  | btfId
  | btfKeyTypeId
  | btfValueTypeId
  | mapExtra
  deriving DecidableEq, Repr

namespace InfoField

/-- Where a field starts in the record. -/
def offset : InfoField → Nat
  | name => 24
  | interface => 40
  | netnsDevice => 48
  | netnsInode => 56
  | btfId => 64
  | btfKeyTypeId => 68
  | btfValueTypeId => 72
  | mapExtra => 80

/-- The number of bytes of a field. -/
def width : InfoField → Nat
  | name => 16
  | netnsDevice | netnsInode | mapExtra => 8
  | interface | btfId | btfKeyTypeId | btfValueTypeId => 4

/-- The name of a field in the record's layout. -/
def label : InfoField → String
  | name => "name"
  | interface => "ifindex"
  | netnsDevice => "netns_dev"
  | netnsInode => "netns_ino"
  | btfId => "btf_id"
  | btfKeyTypeId => "btf_key_type_id"
  | btfValueTypeId => "btf_value_type_id"
  | mapExtra => "map_extra"

/-- Whether a field lies within the first `length` bytes of the record. -/
def fits (field : InfoField) (length : UInt32) : Bool :=
  field.offset + field.width ≤ length.toNat

/-- The value of a field that lies within the first `length` bytes. -/
def present? (field : InfoField) (length : UInt32) (value : α) : Option α :=
  if field.fits length then some value else none

/-- The offsets are those of the record's layout. -/
theorem lookup_label (field : InfoField) :
    Abi.mapInfo.offsets.lookup field.label = some field.offset := by
  cases field <;> decide

end InfoField

/-- The metadata of a map. -/
structure MapInfo where
  mapType : UInt32 := 0
  id : UInt32 := 0
  keySize : UInt32 := 0
  valueSize : UInt32 := 0
  maxEntries : UInt32 := 0
  mapFlags : UInt32 := 0
  name : Option String := none
  interface : Option UInt32 := none
  netnsDevice : Option UInt64 := none
  netnsInode : Option UInt64 := none
  btfId : Option UInt32 := none
  btfKeyTypeId : Option UInt32 := none
  btfValueTypeId : Option UInt32 := none
  mapExtra : Option UInt64 := none
  /-- How many bytes of the record the kernel wrote. -/
  length : UInt32 := 0
  deriving DecidableEq, Repr

namespace MapInfo

/-- The text of a name that a zero byte ends. -/
def nameOf (bytes : Bytes) : String :=
  Utf8.decode (bytes.takeWhile (· != 0))

/-- The metadata in a record of which the kernel wrote `length` bytes. -/
def ofRecord (record : MapRecord) (length : UInt32) : MapInfo where
  mapType := record.mapType
  id := record.id
  keySize := record.keySize
  valueSize := record.valueSize
  maxEntries := record.maxEntries
  mapFlags := record.mapFlags
  name := InfoField.name.present? length (nameOf record.name)
  interface := InfoField.interface.present? length record.interface
  netnsDevice := InfoField.netnsDevice.present? length record.netnsDevice
  netnsInode := InfoField.netnsInode.present? length record.netnsInode
  btfId := InfoField.btfId.present? length record.btfId
  btfKeyTypeId := InfoField.btfKeyTypeId.present? length record.btfKeyTypeId
  btfValueTypeId := InfoField.btfValueTypeId.present? length record.btfValueTypeId
  mapExtra := InfoField.mapExtra.present? length record.mapExtra
  length := length

end MapInfo
end KernelMaps
