import KernelMaps.Abi.Layout
import KernelMaps.Bytes

/-!
# The metadata record

The metadata of a map as the kernel writes it: a record of 88 bytes, of which a caller may get
only the start.
-/

namespace KernelMaps

/-- The metadata of a map, field by field. -/
structure MapRecord where
  mapType : UInt32 := 0
  id : UInt32 := 0
  keySize : UInt32 := 0
  valueSize : UInt32 := 0
  maxEntries : UInt32 := 0
  mapFlags : UInt32 := 0
  name : Bytes := Bytes.zeros 16
  interface : UInt32 := 0
  btfVmlinuxValueTypeId : UInt32 := 0
  netnsDevice : UInt64 := 0
  netnsInode : UInt64 := 0
  btfId : UInt32 := 0
  btfKeyTypeId : UInt32 := 0
  btfValueTypeId : UInt32 := 0
  btfVmlinuxId : UInt32 := 0
  mapExtra : UInt64 := 0
  deriving DecidableEq, Repr

namespace MapRecord

/-- The number of bytes of a whole record. -/
def size : Nat :=
  88

/-- The bytes of a 32-bit field. -/
def word (value : UInt32) : Bytes :=
  Bytes.littleEndian 4 value.toNat

/-- The bytes of a 64-bit field. -/
def doubleWord (value : UInt64) : Bytes :=
  Bytes.littleEndian 8 value.toNat

/-- The bytes of a record. -/
def encode (record : MapRecord) : Bytes :=
  word record.mapType ++ word record.id ++ word record.keySize ++ word record.valueSize ++
    word record.maxEntries ++ word record.mapFlags ++ Bytes.fit 16 record.name ++
    word record.interface ++ word record.btfVmlinuxValueTypeId ++
    doubleWord record.netnsDevice ++ doubleWord record.netnsInode ++ word record.btfId ++
    word record.btfKeyTypeId ++ word record.btfValueTypeId ++ word record.btfVmlinuxId ++
    doubleWord record.mapExtra

/-- The 32-bit field at an offset; bytes past the end read zero. -/
def wordAt (offset : Nat) (bytes : Bytes) : UInt32 :=
  UInt32.ofNat (Bytes.ofLittleEndian ((bytes.drop offset).take 4))

/-- The 64-bit field at an offset; bytes past the end read zero. -/
def doubleWordAt (offset : Nat) (bytes : Bytes) : UInt64 :=
  UInt64.ofNat (Bytes.ofLittleEndian ((bytes.drop offset).take 8))

/-- The record that starts with the given bytes and has zeros after them. -/
def decode (bytes : Bytes) : MapRecord where
  mapType := wordAt 0 bytes
  id := wordAt 4 bytes
  keySize := wordAt 8 bytes
  valueSize := wordAt 12 bytes
  maxEntries := wordAt 16 bytes
  mapFlags := wordAt 20 bytes
  name := Bytes.fit 16 (bytes.drop 24)
  interface := wordAt 40 bytes
  btfVmlinuxValueTypeId := wordAt 44 bytes
  netnsDevice := doubleWordAt 48 bytes
  netnsInode := doubleWordAt 56 bytes
  btfId := wordAt 64 bytes
  btfKeyTypeId := wordAt 68 bytes
  btfValueTypeId := wordAt 72 bytes
  btfVmlinuxId := wordAt 76 bytes
  mapExtra := doubleWordAt 80 bytes

@[simp]
theorem encode_length (record : MapRecord) : record.encode.length = size := by
  simp [encode, word, doubleWord, size]

end MapRecord
end KernelMaps
