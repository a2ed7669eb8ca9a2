import KernelMaps.Proofs.Invariant
import KernelMaps.Proofs.Metadata

/-!
# Records that are cut short

A kernel may write only the start of a map's record. What a client is shown then is
a part of what the whole record shows: a field is there if and only if its last byte
was written, and nothing that is there changes when more of the record is written.
-/

namespace KernelMaps

/-- Where the member of a record ends that has a name. -/
def Abi.Layout.endOf? (layout : Layout) (name : String) : Option Nat := do
  let offset ← layout.offsets.lookup name
  let member ← layout.find? fun member => member.name == name
  some (offset + member.width * member.count)

namespace InfoField

/-- A field ends where the member of the record's layout does. -/
theorem endOf?_label (field : InfoField) :
    Abi.mapInfo.endOf? field.label = some (field.offset + field.width) := by
  cases field <;> decide

theorem fits_iff (field : InfoField) (length : UInt32) :
    field.fits length = true ↔ field.offset + field.width ≤ length.toNat :=
  decide_eq_true_iff

theorem isSome_present? (field : InfoField) (length : UInt32) (value : α) :
    (field.present? length value).isSome ↔ field.fits length = true := by
  rw [present?]
  split <;> simp [*]

theorem present?_eq_some_iff
    {field : InfoField}
    {length : UInt32}
    {value shown : α} :
    field.present? length value = some shown ↔
      field.fits length = true ∧ value = shown := by
  rw [present?]
  split <;> simp [*]

theorem map_present? (f : α → β) (field : InfoField) (length : UInt32) (value : α) :
    (field.present? length value).map f = field.present? length (f value) := by
  rw [present?, present?]
  split <;> rfl

end InfoField

/-! ## Fields by name -/

/-- What a field holds: a text or a number. -/
inductive InfoValue
  | text (value : String)
  | number (value : UInt64)
  deriving DecidableEq, Repr

/-- What a record holds in a field. -/
def MapRecord.value (record : MapRecord) : InfoField → InfoValue
  | .name => .text (MapInfo.nameOf record.name)
  | .interface => .number record.interface.toUInt64
  | .netnsDevice => .number record.netnsDevice
  | .netnsInode => .number record.netnsInode
  | .btfId => .number record.btfId.toUInt64
  | .btfKeyTypeId => .number record.btfKeyTypeId.toUInt64
  | .btfValueTypeId => .number record.btfValueTypeId.toUInt64
  | .mapExtra => .number record.mapExtra

namespace MapInfo

/-- What the metadata show of a field, if it is there. -/
def value? (info : MapInfo) : InfoField → Option InfoValue
  | .name => info.name.map .text
  | .interface => info.interface.map fun index => .number index.toUInt64
  | .netnsDevice => info.netnsDevice.map .number
  | .netnsInode => info.netnsInode.map .number
  | .btfId => info.btfId.map fun id => .number id.toUInt64
  | .btfKeyTypeId => info.btfKeyTypeId.map fun id => .number id.toUInt64
  | .btfValueTypeId => info.btfValueTypeId.map fun id => .number id.toUInt64
  | .mapExtra => info.mapExtra.map .number

/-- The words that the metadata always show. -/
def leading (info : MapInfo) : List UInt32 :=
  [info.mapType, info.id, info.keySize, info.valueSize, info.maxEntries, info.mapFlags]

/-- A field of a record is shown if it lies within the bytes that were written. -/
theorem value?_ofRecord (record : MapRecord) (length : UInt32) (field : InfoField) :
    (ofRecord record length).value? field =
      field.present? length (record.value field) := by
  cases field <;> exact InfoField.map_present? _ _ _ _

theorem Describes.leading_eq
    {info other : MapInfo}
    {table : Table}
    (describes : info.Describes table)
    (otherDescribes : other.Describes table) :
    info.leading = other.leading := by
  rw [leading, leading, describes.mapType, describes.id, describes.keySize,
    describes.valueSize, describes.maxEntries, describes.mapFlags,
    otherDescribes.mapType, otherDescribes.id, otherDescribes.keySize,
    otherDescribes.valueSize, otherDescribes.maxEntries, otherDescribes.mapFlags]

end MapInfo

/-! ## What is cut off -/

namespace MapRecord

theorem doubleWordAt_take
    {offset length : Nat}
    (fits : offset + 8 ≤ length)
    (bytes : Bytes) :
    doubleWordAt offset (bytes.take length) = doubleWordAt offset bytes := by
  rw [doubleWordAt, doubleWordAt, Bytes.take_drop_take fits]

/-- A read of a fixed width sees nothing of what is cut off behind it. -/
theorem fit_drop_take
    {offset width length : Nat}
    (fits : offset + width ≤ length)
    (bytes : Bytes) :
    Bytes.fit width ((bytes.take length).drop offset) =
      Bytes.fit width (bytes.drop offset) := by
  have missing : width - ((bytes.take length).drop offset).length =
      width - (bytes.drop offset).length := by
    rw [List.length_drop, List.length_take, List.length_drop]
    omega
  rw [Bytes.fit, Bytes.fit, Bytes.take_drop_take fits, missing]

/-- A field that lies within the bytes that are kept is kept. -/
theorem value_decode_take
    {field : InfoField}
    {length : Nat}
    (fits : field.offset + field.width ≤ length)
    (bytes : Bytes) :
    (decode (bytes.take length)).value field = (decode bytes).value field := by
  cases field with
  | name =>
      exact congrArg (fun name => InfoValue.text (MapInfo.nameOf name))
        (fit_drop_take fits bytes)
  | netnsDevice | netnsInode | mapExtra =>
      exact congrArg InfoValue.number (doubleWordAt_take fits bytes)
  | interface | btfId | btfKeyTypeId | btfValueTypeId =>
      exact congrArg (fun word => InfoValue.number word.toUInt64)
        (wordAt_take fits bytes)

end MapRecord

/-! ## The metadata under a limit -/

/-- How many bytes of a record a limit admits. -/
def roomWithin (limit : Option UInt32) : Nat :=
  limit.elim MapRecord.size UInt32.toNat

/-- The metadata show no more than the first bytes of a record of 88 bytes, as many
as there is room for, and show of these all that the metadata of a whole record do. -/
structure MapInfo.CutTo (info : MapInfo) (room : Nat) (whole : MapInfo) : Prop where
  length : info.length.toNat = min room 88
  /-- A field is shown if and only if it ends within the bytes that were written. -/
  isSome_iff : ∀ field : InfoField, ∃ stop : Nat,
    Abi.mapInfo.endOf? field.label = some stop ∧
      ((info.value? field).isSome ↔ stop ≤ info.length.toNat)
  same : ∀ (field : InfoField) (value : InfoValue),
    info.value? field = some value → whole.value? field = some value
  leading : 24 ≤ room → info.leading = whole.leading

/-- What the metadata show is shown by others, too. -/
structure MapInfo.ShownIn (info other : MapInfo) : Prop where
  leading : info.leading = other.leading
  fields : ∀ (field : InfoField) (value : InfoValue),
    info.value? field = some value → other.value? field = some value

namespace Table

theorem length_infoWithin (table : Table) (limit : Option UInt32) :
    (table.infoWithin limit).length.toNat = min (roomWithin limit) 88 := by
  have written : (table.infoWithin limit).length =
      min (min 88 88) (limit.getD 88) := rfl
  rw [written, Std.min_self, Nat.min_comm]
  cases limit with
  | none => rfl
  | some limit => exact UInt32.toNat_min 88 limit

/-- What is shown of a table under a limit is read from its whole record. -/
theorem value?_infoWithin (table : Table) (limit : Option UInt32) (field : InfoField) :
    (table.infoWithin limit).value? field =
      field.present? (table.infoWithin limit).length
        ((MapRecord.decode table.record.encode).value field) := by
  have shown := MapInfo.value?_ofRecord
    (MapRecord.decode (table.record.encode.take (table.infoWithin limit).length.toNat))
    (table.infoWithin limit).length field
  refine shown.trans ?_
  rw [InfoField.present?, InfoField.present?]
  split
  · rename_i fits
    rw [MapRecord.value_decode_take ((field.fits_iff _).1 fits)]
  · rfl

theorem isSome_value?_infoWithin
    (table : Table)
    (limit : Option UInt32)
    (field : InfoField) :
    ((table.infoWithin limit).value? field).isSome ↔
      field.offset + field.width ≤ (table.infoWithin limit).length.toNat := by
  rw [value?_infoWithin, InfoField.isSome_present?, InfoField.fits_iff]

/-- If more bytes are written a field is still shown, and with the same value. -/
theorem value?_infoWithin_mono
    {table : Table}
    {smaller larger : Option UInt32}
    (grows : min (roomWithin smaller) 88 ≤ min (roomWithin larger) 88)
    {field : InfoField}
    {value : InfoValue}
    (shown : (table.infoWithin smaller).value? field = some value) :
    (table.infoWithin larger).value? field = some value := by
  rw [value?_infoWithin, InfoField.present?_eq_some_iff, InfoField.fits_iff,
    length_infoWithin] at shown ⊢
  exact ⟨Nat.le_trans shown.1 grows, shown.2⟩

theorem writesLeading_of_room
    {limit : Option UInt32}
    (room : 24 ≤ roomWithin limit) :
    WritesLeading limit := by
  rintro length rfl
  exact UInt32.le_iff_toNat_le.2 room

theorem leading_infoWithin
    {smaller larger : Option UInt32}
    (room : 24 ≤ roomWithin smaller)
    (grows : roomWithin smaller ≤ roomWithin larger)
    (table : Table) :
    (table.infoWithin smaller).leading = (table.infoWithin larger).leading := by
  have describes := infoWithin_describes (writesLeading_of_room room) table
  have largerRoom := Nat.le_trans room grows
  exact describes.leading_eq (infoWithin_describes (writesLeading_of_room largerRoom) table)

theorem infoWithin_cutTo (table : Table) (limit : Option UInt32) :
    (table.infoWithin limit).CutTo (roomWithin limit) (table.infoWithin none) where
  length := table.length_infoWithin limit
  isSome_iff := fun field =>
    ⟨field.offset + field.width, field.endOf?_label,
      table.isSome_value?_infoWithin limit field⟩
  same := fun _ _ => value?_infoWithin_mono (Nat.min_le_right _ _)
  leading := by
    intro room
    have describes := infoWithin_describes (writesLeading_of_room room) table
    have whole : WritesLeading none := nofun
    exact describes.leading_eq (infoWithin_describes whole table)

end Table

namespace Kernel

/-- The metadata query succeeds however little of the record the kernel writes. It
tells how much that is, shows exactly the fields that were written whole, with the
values that the whole record has, and with more room it shows the same and more. -/
theorem info_cut_short
    {kernel : Kernel}
    {descriptor : Descriptor}
    {place : Nat}
    {table : Table}
    (opened : kernel.resolve descriptor = .ok (place, table)) :
    let limited := fun limit : Option UInt32 => kernel.after (.limitInfo limit)
    let asked := fun limit => (Kernel.host.info descriptor).run (limited limit)
    let shown := fun limit => (asked limit).1.2
    (∀ limit, asked limit = ((.ok, shown limit), limited limit)) ∧
      (∀ limit, (shown limit).CutTo (roomWithin limit) (shown none)) ∧
      ∀ smaller larger, 24 ≤ roomWithin smaller →
        roomWithin smaller ≤ roomWithin larger →
        (shown smaller).ShownIn (shown larger) := by
  intro limited asked shown
  have queried : ∀ limit, asked limit = ((.ok, table.infoWithin limit), limited limit) := by
    intro limit
    have stillOpen : (limited limit).resolve descriptor = .ok (place, table) := opened
    exact run_info_resolved stillOpen
  have told : ∀ limit, shown limit = table.infoWithin limit := by
    intro limit
    exact congrArg (fun result => result.1.2) (queried limit)
  refine ⟨?succeeds, ?cut, ?grows⟩
  case succeeds =>
    intro limit
    rw [told]
    exact queried limit
  case cut =>
    intro limit
    rw [told, told]
    exact table.infoWithin_cutTo limit
  case grows =>
    intro smaller larger room grows
    rw [told, told]
    have written : min (roomWithin smaller) 88 ≤ min (roomWithin larger) 88 := by omega
    exact ⟨Table.leading_infoWithin room grows table,
      fun _ _ => Table.value?_infoWithin_mono written⟩

/-- A map with a name on a network interface. -/
def namedTable : Table where
  id := 1000
  spec :=
    { mapType := 1, keySize := 4, valueSize := 8, maxEntries := 2
      name := Bytes.fit 16 [97, 98], interface := 3 }

/-- The map with a name is open under one descriptor. -/
def named : Kernel :=
  ({} : Kernel).run [.call (.create namedTable.spec)]

/-- A limit inside of the device number, and one inside of the inode number. -/
theorem info_cut_short_named :
    named.resolve 101 = .ok (0, namedTable) ∧
      ∃ shorter longer whole : MapInfo,
        (Kernel.host.info 101).run (named.after (.limitInfo (some 55))) =
            ((.ok, shorter), named.after (.limitInfo (some 55))) ∧
          shorter.CutTo 55 whole ∧ longer.CutTo 60 whole ∧ shorter.ShownIn longer ∧
          shorter.interface = some 3 ∧ shorter.netnsDevice = none ∧
          longer.netnsDevice = some 4 ∧ longer.netnsInode = none ∧
          whole.netnsInode = some 4026531840 := by
  have opened : named.resolve 101 = .ok (0, namedTable) := by decide +kernel
  obtain ⟨succeeds, cut, grows⟩ := info_cut_short opened
  exact ⟨opened, _, _, _, succeeds (some 55), cut (some 55), cut (some 60),
    grows (some 55) (some 60) (by decide) (by decide), by decide +kernel,
    by decide +kernel, by decide +kernel, by decide +kernel, by decide +kernel⟩

end Kernel
end KernelMaps
