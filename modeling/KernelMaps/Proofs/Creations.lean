import KernelMaps.Proofs.Packed
import KernelMaps.Proofs.Targets
import KernelMaps.Proofs.Utf8Text
import Mathlib.Data.List.TakeWhile

/-!
# Creation parameters read back

What a client says about a map when it creates it comes back from the metadata
query. The name passes through a buffer of fixed length, so of a long name only
the start comes back, and a character that was cut is marked.
-/

namespace KernelMaps

/-! ## Names -/

namespace CreateOptions

theorem objectName_length (name : String) :
    (objectName name).length = Abi.nameLength :=
  Bytes.fit_length _ _

/-- Zeros after a name do not belong to it. -/
theorem takeWhile_append_zeros (bytes : Bytes) (count : Nat) :
    (bytes ++ Bytes.zeros count).takeWhile (· != 0) = bytes.takeWhile (· != 0) := by
  have nothing : (Bytes.zeros count).takeWhile (· != 0) = [] := by
    rw [Bytes.zeros, List.takeWhile_replicate]
    rfl
  rw [List.takeWhile_append, nothing, List.append_nil]
  split
  · rename_i all
    exact ((List.takeWhile_prefix _).eq_of_length all).symm
  · rfl

/-- What a client sees of a name is read from the bytes of its characters before
the first zero character, as far as they fit. -/
theorem nameOf_objectName (name : String) :
    MapInfo.nameOf (objectName name) =
      String.ofList (Utf8.decodeFrom none
        ((Utf8.bytesOf (name.toList.takeWhile (· != '\x00'))).take
          (Abi.nameLength - 1))) := by
  have short : ((Utf8.encode name).take (Abi.nameLength - 1)).length ≤
      Abi.nameLength :=
    Nat.le_trans (List.length_take_le _ _) (Nat.sub_le _ _)
  rw [MapInfo.nameOf, Utf8.decode, objectName, Bytes.fit,
    List.take_of_length_le short, takeWhile_append_zeros, ← List.take_takeWhile]
  exact congrArg
    (fun bytes => String.ofList (Utf8.decodeFrom none (bytes.take (Abi.nameLength - 1))))
    (Utf8.takeWhile_bytesOf name.toList)

/-- A name that is cut comes back as its whole characters, and a mark if the cut
falls inside a character. -/
theorem nameOf_objectName_of_cut
    {name : String}
    {whole rest : List Char}
    (cut : Utf8.CutAt (Abi.nameLength - 1) (name.toList.takeWhile (· != '\x00'))
      whole rest) :
    MapInfo.nameOf (objectName name) =
      String.ofList (whole ++ Utf8.cutMark (Abi.nameLength - 1) whole rest) := by
  rw [nameOf_objectName, cut.decodeFrom_take]

example : MapInfo.nameOf (objectName "счётчики") = "счётчик\uFFFD" := by
  decide +kernel

/-- A name without a zero character that fits comes back as it is. -/
theorem nameOf_objectName_of_fits
    {name : String}
    (noZero : '\x00' ∉ name.toList)
    (fits : (Utf8.encode name).length ≤ Abi.nameLength - 1) :
    MapInfo.nameOf (objectName name) = name := by
  have all : name.toList.takeWhile (· != '\x00') = name.toList := by
    rw [List.takeWhile_eq_self_iff]
    intro c member
    refine bne_iff_ne.2 ?_
    rintro rfl
    exact noZero member
  obtain ⟨whole, rest, cut⟩ :=
    Utf8.exists_cutAt (Abi.nameLength - 1) (name.toList.takeWhile (· != '\x00'))
  have complete := cut.of_fits (by rw [all]; exact fits)
  rw [nameOf_objectName_of_cut cut, complete.1, complete.2, all, Utf8.cutMark,
    if_neg (fun both => both.2 rfl), List.append_nil, String.ofList_toList]

/-- Without a name the buffer holds zeros. -/
theorem nameOf_zeros : MapInfo.nameOf (Bytes.zeros Abi.nameLength) = "" := by
  decide +kernel

end CreateOptions

/-! ## The record -/

namespace MapRecord

/-- The name and the interface follow the leading words. -/
theorem encode_eq_leading_append (record : MapRecord) :
    ∃ leading rest : Bytes, leading.length = 24 ∧
      record.encode =
        leading ++ (Bytes.fit 16 record.name ++ (word record.interface ++ rest)) := by
  refine ⟨word record.mapType ++ word record.id ++ word record.keySize ++
    word record.valueSize ++ word record.maxEntries ++ word record.mapFlags,
    word record.btfVmlinuxValueTypeId ++ (doubleWord record.netnsDevice ++
      (doubleWord record.netnsInode ++ (word record.btfId ++
        (word record.btfKeyTypeId ++ (word record.btfValueTypeId ++
          (word record.btfVmlinuxId ++ doubleWord record.mapExtra)))))), ?_, ?_⟩
  · simp [word]
  · simp only [encode, List.append_assoc]

theorem decode_name (record : MapRecord) :
    (decode record.encode).name = Bytes.fit 16 record.name := by
  obtain ⟨leading, rest, width, split⟩ := record.encode_eq_leading_append
  rw [split, decode]
  dsimp only
  rw [List.drop_left' width, Bytes.fit_append (Bytes.fit_length 16 record.name)]

theorem decode_interface (record : MapRecord) :
    (decode record.encode).interface = record.interface := by
  obtain ⟨leading, rest, width, split⟩ := record.encode_eq_leading_append
  have nameWidth := Bytes.fit_length 16 record.name
  rw [split, decode]
  dsimp only
  rw [wordAt, ← List.drop_drop (i := 16) (j := 24), List.drop_left' width,
    List.drop_left' nameWidth]
  exact wordAt_word_append record.interface rest

end MapRecord

namespace Table

/-- Without a limit the name and the interface are shown. -/
theorem infoWithin_none
    {table : Table}
    (nameWidth : table.spec.name.length = Abi.nameLength) :
    (table.infoWithin none).name = some (MapInfo.nameOf table.spec.name) ∧
      (table.infoWithin none).interface = some table.spec.interface := by
  have written : Kernel.infoLength { infoLimit := none } (UInt32.ofNat MapRecord.size) =
      UInt32.ofNat MapRecord.size := by decide +kernel
  have whole : table.record.encode.take (UInt32.ofNat MapRecord.size).toNat =
      table.record.encode :=
    List.take_of_length_le (Nat.le_of_eq table.record.encode_length)
  have name : table.record.name.length = 16 := nameWidth
  rw [infoWithin, written, whole, MapInfo.ofRecord]
  dsimp only
  rw [MapRecord.decode_name, MapRecord.decode_interface, Bytes.fit_of_length name]
  exact ⟨rfl, rfl⟩

end Table

/-! ## Options that are built step by step -/

namespace CreateOptions

/-- What a client may say about a map beside its type and its sizes. -/
inductive Setting
  | name (text : String)
  | mapFlags (flags : UInt32)
  | numaNode (node : UInt32)
  | innerMap (descriptor : Descriptor)
  | interface (index : UInt32)

namespace Setting

def name? : Setting → Option String
  | .name text => some text
  | _ => none

def mapFlags? : Setting → Option UInt32
  | .mapFlags flags => some flags
  | _ => none

def numaNode? : Setting → Option UInt32
  | .numaNode node => some node
  | _ => none

def interface? : Setting → Option UInt32
  | .interface index => some index
  | _ => none

/-- What is given last of one kind. -/
def lastOf (kind : Setting → Option α) (settings : List Setting) : Option α :=
  (settings.filterMap kind).getLast?

theorem lastOf_cons
    (kind : Setting → Option α)
    (setting : Setting)
    (rest : List Setting) :
    lastOf kind (setting :: rest) = (lastOf kind rest).or (kind setting) := by
  cases given : kind setting with
  | none => rw [lastOf, List.filterMap_cons_none given, Option.or_none, lastOf]
  | some value =>
      rw [lastOf, List.filterMap_cons_some given, List.getLast?_cons, lastOf]
      cases (rest.filterMap kind).getLast? <;> rfl

end Setting

/-- The options with one more thing said. -/
def set (options : CreateOptions) : Setting → CreateOptions
  | .name text => options.withName text
  | .mapFlags flags => options.withMapFlags flags
  | .numaNode node => options.withNumaNode node
  | .innerMap descriptor => options.withInnerMap descriptor
  | .interface index => options.withInterface index

/-- The options with several things said, one after the other. -/
def build (options : CreateOptions) (settings : List Setting) : CreateOptions :=
  settings.foldl set options

/-- A field holds what was said last, if each setting changes it to what it says. -/
theorem field_build
    (field : CreateOptions → Option α)
    (kind : Setting → Option α)
    (follows : ∀ options setting,
      field (set options setting) = (kind setting).or (field options))
    (options : CreateOptions)
    (settings : List Setting) :
    field (options.build settings) =
      (Setting.lastOf kind settings).or (field options) := by
  induction settings generalizing options with
  | nil => rfl
  | cons setting rest inductionHypothesis =>
      have built : options.build (setting :: rest) = (options.set setting).build rest := rfl
      rw [built, inductionHypothesis, follows, Setting.lastOf_cons, Option.or_assoc]

section Build

variable (options : CreateOptions) (settings : List Setting)

theorem name_build :
    (options.build settings).name =
      (Setting.lastOf Setting.name? settings).or options.name :=
  field_build CreateOptions.name Setting.name?
    (by rintro options (_ | _ | _ | _ | _) <;> rfl) options settings

theorem numaNode_build :
    (options.build settings).numaNode =
      (Setting.lastOf Setting.numaNode? settings).or options.numaNode :=
  field_build CreateOptions.numaNode Setting.numaNode?
    (by rintro options (_ | _ | _ | _ | _) <;> rfl) options settings

theorem interface_build :
    (options.build settings).interface =
      (Setting.lastOf Setting.interface? settings).or options.interface :=
  field_build CreateOptions.interface Setting.interface?
    (by rintro options (_ | _ | _ | _ | _) <;> rfl) options settings

theorem mapFlags_build :
    (options.build settings).mapFlags =
      (Setting.lastOf Setting.mapFlags? settings).getD options.mapFlags := by
  have given : some (options.build settings).mapFlags =
      (Setting.lastOf Setting.mapFlags? settings).or (some options.mapFlags) :=
    field_build (fun options => some options.mapFlags) Setting.mapFlags?
      (by rintro options (_ | _ | _ | _ | _) <;> rfl) options settings
  cases last : Setting.lastOf Setting.mapFlags? settings <;> rw [last] at given
  · exact Option.some.inj given
  · exact Option.some.inj given

/-- No setting changes the type or the sizes. -/
theorem sizes_build :
    (options.build settings).mapType = options.mapType ∧
      (options.build settings).keySize = options.keySize ∧
      (options.build settings).valueSize = options.valueSize ∧
      (options.build settings).maxEntries = options.maxEntries := by
  induction settings generalizing options with
  | nil => exact ⟨rfl, rfl, rfl, rfl⟩
  | cons setting rest inductionHypothesis =>
      obtain ⟨mapType, keySize, valueSize, maxEntries⟩ :=
        inductionHypothesis (options.set setting)
      cases setting <;> exact ⟨mapType, keySize, valueSize, maxEntries⟩

end Build

theorem spec_name_length (options : CreateOptions) :
    options.spec.name.length = Abi.nameLength := by
  rw [spec]
  cases options.name with
  | none => exact Bytes.zeros_length Abi.nameLength
  | some name => exact objectName_length name

end CreateOptions

/-! ## From creation to the metadata query -/

namespace Kernel

variable
  {kernel : Kernel}
  {options : CreateOptions}

theorem create_error_eq
    {spec : MapSpec}
    {errno : Errno}
    (refused : kernel.create spec = .error errno) :
    errno = Errno.invalid := by
  unfold create at refused
  split at refused
  · exact (Except.error.inj refused).symm
  · split at refused
    · exact (Except.error.inj refused).symm
    · cases refused

/-- A map that is accepted comes last, under the descriptor that comes next. -/
theorem run_create_of_isOk
    (accepted : ((Kernel.host.create options).run kernel).1.isOk = true) :
    (Kernel.host.create options).run kernel =
      (.word kernel.fresh,
        ((kernel.withMap options.spec).handOut kernel.tables.length).2) := by
  rw [Host.create, run_issueStatus, answer] at accepted ⊢
  cases created : kernel.create options.spec with
  | error errno =>
      have invalid : 0 < Errno.invalid := by decide
      rw [created, create_error_eq created] at accepted
      exact absurd accepted
        (Bool.eq_false_iff.1 (Answer.isOk_refuse (.create options.spec) invalid))
  | ok result =>
      obtain ⟨_, rfl⟩ := creatable_of_create created
      rw [← ofOutcome_fresh kernel]
      rfl

/-- The metadata of a map right after its creation. -/
theorem run_info_of_created
    (unlimited : kernel.infoLimit = none)
    (options : CreateOptions) :
    let created := ((kernel.withMap options.spec).handOut kernel.tables.length).2
    let table : Table :=
      { id := UInt32.ofNat (firstId + kernel.tables.length), spec := options.spec }
    (Kernel.host.info kernel.fresh).run created =
      ((.ok, table.infoWithin none), created) := by
  intro created table
  have present : created.tables[kernel.tables.length]? = some table :=
    List.getElem?_concat_length
  have opened : created.resolve kernel.fresh = .ok (kernel.tables.length, table) :=
    resolve_eq_ok_iff.2 ⟨List.lookup_cons_self, present⟩
  have limit : created.infoLimit = none := unlimited
  rw [run_info_resolved opened, limit]

end Kernel

open CreateOptions

/-- The metadata tell what was given last of each kind when the map was created. -/
structure MapInfo.Reports
    (info : MapInfo)
    (mapType keySize valueSize maxEntries : UInt32)
    (settings : List Setting) : Prop where
  mapType : info.mapType = mapType
  keySize : info.keySize = keySize
  valueSize : info.valueSize = valueSize
  maxEntries : info.maxEntries = maxEntries
  /-- The flags are those given, and the NUMA flag if a NUMA node was given, too. -/
  mapFlags : info.mapFlags =
    (Setting.lastOf Setting.mapFlags? settings).getD 0 |||
      (if (Setting.lastOf Setting.numaNode? settings).isSome then Abi.MapFlag.numaNode
        else 0)
  interface : info.interface =
    some ((Setting.lastOf Setting.interface? settings).getD 0)
  /-- Without a name an empty one is shown. -/
  unnamed : Setting.lastOf Setting.name? settings = none → info.name = some ""
  /-- A name is shown up to its first zero character, as far as it fits into 15
  bytes, with a mark if these end inside a character. -/
  named : ∀ name : String, Setting.lastOf Setting.name? settings = some name →
    ∃ whole rest : List Char,
      Utf8.CutAt 15 (name.toList.takeWhile (· != '\x00')) whole rest ∧
        info.name = some (String.ofList (whole ++ Utf8.cutMark 15 whole rest))
  /-- A name of at most 15 bytes without a zero character is shown as it is. -/
  kept : ∀ name : String, Setting.lastOf Setting.name? settings = some name →
    '\x00' ∉ name.toList → (Utf8.encode name).length ≤ 15 → info.name = some name

theorem Table.infoWithin_none_reports
    {mapType keySize valueSize maxEntries : UInt32}
    {settings : List Setting}
    {table : Table}
    (built : table.spec =
      (build { mapType, keySize, valueSize, maxEntries } settings).spec) :
    (table.infoWithin none).Reports mapType keySize valueSize maxEntries settings := by
  let base : CreateOptions := { mapType, keySize, valueSize, maxEntries }
  have leading : Table.WritesLeading none := nofun
  have describes := Table.infoWithin_describes leading table
  have nameWidth : table.spec.name.length = Abi.nameLength := by
    rw [built]
    exact spec_name_length _
  obtain ⟨shownName, shownInterface⟩ := Table.infoWithin_none nameWidth
  obtain ⟨sameType, sameKey, sameValue, sameEntries⟩ := base.sizes_build settings
  have name : (base.build settings).name = Setting.lastOf Setting.name? settings :=
    (base.name_build settings).trans Option.or_none
  have givenName : table.spec.name =
      ((Setting.lastOf Setting.name? settings).map objectName).getD
        (Bytes.zeros Abi.nameLength) := by
    rw [built, ← name]
    rfl
  constructor
  case mapType =>
    rw [describes.mapType, built]
    exact sameType
  case keySize =>
    rw [describes.keySize, built]
    exact sameKey
  case valueSize =>
    rw [describes.valueSize, built]
    exact sameValue
  case maxEntries =>
    rw [describes.maxEntries, built]
    exact sameEntries
  case mapFlags =>
    have node := (base.numaNode_build settings).trans Option.or_none
    have flags := base.mapFlags_build settings
    rw [describes.mapFlags, built]
    change (base.build settings).allFlags = _
    rw [allFlags, node, flags]
    split
    · rfl
    · rw [UInt32.or_zero]
  case interface =>
    have index := (base.interface_build settings).trans Option.or_none
    rw [shownInterface, built]
    change some ((base.build settings).interface.getD 0) = _
    rw [index]
  case unnamed =>
    intro unnamed
    rw [shownName, givenName, unnamed]
    exact congrArg some nameOf_zeros
  case named =>
    intro text given
    obtain ⟨whole, rest, cut⟩ :=
      Utf8.exists_cutAt 15 (text.toList.takeWhile (· != '\x00'))
    refine ⟨whole, rest, cut, ?_⟩
    rw [shownName, givenName, given]
    exact congrArg some (nameOf_objectName_of_cut cut)
  case kept =>
    intro text given noZero fits
    rw [shownName, givenName, given]
    exact congrArg some (nameOf_objectName_of_fits noZero fits)

namespace Kernel

/-- What a client says when it creates a map comes back from the metadata query, in
whatever order it was said. -/
theorem create_reported
    {kernel : Kernel}
    (unlimited : kernel.infoLimit = none)
    (mapType keySize valueSize maxEntries : UInt32)
    (settings : List Setting)
    (accepted :
      ((Kernel.host.create (build { mapType, keySize, valueSize, maxEntries }
        settings)).run kernel).1.isOk = true) :
    let created :=
      (Kernel.host.create (build { mapType, keySize, valueSize, maxEntries }
        settings)).run kernel
    ∃ (descriptor : Descriptor) (info : MapInfo), created.1.value = .ok descriptor ∧
      (Kernel.host.info descriptor).run created.2 = ((.ok, info), created.2) ∧
        info.Reports mapType keySize valueSize maxEntries settings := by
  intro created
  have made := run_create_of_isOk accepted
  change created = _ at made
  rw [made]
  exact ⟨kernel.fresh, _, rfl, run_info_of_created unlimited _,
    Table.infoWithin_none_reports rfl⟩

theorem create_reported_twoNames :
    let settings : List Setting :=
      [.numaNode 1, .name "unused", .mapFlags 1, .name "счётчики", .interface 3]
    let created :=
      (Kernel.host.create (build
        { mapType := 1, keySize := 4, valueSize := 8, maxEntries := 2 }
        settings)).run ({} : Kernel)
    ∃ (descriptor : Descriptor) (info : MapInfo), created.1.value = .ok descriptor ∧
      (Kernel.host.info descriptor).run created.2 = ((.ok, info), created.2) ∧
        info.Reports 1 4 8 2 settings ∧ info.mapFlags = 5 := by
  intro settings created
  have unlimited : ({} : Kernel).infoLimit = none := rfl
  obtain ⟨descriptor, info, carried, queried, reports⟩ :=
    create_reported unlimited 1 4 8 2 settings (by decide +kernel)
  exact ⟨descriptor, info, carried, queried, reports, reports.mapFlags.trans (by decide)⟩

end Kernel
end KernelMaps
