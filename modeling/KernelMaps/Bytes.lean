/-!
# Byte strings

Byte strings, and the two ways in which a fixed width meets a buffer of another length: a read
takes exactly the width, and a write covers only the start of a buffer, which may be fresh.
-/

namespace KernelMaps

/-- A byte string. -/
abbrev Bytes := List UInt8

namespace Bytes

/-- A byte string of zeros. -/
def zeros (length : Nat) : Bytes :=
  List.replicate length 0

/-- Read exactly `width` bytes: longer input is cut and shorter input is followed by zeros. -/
def fit (width : Nat) (bytes : Bytes) : Bytes :=
  bytes.take width ++ zeros (width - bytes.length)

/-- Fill up with zeros to a width; longer input is kept as it is. -/
def padded (width : Nat) (bytes : Bytes) : Bytes :=
  bytes ++ zeros (width - bytes.length)

/-- Write at the start of a buffer; the bytes that the write does not reach stay. -/
def overlay (written buffer : Bytes) : Bytes :=
  written ++ buffer.drop written.length

/-- Cut `count` consecutive pieces of one width; past the end the pieces read zeros. -/
def pieces (width : Nat) : Nat → Bytes → List Bytes
  | 0, _ => []
  | count + 1, bytes => fit width bytes :: pieces width count (bytes.drop width)

/-- Write a number into `width` bytes, lowest byte first; what does not fit is dropped. -/
def littleEndian : Nat → Nat → Bytes
  | 0, _ => []
  | width + 1, number => UInt8.ofNat number :: littleEndian width (number / 256)

/-- Read a number whose lowest byte comes first. -/
def ofLittleEndian : Bytes → Nat
  | [] => 0
  | byte :: rest => byte.toNat + 256 * ofLittleEndian rest

/-- How many numbers a width can hold. -/
def capacity : Nat → Nat
  | 0 => 1
  | width + 1 => 256 * capacity width

@[simp]
theorem zeros_length (length : Nat) : (zeros length).length = length := by
  simp [zeros]

@[simp]
theorem fit_length (width : Nat) (bytes : Bytes) : (fit width bytes).length = width := by
  simp only [fit, List.length_append, List.length_take, zeros_length]
  omega

/-- A read at the width of the input is the input. -/
@[simp]
theorem fit_self (bytes : Bytes) : fit bytes.length bytes = bytes := by
  simp [fit, zeros]

/-- A read takes nothing but the width. -/
theorem fit_of_length {width : Nat} {bytes : Bytes} (length : bytes.length = width) :
    fit width bytes = bytes := by
  subst length
  exact fit_self bytes

@[simp]
theorem overlay_nil (buffer : Bytes) : overlay [] buffer = buffer := by
  simp [overlay]

/-- Filling up is writing over zeros. -/
theorem overlay_zeros (bytes : Bytes) (width : Nat) :
    overlay bytes (zeros width) = padded width bytes := by
  simp [overlay, padded, zeros]

theorem padded_length (width : Nat) (bytes : Bytes) :
    (padded width bytes).length = max bytes.length width := by
  simp only [padded, List.length_append, zeros_length]
  omega

/-- Bytes of the width are full already. -/
theorem padded_of_length {width : Nat} {bytes : Bytes} (length : bytes.length = width) :
    padded width bytes = bytes := by
  simp [padded, zeros, length]

@[simp]
theorem pieces_length (width count : Nat) (bytes : Bytes) :
    (pieces width count bytes).length = count := by
  induction count generalizing bytes with
  | zero => rfl
  | succ count ih => simp [pieces, ih]

@[simp]
theorem littleEndian_length (width number : Nat) :
    (littleEndian width number).length = width := by
  induction width generalizing number with
  | zero => rfl
  | succ width ih => simp [littleEndian, ih]

/-- Reading back gives the number, as far as the width holds it. -/
theorem ofLittleEndian_littleEndian (width number : Nat) :
    ofLittleEndian (littleEndian width number) = number % capacity width := by
  induction width generalizing number with
  | zero => simp [littleEndian, ofLittleEndian, capacity, Nat.mod_one]
  | succ width ih =>
      have split : number % (256 * capacity width) =
          number % 256 + 256 * (number / 256 % capacity width) := Nat.mod_mul
      rw [littleEndian, ofLittleEndian, ih, capacity, split, UInt8.toNat_ofNat']

end Bytes
end KernelMaps
