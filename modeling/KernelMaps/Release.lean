import KernelMaps.Text.Numeral

/-!
# Kernel releases

The numbers at the start of a release such as `6.8.0-45-generic`, in their numeric order, and the
text that names a library version together with the running kernel.
-/

namespace KernelMaps

/-- The three numbers of a kernel release. -/
structure Release where
  major : UInt32
  minor : UInt32
  patch : UInt32
  deriving DecidableEq, Repr

namespace Release

/-- The greatest number of a 32-bit word. -/
def wordLimit : Nat :=
  UInt32.size - 1

/-- A character of the dotted numbers. -/
def isNumeric (c : Char) : Bool :=
  c.isDigit || c == '.'

/-- Read one number of a release. -/
def readNumber? (numeral : List Char) : Option UInt32 :=
  match Text.Numeral.read wordLimit numeral with
  | .ok number => some (UInt32.ofNat number)
  | .error _ => none

/-- The numbers between the dots: two are needed, and a third that cannot be read counts as zero. -/
def ofParts? : List (List Char) → Option Release
  | major :: minor :: rest => do
      let major ← readNumber? major
      let minor ← readNumber? minor
      some ⟨major, minor, (rest.head?.bind readNumber?).getD 0⟩
  | _ => none

/-- Read the dotted numbers at the start of a release. -/
def parse (release : String) : Option Release :=
  ofParts? ((release.toList.takeWhile isNumeric).splitOn '.')

/-- The dotted form. -/
def toText (release : Release) : String :=
  toString release.major ++ "." ++ toString release.minor ++ "." ++ toString release.patch

/-- The numeric order, the major number first. -/
def order (left right : Release) : Ordering :=
  (compare left.major right.major).then
    ((compare left.minor right.minor).then (compare left.patch right.patch))

end Release

/-- The version of a library. -/
structure Version where
  library : String
  number : String
  deriving DecidableEq, Repr

namespace Version

/-- The version of the map library. -/
def current : Version :=
  ⟨"bpfmap", "0.1.0"⟩

/-- A version beside the text for the running kernel. -/
def beside (version : Version) (kernel : String) : String :=
  version.library ++ " " ++ version.number ++ " (kernel " ++ kernel ++ ")"

/-- A version beside the running kernel, which may be unknown. -/
def toText (version : Version) (kernel : Option Release) : String :=
  version.beside (kernel.elim "unknown" Release.toText)

end Version

/-- The library beside the kernel that it runs on. -/
structure Running where
  version : Version
  /-- The release of the kernel, empty if it cannot be told. -/
  kernelRelease : String
  kernel : Option Release
  deriving DecidableEq, Repr

namespace Running

/-- The library on a kernel of the given release. -/
def ofRelease (release : String) : Running :=
  ⟨.current, release, Release.parse release⟩

/-- What to call the kernel. -/
def kernelText (running : Running) : String :=
  running.kernel.elim "unknown" Release.toText

end Running
end KernelMaps
