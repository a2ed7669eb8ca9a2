/-!
# File paths

The directory that a path lies in, and the components of a path. Empty components and single dots
count for nothing, except for a dot at the start.
-/

namespace KernelMaps
namespace FilePath

/-- The separator of path components. -/
def separator : Char :=
  '/'

/-- Drop the separators and single dots with which a reversed path starts. -/
def dropTrailing : List Char → List Char
  | '/' :: rest => dropTrailing rest
  | ['.'] => ['.']
  | '.' :: '/' :: rest => dropTrailing rest
  | text => text

/-- Drop the last component of a reversed path that ends in one. -/
def dropComponent (reversed : List Char) : List Char :=
  reversed.dropWhile (· != separator)

/--
The path without its last component. There is none for the empty path and for the root; a path of
one component leaves the empty path, or the root if it starts there.
-/
def parent? (path : String) : Option String :=
  match dropTrailing path.toList.reverse with
  | [] => none
  | reversed =>
      let rest := dropTrailing (dropComponent reversed)
      if rest.isEmpty && path.toList.head? == some separator then
        some (String.singleton separator)
      else some (String.ofList rest.reverse)

/-- The components of a path; empty ones and single dots do not count. -/
def components (path : String) : List (List Char) :=
  (path.toList.splitOn separator).filter fun component =>
    !component.isEmpty && component != ['.']

end FilePath
end KernelMaps
