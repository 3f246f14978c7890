import Scripting.Text.Split

/-!
# Type paths

The path of a type is its segments between double colons, perhaps followed by type arguments in
angle brackets.  The last segment names the type, the first one the library that declares it, and
all but the last the namespace.  A type without a path belongs to the library `std`.
-/

namespace Scripting

/-- what a path says of a type -/
structure TypePath where
  name : String
  library : String
  space : Option String
deriving DecidableEq, Repr, Inhabited

namespace TypePath

/-- the library of types that stand in no path -/
def builtinLibrary : String := "std"

/-- a text without its type arguments -/
def plain (path : List Char) : List Char := path.takeWhile (· != '<')

/-- the pieces between double colons; `acc` holds the piece being read, the last character first -/
def piecesFrom (acc : List Char) : List Char → List (List Char)
  | ':' :: ':' :: cs => acc.reverse :: piecesFrom [] cs
  | c :: cs => piecesFrom (c :: acc) cs
  | [] => [acc.reverse]

/-- the segments that are not empty -/
def segments (path : List Char) : List String :=
  ((piecesFrom [] path).filter fun piece => !piece.isEmpty).map String.ofList

/-- what a path without type arguments says, from its segments -/
def ofSegments (whole : String) : List String → TypePath
  | [] => ⟨whole, builtinLibrary, none⟩
  | [name] => ⟨name, builtinLibrary, none⟩
  | library :: second :: rest =>
    ⟨(second :: rest).getLastD second, library,
      some (".".intercalate (library :: (second :: rest).dropLast))⟩

def describe (path : String) : TypePath :=
  let cs := plain path.toList
  ofSegments (String.ofList cs) (segments cs)

theorem describe_of_segments (path : String) :
    describe path = ofSegments (String.ofList (plain path.toList)) (segments (plain path.toList)) :=
  rfl

end TypePath

end Scripting
