import Scripting.Library.Space

/-!
# Libraries and catalogs

A library is what a host refers to by its name; it contributes namespaces.  A catalog knows
libraries by their names, of two with one name the one that was inserted later.
-/

namespace Scripting.Library

/-- a library with its namespaces, in order and with repetitions -/
structure Bundle where
  name : String
  spaces : List (String × Space)
deriving Inhabited

abbrev Catalog := List (String × Bundle)

namespace Catalog

def empty : Catalog := []

def get? (c : Catalog) (name : String) : Option Bundle := Assoc.get? name c

def contains (c : Catalog) (name : String) : Bool := (c.get? name).isSome

/-- the catalog with one more library, and the library that it replaces -/
def insert (c : Catalog) (b : Bundle) : Catalog × Option Bundle :=
  (Assoc.insert b.name b c, c.get? b.name)

def size (c : Catalog) : Nat := c.length

def insertAll (c : Catalog) (bundles : List Bundle) : Catalog :=
  bundles.foldl (fun c b => (c.insert b).1) c

end Catalog

/-! ## The libraries that come with a host -/

def system : Bundle := ⟨"system", [("System", ⟨[], [.version, .lookup, .millis]⟩)]⟩

def forms : Bundle := ⟨"forms", [("Forms", ⟨[], [.messageBox, .status]⟩)]⟩

def drawing : Bundle :=
  ⟨"drawing", [("Drawing", ⟨[("BLACK", .int Colour.black), ("WHITE", .int Colour.white)],
    [.pack, .red, .green, .blue]⟩)]⟩

def xml : Bundle := ⟨"xml", [("Xml", ⟨[], [.escape, .unescape]⟩)]⟩

def Catalog.standard : Catalog := Catalog.empty.insertAll [system, forms, drawing, xml]

end Scripting.Library
