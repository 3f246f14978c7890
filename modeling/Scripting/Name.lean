import Scripting.Text.Split
import Scripting.Text.Lowercase

/-!
# Qualified names

The name of a module inside a namespace.  In text the segments stand between dots, and segments
without characters do not count.  Modules are looked up by `QualifiedName.key`, the lower case of
the whole text.
-/

namespace Scripting

structure QualifiedName where
  name : String
  path : List String
deriving DecidableEq, Repr, Inhabited

namespace QualifiedName

/-- the segments of a dotted text that are not empty -/
def segments (s : String) : List String :=
  (Text.segmentsOn '.' s.toList).map String.ofList

/-- the module `name` in the namespace that a dotted text spells -/
def inNamespace (space name : String) : QualifiedName := ⟨name, segments space⟩

/-- a name outside every namespace -/
def global (name : String) : QualifiedName := ⟨name, []⟩

/-- the last segment is the name and those before it are the namespace -/
def ofSegments : List String → QualifiedName
  | [] => global ""
  | [s] => global s
  | s :: rest => let q := ofSegments rest; ⟨q.name, s :: q.path⟩

def ofText (s : String) : QualifiedName := ofSegments (segments s)

def pathText (q : QualifiedName) : String := ".".intercalate q.path

def display (q : QualifiedName) : String :=
  if q.path.isEmpty then q.name else q.pathText ++ "." ++ q.name

/-- what two spellings of one module share -/
def key (q : QualifiedName) : String := Text.lowercase q.display

def isGlobal (q : QualifiedName) : Bool := q.path.isEmpty

@[simp] theorem inNamespace_name (space name : String) : (inNamespace space name).name = name := rfl
@[simp] theorem inNamespace_path (space name : String) :
    (inNamespace space name).path = segments space := rfl

theorem ofSegments_cons_cons (s t : String) (l : List String) :
    ofSegments (s :: t :: l) = ⟨(ofSegments (t :: l)).name, s :: (ofSegments (t :: l)).path⟩ := rfl

end QualifiedName

end Scripting
