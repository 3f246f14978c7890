import Scripting.Assoc
import Scripting.Fingerprint
import Scripting.Language
import Scripting.Text.Quoted
import Scripting.TypePath

/-!
# Environments

What a host gathers before a compile: the text with its import header, references, global
instances and event sources.  An operation that takes a name asks the language first; a name that it
refuses changes nothing.

The text is a header and a body.  An import goes to the front of the header, so the header lists the
imports in reverse order, and a new body leaves the header as it is.
-/

namespace Scripting

structure Reference where
  name : String
  library : String
deriving DecidableEq, Repr, Inhabited

/-- a host object whose library and namespace a script may use -/
structure EventSource where
  name : String
  path : TypePath
deriving DecidableEq, Repr, Inhabited

/-- the text shown for an event source; the object itself is left out -/
def EventSource.display (s : EventSource) : String :=
  "EventSource \x7b name: " ++ Text.quoted s.name ++ ", type_name: " ++ Text.quoted s.path.name ++
    ", library: " ++ Text.quoted s.path.library ++ ", namespace: " ++
    (match s.path.space with
      | some n => "Some(" ++ Text.quoted n ++ ")"
      | none => "None") ++ ", .. \x7d"

structure Environment where
  language : Language
  flags : Flags
  header : String := ""
  body : String := ""
  references : List Reference := []
  /-- in the order they were added -/
  imports : List String := []
  globals : List (String × Data) := []
  sources : List EventSource := []

namespace Environment

/-- An environment after an operation, whether the operation was accepted, and what it logged. -/
abbrev Change := Environment × Bool × List Event

/-- the text that a compile reads -/
def text (e : Environment) : String := e.header ++ e.body

/-- the referenced libraries, in order and with repetitions -/
def libraries (e : Environment) : List String := e.references.map (·.library)

/-- what a compile reads, digested -/
def fingerprint (e : Environment) : UInt64 := Fingerprint.ofParts (e.text :: e.libraries)

/-- what the environment asks of its language, on behalf of `space` -/
def request (e : Environment) (space : String) : Request := ⟨e.text, space, e.libraries, e.flags⟩

/-- `change` if the language takes `name` for an identifier; otherwise nothing changes -/
def guarded (e : Environment) (operation name : String) (change : Environment × List Event) :
    Change :=
  if e.language.accepts name then (change.1, true, change.2)
  else (e, false, [.rejectedIdentifier operation name e.language.name])

def setBody (e : Environment) (body : String) : Environment := { e with body }

def addImport (e : Environment) (space : String) : Environment × List Event :=
  ({ e with
      header := e.language.importStatement space ++ e.header
      imports := e.imports ++ [space] },
    [.addingImport space])

/-- a reference whose name is taken as it is -/
def refer (e : Environment) (name library : String) : Environment :=
  { e with references := e.references ++ [⟨name, library⟩] }

def addReference (e : Environment) (name library : String) : Change :=
  e.guarded "add_reference" name (e.refer name library, [.addingReference name library])

def addGlobal (e : Environment) (name : String) (object : Data) : Change :=
  e.guarded "add_global_instance" name
    ({ e with globals := Assoc.insert name object e.globals }, [.bindingGlobal name])

/-- removing succeeds whether or not the name was bound -/
def removeGlobal (e : Environment) (name : String) : Change :=
  ({ e with globals := Assoc.erase name e.globals }, true,
    [.removingGlobal name (Assoc.get? name e.globals).isSome])

/-- what the reference of an event source is called -/
def referenceName (name : String) : String := name ++ "Ref"

/-- an accepted event source: a reference to its library, and an import of its namespace if it has
one -/
def declareSource (e : Environment) (name : String) (path : TypePath) :
    Environment × List Event :=
  let e := e.refer (referenceName name) path.library
  let (e, events) := match path.space with
    | some space => e.addImport space
    | none => (e, [])
  ({ e with sources := e.sources ++ [⟨name, path⟩] },
    .addingEventSource name path.name path.library :: events)

def addSource (e : Environment) (name type : String) : Change :=
  e.guarded "add_event_source" name (e.declareSource name (TypePath.describe type))

@[simp] theorem text_setBody (e : Environment) (b : String) :
    (e.setBody b).text = e.header ++ b := rfl

theorem guarded_accepted {e : Environment} {operation name : String}
    {change : Environment × List Event} (h : e.language.accepts name = true) :
    e.guarded operation name change = (change.1, true, change.2) := by simp [guarded, h]

theorem guarded_rejected {e : Environment} {operation name : String}
    {change : Environment × List Event} (h : e.language.accepts name = false) :
    e.guarded operation name change =
      (e, false, [.rejectedIdentifier operation name e.language.name]) := by simp [guarded, h]

end Environment

end Scripting
