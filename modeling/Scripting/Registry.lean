import Scripting.Host

/-!
# Registries

The languages a caller may name.  A language may go by several identifiers, and an identifier that
is registered again goes to the later language.  Each registered language has a number of its own,
so that two identifiers can be told to mean the same one.
-/

namespace Scripting

structure Registry where
  entries : List (String × (Nat × Language)) := []
  /-- how many languages were registered -/
  count : Nat := 0

namespace Registry

def register (r : Registry) (aliases : List String) (l : Language) : Registry :=
  ⟨aliases.foldl (fun entries id => Assoc.insert id (r.count, l) entries) r.entries, r.count + 1⟩

def find? (r : Registry) (id : String) : Option (Nat × Language) := Assoc.get? id r.entries

def resolve (r : Registry) (id : String) : Except HostFault Language :=
  match r.find? id with
  | some (_, l) => .ok l
  | none => .error (.unknownLanguage id)

def contains (r : Registry) (id : String) : Bool := (r.find? id).isSome

/-- in ascending order -/
def identifiers (r : Registry) : List String := r.entries.map (·.1)

/-- whether both identifiers mean one language -/
def same (r : Registry) (a b : String) : Bool :=
  match r.find? a, r.find? b with
  | some (m, _), some (n, _) => m == n
  | _, _ => false

/-- the text shown for a registry -/
def display (r : Registry) : String :=
  "LanguageRegistry \x7b identifiers: [" ++ ", ".intercalate (r.identifiers.map Text.quoted) ++
    "] \x7d"

/-- a new host for a language of the registry -/
def host (r : Registry) (language space : String) : Except HostFault (Host × List Event) :=
  (r.resolve language).map fun l => Host.create l language space

end Registry

end Scripting
