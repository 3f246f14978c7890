import Scripting.Language

/-!
# Canned languages

A language whose compiles answer from a list, whatever they are given: the first compile with the
first outcome, and so on, the last outcome repeating.  It stands in for a compiler wherever only the
answers of one matter.
-/

namespace Scripting.Dialect

/-- one outcome of a compile, for the namespace of the request -/
abbrev CannedOutcome := String → Except BackendFault Answer

structure Canned where
  name : String
  /-- the names that are no identifiers -/
  rejected : List String
  /-- written around the namespace of an import -/
  before : String
  after : String
  outcomes : List CannedOutcome

namespace Canned

/-- an exported method together with what its calls answer -/
structure Method where
  method : Export
  result : Except CallFault Data

/-- a call answers as the first method that equals the one called -/
def callAmong (ms : List Method) (x : Export) (_ : List Data) : Outcome :=
  match ms.find? fun m => m.method == x with
  | some m => ⟨m.result, []⟩
  | none => ⟨.error (.other ("no such method '" ++ x.symbol ++ "'")), []⟩

def unitOf (ms : List Method) : CompiledUnit := ⟨ms.map (·.method), callAmong ms⟩

/-- the outcome of the compile after `n` others; without outcomes, a unit that exports nothing -/
def outcome (c : Canned) (n : Nat) : CannedOutcome :=
  (c.outcomes[n]?.orElse fun _ => c.outcomes.getLast?).getD fun _ => .ok (.success (unitOf []))

def language (c : Canned) : Language where
  name := c.name
  accepts := fun name => !c.rejected.contains name
  importStatement := fun space => c.before ++ space ++ c.after
  compile := fun n r => ⟨c.outcome n r.space, []⟩

end Canned

end Scripting.Dialect
