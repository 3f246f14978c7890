import Scripting.Diagnostic
import Scripting.Event
import Scripting.Failure
import Scripting.Flags
import Scripting.Name

/-!
# Languages

The seam between a host and the compilers behind it.  A language says which names are identifiers,
how an import is spelled, and what a compile answers.  A compile that ran answers with a report and
perhaps a unit; a unit is a list of exports and a way to call them.
-/

namespace Scripting

/-- everything a compile reads -/
structure Request where
  /-- the whole text, import header included -/
  source : String
  /-- qualifies the modules of the unit -/
  space : String
  /-- the referenced libraries, in order and with repetitions -/
  libraries : List String
  flags : Flags
deriving DecidableEq, Repr, Inhabited

/-- a method that callers may invoke -/
structure Export where
  /-- the module it belongs to -/
  home : QualifiedName
  name : String
  arity : Nat
  /-- what the unit knows it by -/
  symbol : String
deriving DecidableEq, Repr, Inhabited

/-- how a call ended, and what it wrote to the log -/
structure Outcome where
  result : Except CallFault Data
  events : List Event := []

/-- what a successful compile yields -/
structure CompiledUnit where
  exports : List Export
  call : Export → List Data → Outcome

/-- the answer of a compiler that could run -/
structure Answer where
  report : Report
  unit? : Option CompiledUnit

/-- how a compile ended, and what it wrote to the log -/
structure Compilation where
  answer : Except BackendFault Answer
  events : List Event := []

/-- A script dialect with its compiler.  The number given to `compile` counts the compiles before
this one, so that a compiler may answer differently each time. -/
structure Language where
  /-- for display -/
  name : String
  accepts : String → Bool
  /-- the statement that imports a namespace, with its line break -/
  importStatement : String → String
  compile : Nat → Request → Compilation

namespace Answer

/-- an answer without diagnostics -/
def success (u : CompiledUnit) : Answer := ⟨[], some u⟩

/-- an answer without a unit -/
def failure (r : Report) : Answer := ⟨r, none⟩

end Answer

end Scripting
