/-!
# Diagnostics

What a compile reports about a script.  Rows and columns count from one, and zero stands for an
unknown place.  A compile succeeds only if it reports nothing at all, so a warning counts against it
as much as an error does.
-/

namespace Scripting

inductive Severity where
  | error | warning | info
deriving DecidableEq, Repr, Inhabited

def Severity.label : Severity → String
  | .error => "error"
  | .warning => "warning"
  | .info => "info"

structure Diagnostic where
  severity : Severity
  message : String
  /-- the part of the source it speaks of -/
  part : Option String := none
  row : Nat := 0
  col : Nat := 0
deriving DecidableEq, Repr, Inhabited

namespace Diagnostic

def isError (d : Diagnostic) : Bool := d.severity == .error

def display (d : Diagnostic) : String :=
  (match d.part with
    | some p => p ++ ":"
    | none => "") ++
  toString d.row ++ ":" ++ toString d.col ++ ": " ++ d.severity.label ++ ": " ++ d.message

/-- an error in a part of the source -/
def errorAt (part : String) (row col : Nat) (message : String) : Diagnostic :=
  ⟨.error, message, some part, row, col⟩

end Diagnostic

/-- the diagnostics of one compile, in the order they were reported -/
abbrev Report := List Diagnostic

namespace Report

def errors (r : Report) : Report := r.filter Diagnostic.isError

/-- one line for each diagnostic -/
def display (r : Report) : String := String.join (r.map fun d => d.display ++ "\n")

end Report

end Scripting
