import Scripting.Failure
import Scripting.Script.Token
import Scripting.Script.Value

/-!
# Faults of a running script

A fault is raised at a place, or at none, and wrapped once for each function that it leaves on its
way out (`Fault.inCall`).  The function that the host called may or may not be among these;
`Fault.frames` adds it if the outermost wrapping is not for a function of its name.
-/

namespace Scripting.Script

/-- what an index counts the parts of -/
inductive Sequence where
  | array | text | bits
deriving DecidableEq, Repr, Inhabited

/-- why a script stops -/
inductive Cause where
  | thrown (v : Value)
  /-- a text that was to be compiled at run time does not parse -/
  | parsing (kind : String)
  | noFunction (signature : String)
  | noVariable (name : String)
  | noModule (path : String)
  | noProperty (name : String)
  | unknownProperty (text : String)
  | arithmetic (text : String)
  | indexOutOfBounds (what : Sequence) (index : Int) (length : Nat)
  | wrongType (actual expected : String)
  | notIterable
  | notIndexable (typeName : String)
  /-- an assignment to the constant of that name -/
  | constant (name : String)
  /-- a method that would change the constant that it is called on -/
  | constantMethod (name : String)
  | noPlace
  | tooManyOperations
  | stackOverflow
  | tooLarge (what : String)
  | tooManyVariables
  | tooManyModules
  /-- the bound on the length of a run was met -/
  | exhausted
deriving Inhabited, BEq

namespace Sequence

def name : Sequence → String
  | array => "array"
  | text => "string"
  | bits => "bit-field"

def capitalised : Sequence → String
  | array => "Array"
  | text => "String"
  | bits => "Bit-field"

/-- so many parts, in words -/
def parts (s : Sequence) (length : Nat) : String :=
  let part := match s with
    | array => "element"
    | text => "character"
    | bits => "bit"
  toString length ++ " " ++ part ++ (if length = 1 then "" else "s")

/-- how many parts there are to choose from, in words -/
def bounds (s : Sequence) (length : Nat) : String :=
  if length = 0 then s.name ++ " is empty" else "only " ++ s.parts length ++ " in " ++ s.name

end Sequence

namespace Cause

/-- what is said of a cause, wherever it arose -/
def text : Cause → String
  | thrown v => v.shown
  | parsing kind => "Syntax error: " ++ kind
  | noFunction signature => "Function not found: " ++ signature
  | noVariable name => "Variable not found: " ++ name
  | noModule path => "Module not found: " ++ path
  | noProperty name => "Property not found: " ++ name
  | unknownProperty t => t
  | arithmetic t => t
  | indexOutOfBounds what index length =>
      what.capitalised ++ " index " ++ toString index ++ " out of bounds: " ++ what.bounds length
  | wrongType actual expected =>
      "Data type incorrect: " ++ actual ++ " (expecting " ++ expected ++ ")"
  | notIterable => "For loop expects iterable type"
  | notIndexable typeName => "Indexer unavailable: " ++ typeName
  | constant name => "Cannot modify constant " ++ name
  | constantMethod name => "Non-pure method '" ++ name ++ "' cannot be called on constant"
  | noPlace => "Expression cannot be assigned to"
  | tooManyOperations => "Too many operations"
  | stackOverflow => "Stack overflow"
  | tooLarge what => what ++ " too large"
  | tooManyVariables => "Too many variables defined"
  | tooManyModules => "Too many modules imported"
  | exhausted => "Script terminated"

/-- the name of the kind of a cause, for scripts that catch it -/
def kind : Cause → String
  | thrown _ => "ErrorRuntime"
  | parsing _ => "ErrorParsing"
  | noFunction _ => "ErrorFunctionNotFound"
  | noVariable _ => "ErrorVariableNotFound"
  | noModule _ => "ErrorModuleNotFound"
  | noProperty _ => "ErrorPropertyNotFound"
  | unknownProperty _ => "ErrorDotExpr"
  | arithmetic _ => "ErrorArithmetic"
  | indexOutOfBounds .array .. => "ErrorArrayBounds"
  | indexOutOfBounds .text .. => "ErrorStringBounds"
  | indexOutOfBounds .bits .. => "ErrorBitFieldBounds"
  | wrongType .. => "ErrorMismatchDataType"
  | notIterable => "ErrorFor"
  | notIndexable _ => "ErrorIndexingType"
  | constant _ => "ErrorAssignmentToConstant"
  | constantMethod _ => "ErrorNonPureMethodCallOnConstant"
  | noPlace => "ErrorDotExpr"
  | tooManyOperations => "ErrorTooManyOperations"
  | stackOverflow => "ErrorStackOverflow"
  | tooLarge _ => "ErrorDataTooLarge"
  | tooManyVariables => "ErrorTooManyVariables"
  | tooManyModules => "ErrorTooManyModules"
  | exhausted => "ErrorTerminated"

/-- what a script that catches the cause learns of it besides its kind and text -/
def details : Cause → List (String × Value)
  | noFunction name | constantMethod name => [("function", .text name)]
  | noVariable name | noProperty name | constant name => [("variable", .text name)]
  | noModule path => [("module", .text path)]
  | unknownProperty t => [("property", .text t)]
  | indexOutOfBounds _ index length => [("index", .int index), ("length", .int length)]
  | wrongType actual expected => [("actual", .text actual), ("requested", .text expected)]
  | notIndexable typeName => [("type", .text typeName)]
  | _ => []

/-- whether a limit was met: then no script can catch the cause, and no call wraps it -/
def isLimit : Cause → Bool
  | tooManyOperations | stackOverflow | tooLarge _ | tooManyVariables | tooManyModules
  | exhausted => true
  | _ => false

end Cause

inductive Fault where
  | raised (cause : Cause) (pos : Option Pos)
  /-- a fault that left the function `name`, which was called at `pos` -/
  | inCall (name : String) (inner : Fault) (pos : Option Pos)
deriving Inhabited, BEq

namespace Fault

def pos : Fault → Option Pos
  | raised _ p => p
  | inCall _ _ p => p

/-- the fault that was wrapped first, and where it was raised -/
def root : Fault → Cause × Option Pos
  | raised c p => (c, p)
  | inCall _ inner _ => inner.root

def posText : Option Pos → String
  | some p => " (line " ++ toString p.line ++ ", position " ++ toString p.col ++ ")"
  | none => ""

/-- What is said of a fault.  A thrown value speaks for itself, wherever it was thrown, and so does
what was wrong with a text. -/
def describe (f : Fault) : String :=
  match f.root with
  | (.thrown v, _) => v.shown
  | (.parsing kind, _) => kind
  | (c, p) => c.text ++ posText p

/-- what is said of a fault together with the functions that it left; a thrown value says that it
arose at run time -/
def account : Fault → String
  | raised (.thrown v) p => "Runtime error: " ++ v.shown ++ posText p
  | raised c p => c.text ++ posText p
  | inCall name inner p => inner.account ++ "\nin call to function '" ++ name ++ "'" ++ posText p

/-- the fault at no place -/
def unplaced : Fault → Fault
  | raised c _ => raised c none
  | inCall name inner _ => inCall name inner none

/-- what a script that catches the fault is given: the thrown value, or a record of what is known -/
def caught (f : Fault) : Value :=
  match f.root with
  | (.thrown v, _) => v
  | _ =>
    let (kind, details) := match f with
      | raised c _ => (c.kind, c.details)
      | inCall name _ _ => ("ErrorInFunctionCall", [("function", .text name), ("source", .text "")])
    let place := match f.pos with
      | some p => [("line", .int p.line), ("position", .int p.col)]
      | none => []
    .record (Assoc.ofList
      ([("message", .text f.unplaced.account), ("error", .text kind)] ++ place ++ details))

/-- one line of a trace -/
def frame (name : String) (pos : Option Pos) : String :=
  match pos with
  | some p => "   at " ++ name ++ " line " ++ toString p.line
  | none => "   at " ++ name

/-- one line for each function that the fault was wrapped for, the innermost first -/
def nested : Fault → List String
  | raised _ _ => []
  | inCall name inner _ => inner.nested ++ [frame name inner.pos]

/-- whether the outermost wrapping is that of a function -/
def isWrappedFor (f : Fault) (symbol : String) : Bool :=
  match f with
  | inCall name _ _ => name == symbol
  | raised .. => false

/-- the lines of a trace, the innermost first and `symbol` last -/
def frames (f : Fault) (symbol : String) : List String :=
  if f.isWrappedFor symbol then f.nested else f.nested ++ [frame symbol f.pos]

/-- the failure of a call of `symbol` that a fault ended -/
def failure (f : Fault) (symbol : String) : Failure :=
  Failure.causedBy ⟨"error in call to function '" ++ symbol ++ "'", none⟩
    ⟨⟨f.describe, some ("\n".intercalate (f.frames symbol))⟩, []⟩

theorem nested_inCall (name : String) (f : Fault) (p : Option Pos) :
    (inCall name f p).nested = f.nested ++ [frame name f.pos] := rfl

end Fault

end Scripting.Script
