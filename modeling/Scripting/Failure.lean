/-!
# Failures

What went wrong while script code ran, and the ways in which a host can refuse an operation.  A
failure is a chain of links: the first is what the call mechanism reports, and each next one is the
immediate cause of the one before it.
-/

namespace Scripting

/-- a message, and where in the script it arose -/
structure Link where
  message : String
  trace : Option String := none
deriving DecidableEq, Repr, Inhabited

/-- a chain of links, the outermost first -/
structure Failure where
  outer : Link
  inner : List Link := []
deriving DecidableEq, Repr, Inhabited

namespace Failure

def message (f : Failure) : String := f.outer.message
def trace (f : Failure) : Option String := f.outer.trace

def cause? (f : Failure) : Option Failure :=
  match f.inner with
  | [] => none
  | l :: ls => some ⟨l, ls⟩

/-- `f` with `g` as its immediate cause -/
def causedBy (l : Link) (g : Failure) : Failure := ⟨l, g.outer :: g.inner⟩

/-- the messages of the causes, the nearest first -/
def causes (f : Failure) : List String := f.inner.map (·.message)

end Failure

/-- a compiler that could not run at all -/
inductive BackendFault where
  | unavailable (message : String)
  | unsupportedFlags (message : String)
deriving DecidableEq, Repr, Inhabited

def BackendFault.message : BackendFault → String
  | .unavailable m => m
  | .unsupportedFlags m => "unsupported compiler flags: " ++ m

/-- one call that did not return -/
inductive CallFault where
  | parameterCount (actual : Nat)
  | invocation (failure : Failure)
  | other (message : String)
deriving DecidableEq, Repr, Inhabited

def CallFault.message : CallFault → String
  | .parameterCount n => "parameter count mismatch (" ++ toString n ++ " arguments)"
  | .invocation f => f.message
  | .other m => m

/-- why a host refuses an operation -/
inductive HostFault where
  | unknownLanguage (language : String)
  | backend (fault : BackendFault)
  | notRunning
  | typeNotFound (typeName : String)
  | methodNotFound (method : String)
  | entryPointNotFound (owner method : String)
  | signatureNotFound (owner method : String)
  | scriptRuntime (message : String) (source : Option Failure)
  | call (fault : CallFault)
deriving DecidableEq, Repr, Inhabited

namespace HostFault

private def entryPoint (owner method : String) : String :=
  "entry point (method \"" ++ method ++ "\" in module \"" ++ owner ++ "\")"

def message : HostFault → String
  | .unknownLanguage l => "unknown script language '" ++ l ++ "'"
  | .backend b => "a compiler backend exception occurred: " ++ b.message
  | .notRunning => "engine isn't running"
  | .typeNotFound t => "a compiler exception occurred: type '" ++ t ++ "' not found"
  | .methodNotFound _ => "method not found"
  | .entryPointNotFound o m => entryPoint o m ++ " not found"
  | .signatureNotFound o m =>
      entryPoint o m ++ ", with either no arguments or a list of string arguments, not found"
  | .scriptRuntime m _ => m
  | .call c => c.message

/-- the messages of what lies behind a fault, the nearest first -/
def sources : HostFault → List String
  | .backend b => [b.message]
  | .scriptRuntime _ (some f) => f.message :: f.causes
  | _ => []

def isScriptRuntime : HostFault → Bool
  | .scriptRuntime .. => true
  | _ => false

def isEntryPointNotFound : HostFault → Bool
  | .entryPointNotFound .. | .signatureNotFound .. => true
  | _ => false

end HostFault

end Scripting
