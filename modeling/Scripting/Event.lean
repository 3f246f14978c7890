import Scripting.Data

/-!
# Events

What a host and its dialects write to the log.  An event is told by what happened; its level, its
message and its named fields are views of it.
-/

namespace Scripting

inductive Level where
  | trace | debug | info | warn
deriving DecidableEq, Repr

/-- who writes an event -/
inductive Origin where
  | environment | host | compiler | invoker | dialect | unit
  /-- the script itself -/
  | script
  /-- the library that shows messages to a user -/
  | forms
deriving DecidableEq, Repr

inductive Event where
  | rejectedIdentifier (operation name language : String)
  | addingReference (name library : String)
  | addingImport (space : String)
  | bindingGlobal (name : String)
  | removingGlobal (name : String) (removed : Bool)
  | addingEventSource (name typeName library : String)
  | createdHost (language space : String)
  | registeringNamespace (library space : String)
  | builtTable (modules : Nat)
  | compiled (language space fingerprint : String)
  | compileFailed (language : String) (diagnostics errors : Nat)
  | retrying (owner method : String)
  | calling (symbol : String) (actual : Nat)
  | printed (text : String)
  | debugged (text : String) (line : Nat)
  | messageBox (text : String)
  | status (text : String)
deriving DecidableEq, Repr

namespace Event

def origin : Event → Origin
  | .rejectedIdentifier .. | .addingReference .. | .addingImport .. | .bindingGlobal ..
  | .removingGlobal .. | .addingEventSource .. => .environment
  | .createdHost .. => .host
  | .registeringNamespace .. => .dialect
  | .builtTable .. | .retrying .. => .invoker
  | .compiled .. | .compileFailed .. => .compiler
  | .calling .. => .unit
  | .printed .. | .debugged .. => .script
  | .messageBox .. | .status .. => .forms

def level : Event → Level
  | .compiled .. | .printed .. | .messageBox .. => .info
  | .compileFailed .. => .warn
  | .calling .. => .trace
  | _ => .debug

def message : Event → String
  | .rejectedIdentifier .. => "rejected identifier"
  | .addingReference .. => "adding reference"
  | .addingImport .. => "adding import"
  | .bindingGlobal .. => "binding global instance"
  | .removingGlobal .. => "removing global instance"
  | .addingEventSource .. => "adding event source"
  | .createdHost .. => "created script host"
  | .registeringNamespace .. => "registering namespace"
  | .builtTable .. => "built entry point table"
  | .compiled .. => "compiled script"
  | .compileFailed .. => "compile failed"
  | .retrying .. => "retrying entry point without arguments"
  | .calling .. => "calling script function"
  | .printed text | .debugged text _ | .messageBox text | .status text => text

def fields : Event → List (String × Data)
  | .rejectedIdentifier operation name language =>
      [("operation", .text operation), ("name", .text name), ("language", .text language)]
  | .addingReference name library => [("name", .text name), ("library", .text library)]
  | .addingImport space => [("namespace", .text space)]
  | .bindingGlobal name => [("name", .text name)]
  | .removingGlobal name removed => [("name", .text name), ("removed", .bool removed)]
  | .addingEventSource name typeName library =>
      [("name", .text name), ("type_name", .text typeName), ("library", .text library)]
  | .createdHost language space => [("language", .text language), ("namespace", .text space)]
  | .registeringNamespace library space =>
      [("library", .text library), ("namespace", .text space)]
  | .builtTable modules => [("modules", .int modules)]
  | .compiled language space fingerprint =>
      [("language", .text language), ("namespace", .text space), ("hash", .text fingerprint)]
  | .compileFailed language diagnostics errors =>
      [("language", .text language), ("diagnostics", .int diagnostics), ("errors", .int errors)]
  | .retrying owner method => [("module", .text owner), ("method", .text method)]
  | .calling symbol actual => [("symbol", .text symbol), ("actual", .int actual)]
  | .debugged _ line => [("source", .text "script"), ("line", .int line)]
  | .printed _ | .messageBox _ | .status _ => []

/-- whether a script caused the event by its own words -/
def isFromScript (e : Event) : Bool := e.origin == .script || e.origin == .forms

end Event

end Scripting
