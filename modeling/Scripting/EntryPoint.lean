import Scripting.Assoc
import Scripting.Language

/-!
# Entry points

The exports of a unit, grouped by module and method name, and the two ways to call one.  A module
is found by the key of its name, so case does not count; a method is found by its exact name; among
methods of one name the number of arguments decides, and of two that take as many the one exported
first.

A call by name (`invokeWith`) passes its arguments as they are.  An entry point (`invokeEntry`)
takes either one list, which is passed empty, or nothing; the second form is tried only if the first
one does not fit.
-/

namespace Scripting

/-- what happened during an operation, each kind in the order it happened -/
structure Trace where
  /-- handlers that were notified, and with what -/
  notices : List (Nat × Diagnostic) := []
  /-- calls that reached a unit -/
  calls : List (Export × List Data) := []
  /-- requests that reached a compiler -/
  requests : List Request := []
  events : List Event := []

namespace Trace

def append (s t : Trace) : Trace :=
  ⟨s.notices ++ t.notices, s.calls ++ t.calls, s.requests ++ t.requests, s.events ++ t.events⟩

instance : Append Trace := ⟨append⟩

/-- nothing but events -/
def log (events : List Event) : Trace := { events }

@[simp] theorem append_notices (s t : Trace) : (s ++ t).notices = s.notices ++ t.notices := rfl
@[simp] theorem append_requests (s t : Trace) :
    (s ++ t).requests = s.requests ++ t.requests := rfl
@[simp] theorem append_calls (s t : Trace) : (s ++ t).calls = s.calls ++ t.calls := rfl
@[simp] theorem append_events (s t : Trace) : (s ++ t).events = s.events ++ t.events := rfl

end Trace

/-- one module: the first spelling of its name, and its methods with all their overloads -/
structure Entry where
  name : QualifiedName
  methods : List (String × List Export)
deriving Inhabited

/-- the modules of a unit by the keys of their names -/
abbrev Table := List (String × Entry)

namespace Entry

/-- one more export, behind those of the same name -/
def add (e : Entry) (x : Export) : Entry :=
  { e with methods := Assoc.update x.name (fun old => old.getD [] ++ [x]) e.methods }

end Entry

namespace Table

/-- the table with one more export -/
def add (t : Table) (x : Export) : Table :=
  Assoc.update x.home.key (fun old => (old.getD ⟨x.home, []⟩).add x) t

def ofExports (xs : List Export) : Table := xs.foldl add []

/-- the module that a name spells in any case -/
def entry? (t : Table) (name : QualifiedName) : Option Entry := Assoc.get? name.key t

/-- the names of the modules in ascending order -/
def names (t : Table) : List String :=
  (t.map fun e => e.2.name.display).mergeSort fun a b => decide (a ≤ b)

end Table

/-- a unit ready to be called, and the fingerprint of what it was compiled from -/
structure Running where
  unit : CompiledUnit
  table : Table
  fingerprint : UInt64

namespace Running

def ofUnit (u : CompiledUnit) (fingerprint : UInt64) : Running :=
  ⟨u, Table.ofExports u.exports, fingerprint⟩

/-- calls the first of `overloads` that takes as many arguments as there are -/
def call (r : Running) (overloads : List Export) (args : List Data) :
    Except CallFault Data × Trace :=
  match overloads.find? fun x => x.arity == args.length with
  | none => (.error (.parameterCount args.length), {})
  | some x =>
    let o := r.unit.call x args
    (o.result, { calls := [(x, args)], events := o.events })

/-- a failure together with its immediate cause -/
def executionFailure (f : Failure) : HostFault :=
  let message := "script execution failure - exception: \"" ++ f.message ++ "\"" ++
    (match f.cause? with
      | some g => " - inner exception: \"" ++ g.message ++ "\""
      | none => "")
  .scriptRuntime message (some f)

/-- what lies behind the failure of the call mechanism, with its trace -/
def entryPointFailure (f : Failure) : HostFault :=
  let raised := f.cause?.getD f
  let message := match raised.trace with
    | some trace => raised.message ++ "\n\nStack trace (of expanded script):\n" ++ trace
    | none => raised.message
  .scriptRuntime message (some raised)

def invokeWith (r : Running) (space owner method : String) (args : List Data) :
    Except HostFault Data × Trace :=
  let qualified := QualifiedName.inNamespace space owner
  match r.table.entry? qualified with
  | none => (.error (.typeNotFound qualified.display), {})
  | some entry =>
    match Assoc.get? method entry.methods with
    | none => (.error (.methodNotFound method), {})
    | some overloads =>
      match r.call overloads args with
      | (.ok v, trace) => (.ok v, trace)
      | (.error (.invocation f), trace) => (.error (executionFailure f), trace)
      | (.error fault, trace) => (.error (.call fault), trace)

/-- the last call decides -/
def concludeEntry (owner method : String) : Except CallFault Data → Except HostFault Unit
  | .ok _ => .ok ()
  | .error (.parameterCount _) => .error (.signatureNotFound owner method)
  | .error (.invocation f) => .error (entryPointFailure f)
  | .error fault => .error (.call fault)

def invokeEntry (r : Running) (space owner method : String) : Except HostFault Unit × Trace :=
  match (r.table.entry? (QualifiedName.inNamespace space owner)).bind fun entry =>
      Assoc.get? method entry.methods with
  | none => (.error (.entryPointNotFound owner method), {})
  | some overloads =>
    match r.call overloads [.list []] with
    | (.error (.parameterCount _), first) =>
      let (result, second) := r.call overloads []
      (concludeEntry owner method result,
        first ++ Trace.log [.retrying owner method] ++ second)
    | (result, first) => (concludeEntry owner method result, first)

end Running

/-! ## Looking through the exports one by one -/

namespace Export

/-- the exports of a module, in order -/
def ofModule (xs : List Export) (name : QualifiedName) : List Export :=
  xs.filter fun x => x.home.key == name.key

/-- the exports of a module that share a method name, in order -/
def overloads (xs : List Export) (name : QualifiedName) (method : String) : List Export :=
  (ofModule xs name).filter fun x => x.name == method

end Export

end Scripting
