import Scripting.EntryPoint
import Scripting.Environment
import Scripting.Subscription

/-!
# Hosts

A host compiles one script in one language and calls its entry points.  It gathers an environment,
compiles it on request, keeps the unit of the last compile that succeeded and the report of the last
one that ran, and tells its handlers of every compile that failed.

`Host.step` performs one command and `Host.run` a list of them; every state of a host is the result
of such a run from `Host.create`.
-/

namespace Scripting

structure Host where
  /-- the identifier it was created with -/
  language : String
  /-- qualifies the modules of the script -/
  space : String
  environment : Environment
  subscriptions : Subscriptions := {}
  report : Report := []
  running? : Option Running := none
  /-- how many compiles there were -/
  compiles : Nat := 0

/-- what a caller may ask of a host -/
inductive Command where
  | setSource (text : String)
  | addImport (space : String)
  | addReference (name library : String)
  | addGlobal (name : String) (object : Data)
  | removeGlobal (name : String)
  | addSource (name type : String)
  | subscribe
  | unsubscribe (handler : Nat)
  | compile
  | call (owner method : String) (args : List Data)
  | invoke (owner method : String)

inductive Reply where
  | done
  | flag (b : Bool)
  | handler (id : Nat)
  | value (v : Data)
  | refused (fault : HostFault)

namespace Host

/-- the references of every new host -/
def defaultReferences : List Reference :=
  [⟨"System", "system"⟩, ⟨"Forms", "forms"⟩, ⟨"Drawing", "drawing"⟩, ⟨"Xml", "xml"⟩]

/-- the imports of every new host -/
def defaultImports : List String := ["System", "Forms"]

/-- references added one after the other -/
def withReferences (e : Environment) : List Reference → Environment × List Event
  | [] => (e, [])
  | r :: rs =>
    let (e, _, events) := e.addReference r.name r.library
    let (e, more) := withReferences e rs
    (e, events ++ more)

/-- imports added one after the other -/
def withImports (e : Environment) : List String → Environment × List Event
  | [] => (e, [])
  | s :: ss =>
    let (e, events) := e.addImport s
    let (e, more) := withImports e ss
    (e, events ++ more)

/-- a new host with the default references and imports -/
def create (l : Language) (language space : String) : Host × List Event :=
  let (e, referenced) := withReferences { language := l, flags := Flags.standard } defaultReferences
  let (e, imported) := withImports e defaultImports
  ({ language, space, environment := e }, referenced ++ imported ++ [.createdHost language space])

/-- how a compile that ran counts -/
inductive Verdict where
  | compiled (u : CompiledUnit)
  | failed (r : Report)
  | fault (f : BackendFault)

/-- any diagnostic at all makes a compile fail, and without one there has to be a unit -/
def verdict : Except BackendFault Answer → Verdict
  | .error f => .fault f
  | .ok ⟨d :: r, _⟩ => .failed (d :: r)
  | .ok ⟨[], some u⟩ => .compiled u
  | .ok ⟨[], none⟩ =>
    .fault (.unavailable "the backend reported success without a compiled unit")

def compile (h : Host) : Host × Except HostFault Bool × Trace :=
  let request := h.environment.request h.space
  let c := h.environment.language.compile h.compiles request
  let name := h.environment.language.name
  let h := { h with compiles := h.compiles + 1 }
  match verdict c.answer with
  | .fault f => (h, .error (.backend f), { requests := [request], events := c.events })
  | .failed r =>
    ({ h with report := r }, .ok false,
      { requests := [request], notices := h.subscriptions.notices r,
        events := c.events ++ [.compileFailed name r.length r.errors.length] })
  | .compiled u =>
    let running := Running.ofUnit u h.environment.fingerprint
    ({ h with running? := some running, report := [] }, .ok true,
      { requests := [request],
        events := c.events ++ [.builtTable running.table.length,
          .compiled name h.space (Fingerprint.hex running.fingerprint)] })

/-- whether a unit is there to be called -/
def isRunning (h : Host) : Bool := h.running?.isSome

/-- whether that unit was compiled from the text and the references of now -/
def isCurrent (h : Host) : Bool :=
  match h.running? with
  | some r => r.fingerprint == h.environment.fingerprint
  | none => false

/-- the modules of the unit in ascending order -/
def modules (h : Host) : List String :=
  match h.running? with
  | some r => r.table.names
  | none => []

def call (h : Host) (owner method : String) (args : List Data) : Except HostFault Data × Trace :=
  match h.running? with
  | some r => r.invokeWith h.space owner method args
  | none => (.error .notRunning, {})

def invoke (h : Host) (owner method : String) : Except HostFault Unit × Trace :=
  match h.running? with
  | some r => r.invokeEntry h.space owner method
  | none => (.error .notRunning, {})

/-- a change of the environment -/
def changed (h : Host) (c : Environment.Change) : Host × Reply × Trace :=
  ({ h with environment := c.1 }, .flag c.2.1, Trace.log c.2.2)

def Reply.ofResult {α : Type} (f : α → Reply) : Except HostFault α → Reply
  | .ok a => f a
  | .error fault => .refused fault

def step (h : Host) : Command → Host × Reply × Trace
  | .setSource text => ({ h with environment := h.environment.setBody text }, .done, {})
  | .addImport space =>
    let (e, events) := h.environment.addImport space
    ({ h with environment := e }, .done, Trace.log events)
  | .addReference name library => h.changed (h.environment.addReference name library)
  | .addGlobal name object => h.changed (h.environment.addGlobal name object)
  | .removeGlobal name => h.changed (h.environment.removeGlobal name)
  | .addSource name type => h.changed (h.environment.addSource name type)
  | .subscribe =>
    let (s, id) := h.subscriptions.subscribe
    ({ h with subscriptions := s }, .handler id, {})
  | .unsubscribe handler =>
    let (s, found) := h.subscriptions.unsubscribe handler
    ({ h with subscriptions := s }, .flag found, {})
  | .compile =>
    let (h, result, trace) := h.compile
    (h, Reply.ofResult .flag result, trace)
  | .call owner method args =>
    let (result, trace) := h.call owner method args
    (h, Reply.ofResult .value result, trace)
  | .invoke owner method =>
    let (result, trace) := h.invoke owner method
    (h, Reply.ofResult (fun _ => .done) result, trace)

/-- the commands one after the other: the host behind them, and what each of them answered -/
def run (h : Host) : List Command → Host × List (Reply × Trace)
  | [] => (h, [])
  | c :: cs =>
    let (h, reply, trace) := h.step c
    let (h, rest) := run h cs
    (h, (reply, trace) :: rest)

@[simp] theorem run_nil (h : Host) : h.run [] = (h, []) := rfl

theorem run_cons (h : Host) (c : Command) (cs : List Command) :
    h.run (c :: cs) =
      (((h.step c).1.run cs).1, (h.step c).2 :: ((h.step c).1.run cs).2) := rfl

end Host

end Scripting
