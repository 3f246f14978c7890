import Scripting.Language
import Scripting.Library.Catalog
import Scripting.Script.Compile
import Scripting.Script.Identifier
import Scripting.Script.Import

/-!
# The script dialect

A dialect over a catalog of libraries.  A compile makes the namespaces of the referenced libraries
known and hands the text to an engine; a unit exports the public functions of the script.  A
function called `Module__Method` is the method `Method` of a module `Module`, and any other function
is a method of the module `Script`.

The engine is a parameter: `Engine.standard` reads and runs scripts, and what the dialect makes of
an engine's answers does not depend on how it comes to them.
-/

namespace Scripting.Dialect

open Library (Bundle Catalog Space Surroundings)
open Script (Border CompileFault Value)

/-- a function as a unit knows it -/
structure Entrance where
  name : String
  arity : Nat
  isPrivate : Bool
deriving DecidableEq, Repr, Inhabited

/-- how a call of a function ended, and what it wrote to the log -/
structure Ended where
  result : Except Script.Fault Value
  events : List Event := []

/-- what an engine makes of a text: its functions, of which no two have both name and arity in
common, a way to call each of them, and a border that arguments and results cross -/
structure Compiled where
  entrances : List Entrance
  call : Entrance → List Value → Ended
  border : Border := .standard

/-- a way to compile a text against namespaces, given in the order of their registration -/
abbrev Engine :=
  Settings → Flags → List (String × Space) → String → Except CompileFault Compiled

namespace Engine

def entrance (f : Script.Function) : Entrance := ⟨f.name, f.params.length, f.isPrivate⟩

def ofProgram (p : Script.Program) : Compiled where
  entrances := p.functions.map entrance
  call := fun e args =>
    match p.functions.find? fun f => entrance f == e with
    | some f =>
      let o := p.call f args
      ⟨o.result, o.events⟩
    | none => ⟨.ok .unit, []⟩

/-- the engine that reads and runs scripts -/
def standard (around : Surroundings) : Engine := fun settings flags spaces text =>
  (Script.Program.compile around settings flags spaces text).map ofProgram

end Engine

/-- the script dialect with all that it is set up with -/
structure Scripted where
  engine : Engine
  catalog : Catalog := Catalog.standard
  settings : Settings := {}
  style : Script.Import.Style := .plain

namespace Scripted

def displayName (d : Scripted) : String :=
  match d.style with
  | .plain => "Rhai"
  | .keyword => "Rhai Basic"

/-- the part of a source that diagnostics speak of -/
def part : String := "script"

/-! ## Before the text is read -/

/-- scripts are compiled in memory and to nothing else -/
def checkFlags (f : Flags) : Except BackendFault Unit :=
  if f.executable then
    .error (.unsupportedFlags "rhai scripts cannot be compiled to an executable")
  else if !f.inMemory then
    .error (.unsupportedFlags "rhai scripts can only be compiled in memory")
  else .ok ()

/-- an error for each reference to a library that is not there, in order and with repetitions -/
def missing (d : Scripted) (libraries : List String) : Report :=
  (libraries.filter fun l => !d.catalog.contains l).map fun l =>
    Diagnostic.errorAt part 0 0 ("library '" ++ l ++ "' could not be found")

/-- the libraries that are there, in order and with repetitions -/
def known (d : Scripted) (libraries : List String) : List Bundle :=
  libraries.filterMap d.catalog.get?

/-- the namespaces of libraries in the order of their registration -/
def spaces (bundles : List Bundle) : List (String × Space) := bundles.flatMap (·.spaces)

def registrations (bundles : List Bundle) : List Event :=
  bundles.flatMap fun b => b.spaces.map fun s => .registeringNamespace b.name s.1

/-- the text that the engine reads -/
def expanded (d : Scripted) (text : String) : String :=
  match d.style with
  | .plain => text
  | .keyword => String.ofList (Script.Import.expand text.toList)

def diagnostic (f : CompileFault) : Diagnostic :=
  match f.pos with
  | some p => Diagnostic.errorAt part p.line p.col f.cause.message
  | none => Diagnostic.errorAt part 0 0 f.cause.message

/-! ## Units -/

/-- the module of functions whose names do not tell one -/
def defaultModule : String := "Script"

/-- module and method that a function's name tells -/
def splitName (separator name : String) : String × String :=
  if separator.isEmpty then (defaultModule, name)
  else
    match Text.splitFirst? separator.toList name.toList with
    | some (owner, method) =>
      if owner.isEmpty || method.isEmpty then (defaultModule, name)
      else (String.ofList owner, String.ofList method)
    | none => (defaultModule, name)

/-- whether callers may see a function; one without a name of its own is for its script alone -/
def isPublic (e : Entrance) : Bool := !e.isPrivate && !e.name.toList.contains '$'

def exported (separator space : String) (e : Entrance) : Export :=
  let (owner, method) := splitName separator e.name
  ⟨QualifiedName.inNamespace space owner, method, e.arity, e.name⟩

/-- what callers are told of the end of a call -/
def conclude (b : Border) (symbol : String) : Except Script.Fault Value → Except CallFault Data
  | .error fault => .error (.invocation (fault.failure symbol))
  | .ok v =>
    match b.outward v with
    | .ok d => .ok d
    | .error why => .error (.other ("return value conversion failed: " ++ why))

/-- A call runs the function of the symbol that takes as many arguments as there are.  The arguments
cross the border first. -/
def callAmong (c : Compiled) (x : Export) (args : List Data) : Outcome :=
  match c.border.inwardAll args with
  | .error why => ⟨.error (.other ("argument conversion failed: " ++ why)), []⟩
  | .ok values =>
    match c.entrances.find? fun e => e.name == x.symbol && e.arity == values.length with
    | none => ⟨.error (.parameterCount values.length), []⟩
    | some e =>
      let ended := c.call e values
      ⟨conclude c.border x.symbol ended.result, .calling x.symbol values.length :: ended.events⟩

def unitOf (separator space : String) (c : Compiled) : CompiledUnit :=
  ⟨(c.entrances.filter isPublic).map (exported separator space), callAmong c⟩

/-! ## The language -/

def answer (d : Scripted) (r : Request) : Answer :=
  let bundles := d.known r.libraries
  let absent := d.missing r.libraries
  match d.engine d.settings r.flags (spaces bundles) (d.expanded r.source) with
  | .ok c =>
    if absent.isEmpty then .success (unitOf d.settings.moduleSeparator r.space c)
    else .failure absent
  | .error fault => .failure (absent ++ [diagnostic fault])

def compile (d : Scripted) (r : Request) : Compilation :=
  match checkFlags r.flags with
  | .error fault => ⟨.error fault, []⟩
  | .ok () => ⟨.ok (d.answer r), registrations (d.known r.libraries)⟩

def language (d : Scripted) : Language where
  name := d.displayName
  accepts := Script.isIdentifier
  importStatement := Script.Import.header d.style
  compile := fun _ r => d.compile r

end Scripted

/-- identifiers of the script dialect -/
def scriptedAliases : List String := ["Rhai", "rhai"]

/-- identifiers of the script dialect whose import statements are spelled with a keyword -/
def keywordAliases : List String := ["RhaiBasic", "Rhai Basic"]

end Scripting.Dialect
