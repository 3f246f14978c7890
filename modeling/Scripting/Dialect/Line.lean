import Scripting.Language
import Scripting.Text.Ascii
import Scripting.Text.Blank

/-!
# The line dialect

A dialect of declarations, one a line:

* `imports <namespace>`, passed over like a blank line;
* `sub <module>.<method>/<arity>`, an export whose calls return nothing, or, with
  ` raises <message>` behind it, always fail;
* `error <message>` and `warning <message>`, diagnostics on their line;
* `fatal`, a compiler that cannot run.

Any other line is an error.  Rows count from one over the whole text.
-/

namespace Scripting.Dialect.Line

open Scripting.Text

def displayName : String := "Visual Basic"

/-- the libraries that the dialect can find -/
def knownLibraries : List String := ["system", "forms", "drawing", "xml"]

/-- a letter, then letters, digits and underscores -/
def isIdentifier (name : String) : Bool :=
  match name.toList with
  | [] => false
  | c :: cs => isLetter c && cs.all isWordChar

def importStatement (space : String) : String := "imports " ++ space ++ "\n"

/-- an exported method, and the message its calls fail with -/
structure Sub where
  method : Export
  raises : Option String
deriving DecidableEq, Repr, Inhabited

/-- a number in decimal, with an optional plus sign, of at most 64 bits -/
def count? (cs : List Char) : Option Nat :=
  let digits := match cs with
    | '+' :: ds => ds
    | _ => cs
  if digits.isEmpty || !digits.all isDigit then none
  else
    let n := digits.foldl (fun n c => n * 10 + (c.toNat - 48)) 0
    if n < Nat.pow 2 64 then some n else none

/-- a declaration behind its `sub ` -/
def sub? (space : String) (declaration : List Char) : Option Sub := do
  let (signature, raises) := match splitFirst? " raises ".toList declaration with
    | some (signature, message) => (signature, some (String.ofList (trim message)))
    | none => (declaration, none)
  let (path, arity) ← splitFirst? ['/'] (trim signature)
  let (owner, name) ← splitFirst? ['.'] path
  let arity ← count? arity
  some ⟨⟨QualifiedName.inNamespace space (String.ofList owner), String.ofList name, arity,
    String.ofList path ++ "/" ++ toString arity⟩, raises⟩

/-- what one trimmed line says -/
inductive Statement where
  | nothing
  | fatal
  | report (d : Severity) (message : String)
  | declare (s : Sub)
deriving DecidableEq, Repr

def statement (space : String) (line : List Char) : Statement :=
  if line.isEmpty || (dropWord? "imports ".toList line).isSome then .nothing
  else if line = "fatal".toList then .fatal
  else match dropWord? "error ".toList line with
    | some message => .report .error (String.ofList message)
    | none => match dropWord? "warning ".toList line with
      | some message => .report .warning (String.ofList message)
      | none => match (dropWord? "sub ".toList line).bind (sub? space) with
        | some s => .declare s
        | none => .report .error ("unexpected '" ++ String.ofList line ++ "'")

/-- the statements of a text, line by line -/
def statements (space text : String) : List Statement :=
  (lines text.toList).map fun l => statement space (trim l)

/-- an error for each library that cannot be found, in order and with repetitions -/
def missing (libraries : List String) : Report :=
  (libraries.filter fun l => !knownLibraries.contains l).map fun l =>
    { severity := .error, message := "library '" ++ l ++ "' could not be found" }

/-- the reports among statements, the first of which stands on line `row` -/
def reports : Nat → List Statement → Report
  | _, [] => []
  | row, s :: rest =>
    match s with
    | .report severity message =>
      ⟨severity, message, some "script", row, 1⟩ :: reports (row + 1) rest
    | _ => reports (row + 1) rest

def subs (ss : List Statement) : List Sub :=
  ss.filterMap fun s => match s with
    | .declare m => some m
    | _ => none

/-- what a call of a declared method answers -/
def Sub.outcome (s : Sub) (symbol : String) : Except CallFault Data :=
  match s.raises with
  | none => .ok .null
  | some message => .error (.invocation
      (Failure.causedBy ⟨"Exception has been thrown by the target of an invocation.", none⟩
        ⟨⟨message, some ("   at " ++ symbol)⟩, []⟩))

/-- a call runs the first declaration that equals the method called -/
def callAmong (ms : List Sub) (x : Export) (_ : List Data) : Outcome :=
  match ms.find? fun m => m.method == x with
  | some m => ⟨m.outcome x.symbol, []⟩
  | none => ⟨.error (.other ("no such method '" ++ x.symbol ++ "'")), []⟩

def unitOf (ms : List Sub) : CompiledUnit := ⟨ms.map (·.method), callAmong ms⟩

def compile (r : Request) : Except BackendFault Answer :=
  let ss := statements r.space r.source
  if ss.contains .fatal then .error (.unavailable "compiler resources are missing")
  else
    let report := missing r.libraries ++ reports 1 ss
    if report.isEmpty then .ok (.success (unitOf (subs ss))) else .ok (.failure report)

end Line

/-- a dialect of declarations, one a line -/
def line : Language where
  name := Line.displayName
  accepts := Line.isIdentifier
  importStatement := Line.importStatement
  compile := fun _ r => ⟨Line.compile r, []⟩

end Scripting.Dialect
