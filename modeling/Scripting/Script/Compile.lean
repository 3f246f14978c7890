import Scripting.Flags
import Scripting.Script.Eval
import Scripting.Script.Fold
import Scripting.Script.Parser

/-!
# Compiling scripts

A text becomes a program if it can be read and every namespace that it imports by a constant path is
there to be imported.  An import that cannot be reached does not count, and neither does one that is
left out when the script is folded.  A script with debug information is not folded.
-/

namespace Scripting.Script

open Library (Space Surroundings Tree)

namespace Import

mutual

/-- the constant paths of the imports in an expression -/
def paths : Expr → List String
  | .use (.text s _) _ _ => [s]
  | .use source _ _ => paths source
  | .joined parts _ => pathsOf parts
  | .list items _ => pathsOf items
  | .record fields _ => pathsOfFields fields
  | .access root steps => paths root ++ pathsOfSteps steps
  | .call _ _ args => pathsOf args
  | .unary _ e _ => paths e
  | .binary _ l r _ => paths l ++ paths r
  | .logical _ l r _ => paths l ++ paths r
  | .block body _ => pathsOf body
  | .cond test yes no _ => paths test ++ paths yes ++ pathsOfOption no
  | .loop test body _ => pathsOfOption test ++ paths body
  | .forIn _ _ source body _ => paths source ++ paths body
  | .declare _ _ value => pathsOfOption value
  | .assign target _ value _ => paths target ++ paths value
  | .leave _ value _ => pathsOfOption value
  | .attempt body _ handler _ => paths body ++ paths handler
  | _ => []

def pathsOfOption : Option Expr → List String
  | none => []
  | some e => paths e

def pathsOf : List Expr → List String
  | [] => []
  | e :: es => paths e ++ pathsOf es

def pathsOfFields : List (Ident × Expr) → List String
  | [] => []
  | (_, e) :: rest => paths e ++ pathsOfFields rest

def pathsOfSteps : List Step → List String
  | [] => []
  | s :: rest => pathsOfStep s ++ pathsOfSteps rest

def pathsOfStep : Step → List String
  | .index i _ => paths i
  | .field _ => []
  | .method _ args => pathsOf args

end

/-- the constant paths of all imports of a script -/
def allPaths (s : Parsed) : List String :=
  pathsOf s.body ++ s.functions.flatMap fun f => paths f.body

/-- the first of the texts in ascending order -/
def first? (texts : List String) : Option String :=
  texts.foldl (fun least s =>
    match least with
    | none => some s
    | some t => some (if s < t then s else t)) none

/-- the first path that no namespace has -/
def unresolved? (resolver : List (String × Space)) (s : Parsed) : Option String :=
  first? ((allPaths s).filter fun path => (Assoc.get? path resolver).isNone)

end Import

/-- the program of a text among namespaces; of two namespaces with one name the later counts -/
def Program.compile (around : Surroundings) (settings : Settings) (flags : Flags)
    (spaces : List (String × Space)) (text : String) : Except CompileFault Program := do
  let tree := Tree.ofList spaces
  let resolver := Assoc.ofList spaces
  let parsed ← Parsed.ofText settings tree.roots text
  let script := if flags.debugInfo then parsed else parsed.fold settings.maxStringSize
  match Import.unresolved? resolver script with
  | some path => throw ⟨.moduleNotFound path, none⟩
  | none => return { functions := script.functions, tree, resolver, settings, around }

end Scripting.Script
