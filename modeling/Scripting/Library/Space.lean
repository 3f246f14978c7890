import Scripting.Assoc
import Scripting.Library.Native
import Scripting.Text.Blank
import Scripting.Text.Split

/-!
# Namespaces

A namespace holds constants and native functions.  Registered namespaces form a tree: a path of
several segments is looked up one segment after the other (`Tree.space?`).  To register a path of
one segment puts a fresh node in its place, so whatever was below it before is gone
(`get?_put_single`); a longer path descends and leaves the nodes on its way as they are.
-/

namespace Scripting.Library

open Script (Value)
open Scripting.Text

structure Space where
  constants : List (String × Value) := []
  natives : List Native := []
deriving Inhabited

namespace Space

/-- a namespace of constants, of two with one name the later -/
def ofConstants (constants : List (String × Value)) : Space := ⟨Assoc.ofList constants, []⟩

def constant? (s : Space) (name : String) : Option Value := Assoc.get? name s.constants

/-- the function that a call means -/
def native? (s : Space) (name : String) (args : List Value) : Option Native :=
  s.natives.find? fun n => n.answersTo name args

end Space

/-! ## Paths -/

/-- the path of a namespace with double colons for dots -/
def colonPath (space : String) : List Char :=
  space.toList.flatMap fun c => if c = '.' then [':', ':'] else [c]

/-- the segments of a path, at most as many; blanks around a double colon do not count -/
def segmentsWithin : Nat → List Char → List String
  | 0, cs => [String.ofList cs]
  | n + 1, cs =>
    match splitFirst? [':', ':'] cs with
    | some (segment, rest) => String.ofList (trim segment) :: segmentsWithin n (trim rest)
    | none => [String.ofList cs]

/-- the segments of a namespace that go from node to node -/
def segments (space : String) : List String :=
  let path := colonPath space
  segmentsWithin path.length path

/-! ## Trees -/

inductive Node where
  | mk (space : Space) (children : List (String × Node))

/-- namespaces by their paths -/
abbrev Tree := List (String × Node)

def Node.space : Node → Space
  | mk s _ => s

def Node.children : Node → Tree
  | mk _ c => c

namespace Tree

/-- the tree with a namespace at a path -/
def put : List String → Space → Tree → Tree
  | [], _, t => t
  | [s], space, t => Assoc.insert s (.mk space []) t
  | s :: path, space, t =>
    let old := (Assoc.get? s t).getD (.mk {} [])
    Assoc.insert s (.mk old.space (put path space old.children)) t

/-- the node at a path -/
def node? : List String → Tree → Option Node
  | [], _ => none
  | [s], t => Assoc.get? s t
  | s :: path, t => (Assoc.get? s t).bind fun n => node? path n.children

/-- the namespace at a path; a node that was only passed through holds an empty one -/
def space? (path : List String) (t : Tree) : Option Space := (node? path t).map Node.space

/-- the first segments of all paths -/
def roots (t : Tree) : List String := t.map (·.1)

/-- registers a namespace under its name -/
def register (t : Tree) (space : String × Space) : Tree := put (segments space.1) space.2 t

def ofList (spaces : List (String × Space)) : Tree := spaces.foldl register []

end Tree

end Scripting.Library
