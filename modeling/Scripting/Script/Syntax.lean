import Scripting.Script.Token
import Scripting.Script.Value

/-!
# Syntax of the script language

Statements are expressions too, so there is one type for both.  Every expression knows where it
stands in the script.  What follows an expression in dots and brackets is a list of steps, the first
one next to it.
-/

namespace Scripting.Script

/-- operators between two operands that are both evaluated -/
inductive BinaryOp where
  | add | sub | mul | div | rem | eq | ne | lt | le | gt | ge | range | rangeTo
deriving DecidableEq, Repr, Inhabited

inductive UnaryOp where
  | minus | plus | not
deriving DecidableEq, Repr, Inhabited

inductive LogicalOp where
  | and | or
deriving DecidableEq, Repr, Inhabited

def BinaryOp.spelling : BinaryOp → String
  | .add => "+" | .sub => "-" | .mul => "*" | .div => "/" | .rem => "%"
  | .eq => "==" | .ne => "!=" | .lt => "<" | .le => "<=" | .gt => ">" | .ge => ">="
  | .range => ".." | .rangeTo => "..="

def UnaryOp.spelling : UnaryOp → String
  | .minus => "-" | .plus => "+" | .not => "!"

/-- how control leaves a block early -/
inductive Exit where
  | stop | next | yield | raise
deriving DecidableEq, Repr, Inhabited

/-- a name where it stands -/
structure Ident where
  name : String
  pos : Pos
deriving DecidableEq, Repr, Inhabited

mutual

inductive Expr where
  | unit (pos : Pos)
  | bool (b : Bool) (pos : Pos)
  | int (i : Int) (pos : Pos)
  | float (x : Float) (pos : Pos)
  | text (s : String) (pos : Pos)
  | char (c : Char) (pos : Pos)
  /-- a value that was worked out before the run -/
  | value (v : Value) (pos : Pos)
  /-- text with expressions in it -/
  | joined (parts : List Expr) (pos : Pos)
  /-- a variable -/
  | name (id : Ident)
  /-- a constant of a namespace -/
  | path (space : List Ident) (id : Ident)
  | list (items : List Expr) (pos : Pos)
  | record (fields : List (Ident × Expr)) (pos : Pos)
  | access (root : Expr) (steps : List Step)
  /-- a call of a function, in a namespace if `space` is not empty -/
  | call (space : List Ident) (fn : Ident) (args : List Expr)
  | unary (op : UnaryOp) (operand : Expr) (pos : Pos)
  | binary (op : BinaryOp) (left right : Expr) (pos : Pos)
  | logical (op : LogicalOp) (left right : Expr) (pos : Pos)
  /-- a function without a name of its own, and what it takes along: variables, and values where
  the folding knew them -/
  | closure (fn : String) (taken : List Expr) (pos : Pos)
  | block (body : List Expr) (pos : Pos)
  | cond (test yes : Expr) (no : Option Expr) (pos : Pos)
  /-- a loop, endless without a test -/
  | loop (test : Option Expr) (body : Expr) (pos : Pos)
  | forIn (item : Ident) (counter : Option Ident) (source body : Expr) (pos : Pos)
  | declare (id : Ident) (constant : Bool) (value : Option Expr)
  /-- an assignment to the place that `target` and its steps lead to -/
  | assign (target : Expr) (op : Option BinaryOp) (value : Expr) (pos : Pos)
  | leave (exit : Exit) (value : Option Expr) (pos : Pos)
  | attempt (body : Expr) (caught : Option Ident) (handler : Expr) (pos : Pos)
  | use (source : Expr) (called : Option Ident) (pos : Pos)
  /-- nothing at all -/
  | skip (pos : Pos)

inductive Step where
  | index (i : Expr) (pos : Pos)
  | field (id : Ident)
  | method (id : Ident) (args : List Expr)

end

instance : Inhabited Expr := ⟨.skip ⟨0, 0⟩⟩
instance : Inhabited Step := ⟨.field ⟨"", ⟨0, 0⟩⟩⟩

/-- a function of a script -/
structure Function where
  name : String
  params : List String
  body : Expr
  isPrivate : Bool
  /-- how many of the first parameters stand for variables taken along, if it has no name of its
  own -/
  captured : Option Nat := none
deriving Inhabited

/-- a script: its functions in the order of their definition, and what stands outside them -/
structure Parsed where
  functions : List Function
  body : List Expr
deriving Inhabited

namespace Expr

/-- where an expression is said to stand: an operation stands at its operator -/
def pos : Expr → Pos
  | unit p | bool _ p | int _ p | float _ p | text _ p | char _ p | value _ p | joined _ p
  | list _ p | record _ p | unary _ _ p | binary _ _ _ p | logical _ _ _ p | closure _ _ p
  | block _ p | cond _ _ _ p | loop _ _ p | forIn _ _ _ _ p | assign _ _ _ p | leave _ _ p
  | attempt _ _ _ p | use _ _ p | skip p => p
  | name id | declare id _ _ => id.pos
  | path space id => (space.head?.getD id).pos
  | call _ fn _ => fn.pos
  | access root _ => root.pos

/-- where an expression begins -/
def start : Expr → Pos
  | binary _ l _ _ | logical _ l _ _ => l.start
  | call space fn _ => (space.head?.getD fn).pos
  | access root _ => root.start
  | e => e.pos

/-- whether a statement needs no semicolon behind it -/
def endsItself : Expr → Bool
  | block .. | cond .. | loop .. | forIn .. | attempt .. | skip _ => true
  | _ => false

def isSkip : Expr → Bool
  | skip _ => true
  | _ => false

end Expr

end Scripting.Script
