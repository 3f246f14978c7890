import Scripting.Event
import Scripting.Library.Space
import Scripting.Script.Fault
import Scripting.Script.Operator
import Scripting.Script.Syntax
import Scripting.Settings

/-!
# The machine that runs scripts

Its state is what a running script can change: the variables and imports in scope, the cells of
variables that functions took along, and the counters that the limits are compared with.  An
evaluation (`Eval`) changes the state and ends with a value or with a signal: a fault, or a jump out
of a loop or function.
-/

namespace Scripting.Script

open Library (Space Surroundings Tree)

/-- a script ready to run, and what it runs among -/
structure Program where
  functions : List Function
  /-- the namespaces that are there from the start -/
  tree : Tree
  /-- the namespaces that an import may name -/
  resolver : List (String × Space)
  settings : Settings
  around : Surroundings

/-- the value of a variable -/
structure Held where
  value : Value
  /-- whether it is that of a constant, so that nothing in it can change -/
  fixed : Bool := false
deriving Inhabited

/-- where the value of a variable is -/
inductive Slot where
  | own (h : Held)
  /-- in a cell that several variables share -/
  | shared (cell : Nat)
deriving Inhabited

structure Variable where
  name : String
  slot : Slot
deriving Inhabited

structure Machine where
  cells : Array Held := #[]
  /-- the variables in scope, the innermost first -/
  scope : List Variable := []
  /-- how many of them the innermost block declared -/
  inBlock : Nat := 0
  /-- the aliases of imported namespaces, the last first -/
  imports : List (String × Space) := []
  /-- how many functions are active -/
  level : Nat := 0
  operations : Nat := 0
  /-- how many imports were carried out -/
  imported : Nat := 0
  events : Array Event := #[]
deriving Inhabited

/-- why an evaluation ends without a value -/
inductive Signal where
  | fault (f : Fault)
  /-- out of the innermost loop -/
  | stop (v : Value)
  /-- to the next round of the innermost loop -/
  | next
  /-- out of the function -/
  | yield (v : Value)
deriving Inhabited

abbrev Eval := ExceptT Signal (StateM Machine)

namespace Eval

/-! ## Faults and limits -/

def raise {α : Type} (cause : Cause) (pos : Option Pos) : Eval α :=
  throw (.fault (.raised cause pos))

/-- a result, or a fault at a place -/
def lift {α : Type} (r : Except Cause α) (pos : Option Pos) : Eval α :=
  match r with
  | .ok a => pure a
  | .error cause => raise cause pos

def log (e : Event) : Eval Unit := modify fun m => { m with events := m.events.push e }

/-- counts operations -/
def tick (p : Program) (n : Nat) : Eval Unit := do
  let m ← get
  let operations := m.operations + n
  set { m with operations }
  let limit := p.settings.maxOperations
  if limit ≠ 0 ∧ limit < operations then raise .tooManyOperations none

/-- whether a size exceeds a limit; there is no limit if that is zero -/
def exceeds (limit size : Nat) : Bool := limit != 0 && decide (limit < size)

/-- what something of this size is too large in -/
def excessOf? (s : Settings) (size : Value.Size) : Option String :=
  if exceeds s.maxStringSize size.bytes then some "Length of string"
  else if exceeds s.maxArraySize size.items then some "Size of array/BLOB"
  else if exceeds s.maxMapSize size.fields then some "Size of object map"
  else none

/-- what a value is too large in -/
def excess? (s : Settings) (v : Value) : Option String :=
  match v with
  | .text _ | .list _ | .record _ | .bytes _ => excessOf? s v.size
  | _ => none

/-- a fault if parts of this size are too large together -/
def checkSize (p : Program) (size : Value.Size) : Eval Unit :=
  match excessOf? p.settings size with
  | some what => raise (.tooLarge what) none
  | none => pure ()

/-- a value that is not too large -/
def bounded (p : Program) (v : Value) : Eval Value :=
  match excess? p.settings v with
  | some what => raise (.tooLarge what) none
  | none => pure v

/-! ## Variables -/

/-- what a slot holds -/
def content (m : Machine) : Slot → Held
  | .own h => h
  | .shared cell => m.cells.getD cell default

/-- what a name stands for: a variable, or else a function of the script -/
def held (p : Program) (id : Ident) : Eval Held := do
  let m ← get
  match m.scope.find? fun v => v.name == id.name with
  | some v => pure (content m v.slot)
  | none =>
    if p.functions.any fun f => f.name == id.name then pure ⟨.function id.name [], true⟩
    else raise (.noVariable id.name) (some id.pos)

/-- the value of a name -/
def read (p : Program) (id : Ident) : Eval Value := return (← held p id).value

/-- gives a new slot to the innermost variable of a name -/
def putSlot (name : String) (slot : Slot) : List Variable → List Variable
  | [] => []
  | v :: vs => if v.name == name then ⟨name, slot⟩ :: vs else v :: putSlot name slot vs

/-- gives a new value to a variable -/
def write (name : String) (v : Value) : Eval Unit :=
  modify fun m =>
    match m.scope.find? fun w => w.name == name with
    | some ⟨_, .shared cell⟩ => { m with cells := m.cells.setIfInBounds cell ⟨v, false⟩ }
    | _ => { m with scope := putSlot name (.own ⟨v, false⟩) m.scope }

/-- a new cell -/
def allocate (h : Held) : Eval Nat := do
  let m ← get
  set { m with cells := m.cells.push h }
  return m.cells.size

/-- the cell of a variable, which the variable shares from now on -/
def share (id : Ident) : Eval Nat := do
  match (← get).scope.find? fun v => v.name == id.name with
  | some ⟨_, .shared cell⟩ => pure cell
  | some ⟨_, .own h⟩ =>
    let cell ← allocate h
    modify fun m => { m with scope := putSlot id.name (.shared cell) m.scope }
    return cell
  | none => raise (.noVariable id.name) (some id.pos)

/-- whether the innermost block declares a variable of this name already -/
def isDeclared (name : String) : Eval Bool := do
  let m ← get
  return (m.scope.take m.inBlock).any fun v => v.name == name

/-- whether there is room for so many more variables -/
def checkRoom (p : Program) (more : Nat) : Eval Unit := do
  if p.settings.maxVariables < (← get).scope.length + more then raise .tooManyVariables none

/-- brings a variable into scope beside those of the same name -/
def bind (name : String) (h : Held) : Eval Unit :=
  modify fun m => { m with scope := ⟨name, .own h⟩ :: m.scope, inBlock := m.inBlock + 1 }

/-- brings a variable into scope; one of the same name in the same block makes room for it -/
def declare (name : String) (h : Held) : Eval Unit := do
  if ← isDeclared name then modify fun m => { m with scope := putSlot name (.own h) m.scope }
  else bind name h

/-! ## Scopes -/

/-- what `l` held when it had as many items, which come last -/
def lastOf {α : Type} (n : Nat) (l : List α) : List α := l.drop (l.length - n)

/-- an evaluation whose variables and imports are gone when it ends, however it ends -/
def within {α : Type} (e : Eval α) : Eval α := fun m =>
  let (r, t) := e { m with inBlock := 0 }
  (r, { t with
    scope := lastOf m.scope.length t.scope
    imports := lastOf m.imports.length t.imports
    inBlock := m.inBlock })

/-- an evaluation that sees the variables given to it and no others -/
def framed {α : Type} (scope : List Variable) (e : Eval α) : Eval α := fun m =>
  let (r, t) := e { m with scope, inBlock := 0, level := m.level + 1 }
  (r, { t with
    scope := m.scope
    inBlock := m.inBlock
    imports := lastOf m.imports.length t.imports
    level := m.level })

/-! ## Loops -/

/-- at most as many rounds, from a state on, until one has a value instead of a new state -/
def iterate {σ : Type} : Nat → σ → (σ → Eval (Value ⊕ σ)) → Eval Value
  | 0, _, _ => raise .exhausted none
  | n + 1, s, round => do
    match ← round s with
    | .inl v => pure v
    | .inr s => iterate n s round

/-- one round of a loop: it goes on unless the body leaves it -/
def round (body : Eval Value) : Eval (Option Value) :=
  tryCatch (do let _ ← body; pure none) fun
    | .stop v => pure (some v)
    | .next => pure none
    | s => throw s

/-- the most rounds of a loop, and the deepest nesting of evaluations -/
def bound : Nat := 1000000000000000

/-! ## Namespaces -/

/-- a path as text -/
def pathText (path : List Ident) : String := "::".intercalate (path.map (·.name))

/-- the namespace that was imported first under a name and is in scope -/
def imported? (called : String) (imports : List (String × Space)) : Option Space :=
  (imports.filter fun i => i.1 == called).getLast?.map (·.2)

/-- The namespace at a path, none if only its first segment is known.  An imported namespace has
nothing below it. -/
def space? (p : Program) (path : List Ident) : Eval (Option Space) := do
  match path with
  | [] => pure none
  | root :: rest =>
    match imported? root.name (← get).imports with
    | some s => pure (if rest.isEmpty then some s else none)
    | none =>
      if (Assoc.get? root.name p.tree).isSome then
        pure (p.tree.space? (path.map (·.name)))
      else raise (.noModule (pathText path)) (some root.pos)

end Eval

end Scripting.Script
