import Scripting.Script.Builtin
import Scripting.Script.Known
import Scripting.Script.Machine
import Scripting.Script.Source

/-!
# Running scripts

`eval` is the value of an expression, given a way to evaluate the expressions inside it, and `run`
closes the recursion.  The way inside is the same for the body of a called function, so the depth
of `run` bounds the nesting of expressions and calls together; the depth given to it by
`Program.call` is beyond what any limit on calls admits.

Operands come before what they are operands of: the indices and arguments behind dots and brackets
are evaluated first, then what they are applied to, and what a method changes is put back into the
variable at the root.
-/

namespace Scripting.Script

namespace Eval

open Library (Space)

/-! ## Counting -/

/-- whether an expression is a statement where a value is wanted -/
def isStatement : Expr → Bool
  | .cond .. | .loop .. | .forIn .. | .attempt .. | .leave .. | .declare .. | .assign .. | .use ..
  | .skip _ => true
  | _ => false

/-- the operations that an expression counts for, apart from those inside it -/
def weight (e : Expr) : Nat := if isStatement e then 2 else 1

/-- the same where no value is wanted -/
def statementWeight (e : Expr) : Nat :=
  match e with
  | .call .. | .unary .. | .binary .. | .block .. => 1
  | e => if isStatement e then 1 else 2

variable (p : Program) (rec : Expr → Eval Value)

/-- the value of an operand -/
def value (e : Expr) : Eval Value := do
  tick p (weight e)
  rec e

def statement (e : Expr) : Eval Value := do
  tick p (statementWeight e)
  rec e

/-- the value of an argument, which counts for one operation if it is known -/
def argument (e : Expr) : Eval Value := do
  match e.known? with
  | some v =>
    tick p 1
    return v
  | none => value p rec e

def arguments : List Expr → Eval (List Value)
  | [] => pure []
  | e :: es => do
    let v ← argument p rec e
    let vs ← arguments es
    pure (v :: vs)

/-- the statements one after the other, for the value of the last -/
def statements : List Expr → Eval Value
  | [] => pure .unit
  | [e] => statement p rec e
  | e :: es => do
    let _ ← statement p rec e
    statements es

/-- the statements of a block, in a scope of their own -/
def block (e : Expr) : Eval Value :=
  match e with
  | .block body _ => within (statements p rec body)
  | e => within (statement p rec e)

/-- the value of a test -/
def test (e : Expr) : Eval Bool := do
  match ← value p rec e with
  | .bool b => pure b
  | v => raise (.wrongType v.typeName "bool") (some e.start)

/-! ## Calls -/

/-- a fault on its way out of a function; a limit that was met is met everywhere -/
def leaveCall (name : String) (pos : Option Pos) (f : Fault) : Fault :=
  let (cause, _) := f.root
  if cause.isLimit then .raised cause none else .inCall name f pos

/-- runs the body of a function in its own frame; `wrap` is done to a fault on its way out -/
def enter (f : Function) (cells : List Nat) (args : List Value) (wrap : Fault → Fault) :
    Eval Value := do
  tick p 1
  let m ← get
  if p.settings.maxCallLevels < m.level then raise .stackOverflow none
  if p.settings.maxVariables < f.params.length then raise .tooManyVariables none
  let slots := cells.map Slot.shared ++ args.map fun v => Slot.own ⟨v, false⟩
  let scope := ((f.params.zip slots).map fun s => Variable.mk s.1 s.2).reverse
  tryCatch (framed scope (block p rec f.body)) fun
    | .yield v => pure v
    | .fault fault => throw (.fault (wrap fault))
    | s => throw s

def function? (name : String) (arity : Nat) : Option Function :=
  p.functions.find? fun f => f.name == name && f.params.length == arity

/-- calls a function of the script, if there is one of this name for so many arguments -/
def callScript? (name : String) (cells : List Nat) (args : List Value) (pos : Option Pos) :
    Option (Eval Value) :=
  (function? p name (cells.length + args.length)).map fun f =>
    enter p rec f cells args (leaveCall name pos)

/-- calls a function value, which stands at `pos` -/
def callValue (fn : Value) (args : List Value) (id : Ident) (pos : Pos) : Eval Value :=
  match fn with
  | .function name cells =>
    match callScript? p rec name cells args (some id.pos) with
    | some v => v
    | none => raise (Operator.missing name args) (some id.pos)
  | v => raise (.wrongType v.typeName "Fn") (some pos)

/-- as many of the arguments that a function is offered as it takes: one, two, or none -/
def accepted (name : String) (cells : List Nat) (args : List Value) : List Value :=
  match [1, 2, 0].find? fun n => (function? p name (cells.length + n)).isSome with
  | some n => args.take n
  | none => args

/-- what a function makes of the items of a list, which it may take with their numbers -/
def mapItems (name : String) (cells : List Nat) (id : Ident) :
    Nat → List Value → Eval (List Value)
  | _, [] => pure []
  | i, v :: vs => do
    let args := accepted p name cells [v, .int i]
    let w ← callValue p rec (.function name cells) args id id.pos
    let ws ← mapItems name cells id (i + 1) vs
    pure (w :: ws)

/-- what a function makes of the fields of a record, of which it may take the names and the
values -/
def mapFields (name : String) (cells : List Nat) (id : Ident) :
    List (String × Value) → Eval (List (String × Value))
  | [] => pure []
  | (key, v) :: rest => do
    let args := accepted p name cells [.text key, v]
    let w ← callValue p rec (.function name cells) args id id.pos
    let ws ← mapFields name cells id rest
    pure ((key, w) :: ws)

/-- the name and the cells of a function, which may be given by its name alone -/
def functionOf? : Value → Option (String × List Nat)
  | .function name cells => some (name, cells)
  | .text name => some (name, [])
  | _ => none

/-- how many operations it takes to write a value: one for each that is written for itself -/
def writing : Value → Nat
  | .text _ => 0
  | .list items => Value.countItems items
  | .record fields => Value.countFields fields
  | _ => 1

/-- a call of a function that every script may call; `fixed` tells whether the first argument is
that of a method, and constant -/
def callBuiltin (id : Ident) (args : List Value) (fixed : Bool) : Eval Builtin.Answer := do
  if id.name != "type_of" then tick p 1
  match id.name, args with
  | "print", [] =>
    log (.printed "")
    pure ⟨.unit, none⟩
  | "print", [v] =>
    tick p (writing v)
    log (.printed v.outer)
    pure ⟨.unit, none⟩
  | "debug", [] =>
    log (.debugged "" id.pos.line)
    pure ⟨.unit, none⟩
  | "debug", [v] =>
    tick p (writing v)
    log (.debugged v.inner id.pos.line)
    pure ⟨.unit, none⟩
  | "map", [.list items, fn] =>
    match functionOf? fn with
    | some (name, cells) =>
      return ⟨← bounded p (.list (← mapItems p rec name cells id 0 items)), none⟩
    | none => raise (Operator.missing id.name args) (some id.pos)
  | "map", [.record fields, fn] =>
    match functionOf? fn with
    | some (name, cells) =>
      return ⟨← bounded p (.record (← mapFields p rec name cells id fields)), none⟩
    | none => raise (Operator.missing id.name args) (some id.pos)
  | _, _ =>
    match Builtin.call? id.name args with
    | some (.ok answer) =>
      if fixed && answer.first.isSome then raise (.constantMethod id.name) (some id.pos)
      let _ ← bounded p answer.value
      match answer.first with
      | some v => let _ ← bounded p v
      | none => pure ()
      pure answer
    | some (.error cause) => throw (.fault (.inCall id.name (.raised cause none) (some id.pos)))
    | none => raise (Operator.missing id.name args) (some id.pos)

/-- a call by name -/
def callNamed (id : Ident) (args : List Value) : Eval Builtin.Answer :=
  match callScript? p rec id.name [] args (some id.pos) with
  | some v => do return ⟨← v, none⟩
  | none => callBuiltin p rec id args false

/-- a call of a function of a namespace -/
def callSpace (space : List Ident) (id : Ident) (args : List Value) : Eval Value := do
  match (← space? p space).bind fun s => s.native? id.name args with
  | some native =>
    tick p 1
    for e in native.events args do log e
    match native.call .standard p.around args with
    | .ok v => bounded p v
    | .error message => raise (.thrown (.text message)) none
  | none => raise (Operator.missing (pathText space ++ "::" ++ id.name) args) (some id.pos)

/-- A call of a method: of the function value that it is called on, of the function that a record
has under that name, of a function of the script, or of a builtin that may change what it is called
on, unless that is constant. -/
def callMethod (target : Value) (fixed : Bool) (id : Ident) (args : List Value) :
    Eval Builtin.Answer :=
  let property := match target with
    | .record fields => Assoc.get? id.name fields
    | _ => none
  match property with
  | some (.function name cells) => do
    return ⟨← callValue p rec (.function name cells) args id id.pos, none⟩
  | _ =>
    if id.name == "call" then do return ⟨← callValue p rec target args id id.pos, none⟩
    else
      match callScript? p rec id.name [] args (some id.pos) with
      | some v => do return ⟨← v, none⟩
      | none => callBuiltin p rec id (target :: args) fixed

/-! ## Parts of values -/

/-- a step whose operands are evaluated; an index keeps its place and that of its bracket -/
inductive Ready where
  | index (i : Value) (place bracket : Pos)
  | field (id : Ident)
  | method (id : Ident) (args : List Value)

def ready : Step → Eval Ready
  | .index i bracket => do
    tick p 1
    return .index (← value p rec i) i.start bracket
  | .field id => do
    tick p 1
    return .field id
  | .method id args => do
    tick p 1
    return .method id (← arguments p rec args)

def readyAll : List Step → Eval (List Ready)
  | [] => pure []
  | s :: rest => do
    let r ← ready p rec s
    let rs ← readyAll rest
    pure (r :: rs)

/-- the steps behind an expression; one alone counts for nothing if nothing has to be evaluated -/
def readies (steps : List Step) : Eval (List Ready) :=
  match steps with
  | [.field id] => pure [.field id]
  | [.method id []] => pure [.method id []]
  | [.index i bracket] =>
    match i.known? with
    | some v => pure [.index v i.start bracket]
    | none => readyAll p rec steps
  | _ => readyAll p rec steps

/-- a result, or a fault at the place of what it is about -/
def liftAt {α : Type} (index bracket value : Pos) (r : Place.Result α) : Eval α :=
  match r with
  | .ok a => pure a
  | .error ⟨cause, spot⟩ =>
    raise cause (some (match spot with
      | .index => index
      | .bracket => bracket
      | .value => value))

/-- the part of a value that steps lead to, and the value afterwards if it changed -/
def walk : List Ready → Value → Bool → Eval (Value × Option Value)
  | [], v, _ => pure (v, none)
  | .index i place bracket :: rest, v, fixed => do
    let part ← liftAt place bracket place (Place.get v i)
    let (result, part) ← walk rest part fixed
    return (result, part.bind fun part => (Place.set v i part).toOption)
  | .field id :: rest, v, fixed => do
    let part ← liftAt id.pos id.pos id.pos (Place.property v id.name)
    let (result, part) ← walk rest part fixed
    return (result, part.bind fun part => (Place.setProperty v id.name part).toOption)
  | .method id args :: rest, v, fixed => do
    let answer ← callMethod p rec v fixed id args
    let (result, _) ← walk rest answer.value false
    return (result, answer.first)

/-- What is assigned to a place with the value `old`.  A list that is put behind another one is not
held against the limits. -/
def assigned (op : Option BinaryOp) (pos : Pos) (old new : Value) : Eval Value :=
  match op with
  | none => pure new
  | some op => do
    let v ← lift (Operator.update op old new) (some pos)
    match op, old, new with
    | .add, .list _, .list _ => pure v
    | _, _, _ => bounded p v

/-- what an assignment goes to, and whether that is constant -/
structure Target where
  root : Ident
  fixed : Bool

/-- The value after an assignment to the part that steps lead to.  What directly holds that part is
held against the limits. -/
def store (target : Target) (op : Option BinaryOp) (pos : Pos) (new : Value) :
    List Ready → Value → Eval Value
  | [], v =>
    if target.fixed then raise (.constant target.root.name) (some target.root.pos)
    else assigned p op pos v new
  | .index i place bracket :: rest, v => do
    let old := Place.get v i
    let old := if rest.isEmpty then Place.orUnit old else old
    match op, rest, old with
    | none, [], .error _ => liftAt place bracket pos (Place.set v i new)
    | _, _, old => do
      let part ← store target op pos new rest (← liftAt place bracket pos old)
      let v ← liftAt place bracket pos (Place.set v i part)
      if rest.isEmpty then bounded p v else pure v
  | .field id :: rest, v => do
    let old := Place.property v id.name
    let old := if rest.isEmpty then Place.orUnit old else old
    match op, rest, old with
    | none, [], _ => do
      let v ← liftAt id.pos id.pos pos (Place.setProperty v id.name new)
      if target.fixed then raise (.constant target.root.name) (some target.root.pos)
      bounded p v
    | _, _, old => do
      let part ← store target op pos new rest (← liftAt id.pos id.pos pos old)
      let v ← liftAt id.pos id.pos pos (Place.setProperty v id.name part)
      if rest.isEmpty then bounded p v else pure v
  | .method id args :: rest, v => do
    let answer ← callMethod p rec v target.fixed id args
    let _ ← store target op pos new rest answer.value
    return answer.first.getD v

/-! ## Loops -/

def isEmptyBlock : Expr → Bool
  | .block [] _ => true
  | _ => false

/-- one round of a loop, which goes on with `next`; an empty body counts as one operation -/
def turn {σ : Type} (body : Expr) (next : σ) : Eval (Value ⊕ σ) := do
  if isEmptyBlock body then tick p 1
  match ← round (block p rec body) with
  | some v => return .inl v
  | none => return .inr next

def whileLoop (condition : Option Expr) (body : Expr) : Eval Value :=
  iterate bound () fun _ => do
    let goOn ← match condition with
      | some e => test p rec e
      | none => pure true
    if goOn then turn p rec body () else return .inl .unit

def forLoop (item : Ident) (counter : Option Ident) (source body : Expr) : Eval Value := do
  checkRoom p (if counter.isSome then 2 else 1)
  match Source.ofValue? (← value p rec source) with
  | none => raise .notIterable (some source.start)
  | some items =>
    within do
      match counter with
      | some id => bind id.name ⟨.int 0, false⟩
      | none => pure ()
      bind item.name ⟨.unit, false⟩
      iterate bound (0, items) fun (i, items) => do
        match items.next? with
        | none => return .inl .unit
        | some (v, items) =>
          match counter with
          | some id => write id.name (.int i)
          | none => pure ()
          write item.name v
          turn p rec body (i + 1, items)

/-! ## Expressions -/

/-- the texts of parts put together -/
def joined : String → List Expr → Eval Value
  | s, [] => pure (.text s)
  | s, e :: es => do
    let v ← value p rec e
    match v with
    | .text _ => pure ()
    | v => tick p v.count
    let s := s ++ v.outer
    checkSize p ⟨0, 0, s.utf8ByteSize⟩
    joined s es

/-- the items of a list, which are held against the limits one after the other -/
def items : Value.Size → List Expr → Eval (List Value)
  | _, [] => pure []
  | size, e :: es => do
    let v ← value p rec e
    let size := (size.add v.size).add ⟨1, 0, 0⟩
    checkSize p size
    let vs ← items size es
    return v :: vs

/-- the fields of a record, likewise -/
def fields : Value.Size → List (Ident × Expr) → Eval (List (String × Value))
  | _, [] => pure []
  | size, (id, e) :: rest => do
    let v ← value p rec e
    let size := (size.add v.size).add ⟨0, 1, 0⟩
    checkSize p size
    let fs ← fields size rest
    return (id.name, v) :: fs

def logical (op : LogicalOp) (l r : Expr) : Eval Value := do
  let a ← test p rec l
  match op, a with
  | .and, false => pure (.bool false)
  | .or, true => pure (.bool true)
  | _, _ => return .bool (← test p rec r)

/-- a call by name; the first argument, if it is a variable, becomes what the call makes of it -/
def call (id : Ident) (args : List Expr) : Eval Value := do
  let vs ← arguments p rec args
  match id.name, args, vs with
  | "call", fn :: _, v :: rest => callValue p rec v rest id fn.start
  | _, _, _ =>
    let answer ← callNamed p rec id vs
    match args.head?, answer.first with
    | some (.name var), some v => if !(← held p var).fixed then write var.name v
    | _, _ => pure ()
    return answer.value

def accessed (root : Expr) (steps : List Step) : Eval Value := do
  let steps ← readies p rec steps
  match root with
  | .name id =>
    tick p 1
    let h ← held p id
    let (result, after) ← walk p rec steps h.value h.fixed
    match after with
    | some v => if !h.fixed then write id.name v
    | none => pure ()
    return result
  | root => return (← walk p rec steps (← value p rec root) false).1

/-- a constant of a namespace -/
def constant (space : List Ident) (id : Ident) : Eval Value := do
  match (← space? p space).bind fun s => s.constant? id.name with
  | some v => pure v
  | none =>
    raise (.noVariable (pathText space ++ "::" ++ id.name)) ((space.head?.getD id).pos)

def assign (target : Expr) (op : Option BinaryOp) (new : Expr) (pos : Pos) : Eval Value := do
  let new ← value p rec new
  match target with
  | .name id =>
    tick p 1
    let h ← held p id
    write id.name (← store p rec ⟨id, h.fixed⟩ op pos new [] h.value)
  | .access (.name id) steps =>
    let steps ← readies p rec steps
    tick p 1
    let h ← held p id
    write id.name (← store p rec ⟨id, h.fixed⟩ op pos new steps h.value)
  | .path space id =>
    tick p 1
    let _ ← store p rec ⟨id, true⟩ op pos new [] (← constant p space id)
  | .access (.path space id) steps =>
    let steps ← readies p rec steps
    tick p 1
    let _ ← store p rec ⟨id, true⟩ op pos new steps (← constant p space id)
  | e => raise .noPlace (some e.pos)
  return .unit

/-- what a function without a name takes along, each in a cell -/
def taken : List Expr → Eval (List Nat)
  | [] => pure []
  | .name id :: es => do
    let cell ← share id
    let cells ← taken es
    pure (cell :: cells)
  | e :: es => do
    let cell ← allocate ⟨← rec e, false⟩
    let cells ← taken es
    pure (cell :: cells)

/-- a statement that leaves what it is in -/
def leave (exit : Exit) (e : Option Expr) (pos : Pos) : Eval Value := do
  let v ← match e with
    | some e => value p rec e
    | none => pure .unit
  match exit with
  | .stop => throw (.stop v)
  | .next => throw .next
  | .yield => throw (.yield v)
  | .raise => raise (.thrown v) (some pos)

/-- runs `handler` after a fault that can be caught; if that throws nothing in particular, the fault
goes on -/
def attempt (body : Expr) (caught : Option Ident) (handler : Expr) : Eval Value :=
  tryCatch (block p rec body) fun
    | .fault f =>
      if f.root.1.isLimit then throw (.fault f)
      else do
        tryCatch
          (within do
            match caught with
            | some id =>
              checkRoom p 1
              bind id.name ⟨f.caught, false⟩
            | none => pure ()
            let _ ← block p rec handler
            pure .unit)
          fun
            | .fault (.raised (.thrown .unit) pos) =>
              throw (.fault (match f with
                | .raised c _ => .raised c pos
                | .inCall name inner _ => .inCall name inner pos))
            | s => throw s
    | s => throw s

/-- carries out an import -/
def use (source : Expr) (called : Option Ident) : Eval Value := do
  if p.settings.maxModules ≤ (← get).imported then raise .tooManyModules none
  match ← value p rec source with
  | .text path =>
    match Assoc.get? path p.resolver with
    | none => raise (.noModule path) (some source.start)
    | some s =>
      modify fun m => { m with
        imported := m.imported + 1
        imports := match called with
          | some id => (id.name, s) :: m.imports
          | none => m.imports }
      return .unit
  | v => raise (.wrongType v.typeName "string") (some source.start)

/-- one expression, given a way to evaluate the expressions inside it -/
def eval : Expr → Eval Value
  | .unit _ | .skip _ => pure .unit
  | .bool b _ => pure (.bool b)
  | .int i _ => pure (.int i)
  | .float x _ => pure (.float x)
  | .text s _ => pure (.text s)
  | .char c _ => pure (.char c)
  | .value v _ => pure v
  | .joined parts _ => joined p rec "" parts
  | .name id => read p id
  | .path space id => constant p space id
  | .list es _ => return .list (← items p rec {} es)
  | .record fs _ => return Expr.fieldsOf (← fields p rec {} fs)
  | .access root steps => accessed p rec root steps
  | .call [] id args => call p rec id args
  | .call space id args => do callSpace p space id (← arguments p rec args)
  | .unary op e pos => do
    let v ← argument p rec e
    if op != .not then tick p 1
    lift (Operator.applyUnary op v) (some pos)
  | .binary op l r pos => do
    let a ← argument p rec l
    let b ← argument p rec r
    tick p (Operator.effort op a b)
    bounded p (← lift (Operator.apply op a b) (some pos))
  | .logical op l r _ => logical p rec op l r
  | .closure fn [] _ => pure (.function fn [])
  | .closure fn es _ => do
    tick p (es.length + 3)
    return .function fn (← taken rec es)
  | .block body pos => block p rec (.block body pos)
  | .cond condition yes no _ => do
    if ← test p rec condition then block p rec yes
    else
      match no with
      | some no => block p rec no
      | none => pure .unit
  | .loop condition body _ => whileLoop p rec condition body
  | .forIn item counter source body _ => forLoop p rec item counter source body
  | .declare id fixed e => do
    if !(← isDeclared id.name) then checkRoom p 1
    let v ← match e with
      | some e => value p rec e
      | none => pure .unit
    declare id.name ⟨v, fixed⟩
    return .unit
  | .assign target op e pos => assign p rec target op e pos
  | .leave exit e pos => leave p rec exit e pos
  | .attempt body caught handler _ => attempt p rec body caught handler
  | .use source called _ => use p rec source called

/-- an expression whose nesting is bounded -/
def run : Nat → Expr → Eval Value
  | 0, _ => raise .exhausted none
  | n + 1, e => eval p (run n) e

theorem run_succ (n : Nat) (e : Expr) : run p (n + 1) e = eval p (run p n) e := rfl

end Eval

/-- how a call of a script's function ended -/
structure Program.Outcome where
  result : Except Fault Value
  events : List Event

/-- Calls a function.  Statements outside functions are not run, and the function sees nothing of
them. -/
def Program.call (p : Program) (f : Function) (args : List Value) : Program.Outcome :=
  let call : Eval Value := Eval.enter p (Eval.run p Eval.bound) f [] args fun fault =>
    if fault.root.1.isLimit then .raised fault.root.1 none else fault
  let (r, m) : Except Signal Value × Machine := call {}
  let result : Except Fault Value := match r with
    | .ok v => .ok v
    | .error (.fault fault) => .error fault
    | .error _ => .ok .unit
  ⟨result, m.events.toList⟩

end Scripting.Script
