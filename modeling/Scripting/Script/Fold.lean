import Scripting.Script.Known
import Scripting.Script.Place

/-!
# Folding

What is known before a script runs is worked out before it runs.  Operators on known values, choices
whose test is known, parts of known values and the names of constants become what they stand for,
and statements that can do nothing are left out.  A part that a known record does not have is
nothing, whereas at run time it would be a fault; that is the one place where a folded script says
more than the script itself.

`step` folds one expression, given a way to fold the expressions inside it, and `fold` closes the
recursion.  A block is folded again and again until nothing in it changes (`settle`).
-/

namespace Scripting.Script

namespace Fold

/-! ## What can be told without running -/

mutual

/-- whether evaluating it can be seen by nothing but its value; a name might stand for nothing -/
def isPure : Expr → Bool
  | .unit _ | .bool .. | .int .. | .float .. | .char .. | .text .. | .value .. | .skip _ => true
  | .closure _ taken _ => taken.isEmpty
  | .joined parts _ => arePure parts
  | .list items _ => arePure items
  | .record fields _ => fieldsPure fields
  | .logical _ l r _ => isPure l && isPure r
  | .block body _ => arePure body
  | .cond test yes none _ => isPure test && isPure yes
  | .cond test yes (some no) _ => isPure test && isPure yes && isPure no
  | .loop (some (.bool false _)) _ _ => true
  | .forIn _ _ source body _ => isPure source && isPure body
  | .attempt body _ handler _ => isPure body && isPure handler
  | _ => false

def arePure : List Expr → Bool
  | [] => true
  | e :: es => isPure e && arePure es

def fieldsPure : List (Ident × Expr) → Bool
  | [] => true
  | (_, e) :: rest => isPure e && fieldsPure rest

end

/-- whether it does nothing as a statement; a name alone is not even looked up -/
def isIdle : Expr → Bool
  | .name _ | .path .. => true
  | e => isPure e

/-- whether a block may do without it, too: what it declares is seen nowhere else -/
def isInnerIdle : Expr → Bool
  | .declare _ _ none => true
  | .declare _ _ (some value) => isPure value
  | .use source _ _ => isPure source
  | e => isIdle e

/-- whether nothing behind it in the same block can be reached -/
def leaves : Expr → Bool
  | .leave .. => true
  | _ => false

/-- whether it changes what is in scope behind it -/
def declares : Expr → Bool
  | .declare .. | .use .. => true
  | _ => false

/-- whether its value may be that of the block it ends -/
def hasValue : Expr → Bool
  | .declare .. | .assign .. | .leave .. | .use .. | .skip _ | .loop .. | .forIn ..
  | .attempt .. => false
  | _ => true

/-- whether what stands before it has to stay: it does something, its value is not known, or it
gives a variable a known one -/
def hasEffect (inner : Bool) (e : Expr) : Bool :=
  !(if inner then isInnerIdle e else isIdle e) ||
    match e with
    | .declare _ _ none => true
    | .declare _ _ (some value) => value.known?.isSome
    | .use source _ _ => source.known?.isNone
    | .cond .. | .block .. => false
    | e => hasValue e && e.known?.isNone

/-! ## Blocks -/

/-- where a block stands -/
structure Site where
  /-- whether its value is used -/
  used : Bool
  /-- whether it is no body of a function -/
  inner : Bool

/-- the body of a function -/
def Site.body : Site := ⟨true, false⟩

/-- a block inside another one -/
def Site.nested (used : Bool) : Site := ⟨used, true⟩

def Site.drops (p : Site) (e : Expr) : Bool := if p.inner then isInnerIdle e else isIdle e

/-- the statements without those that cannot be reached -/
def reachable : List Expr → List Expr
  | [] => []
  | e :: es => if leaves e then [e] else e :: reachable es

mutual

/-- a block that declares nothing makes room for its statements -/
def opened : Expr → List Expr
  | .block body pos => if body.any declares then [.block body pos] else flatten body
  | e => [e]

/-- the statements with all such blocks opened -/
def flatten : List Expr → List Expr
  | [] => []
  | e :: es => opened e ++ flatten es

end

/-- The statements without those that do nothing.  The first `kept` may go only if they do nothing
even where their names are seen. -/
def withoutIdle (p : Site) : Nat → List Expr → List Expr
  | _, [] => []
  | kept, e :: es =>
    if p.used && es.isEmpty then [e]
    else if isIdle e || (kept == 0 && p.drops e) then withoutIdle p (kept - 1) es
    else e :: withoutIdle p (kept - 1) es

/-- how many statements stand before the last one that has an effect -/
def effective (p : Site) (body : List Expr) : Nat :=
  match body.reverse.findIdx? (hasEffect p.inner) with
  | some n => body.length - n - 1
  | none => 0

/-- one step at the end of a block whose value is used, from the last statement to the first; a
function that returns at its end might as well just end -/
def trimUsed (p : Site) : List Expr → Option (List Expr)
  | [] => none
  | e :: es =>
    let idle :=
      if hasValue e || !p.drops e then none
      else match es with
        | [] => some []
        | before :: _ =>
          if hasValue before then (if e.isSkip then none else some (.skip e.pos :: es)) else some es
    match p.inner, e, es with
    | false, .leave .yield none _, [] => some []
    | false, .leave .yield none pos, before :: _ =>
      if hasValue before then some (.skip pos :: es) else some es
    | false, .leave .yield (some value) _, _ => some (value :: es)
    | _, _, _ => idle

/-- the same where the value is not used -/
def trimUnused (p : Site) : List Expr → Option (List Expr)
  | [] => none
  | e :: es => if p.drops e then some es else none

/-- at most as many steps -/
def trim (p : Site) : Nat → List Expr → List Expr
  | 0, body => body
  | n + 1, body =>
    match (if p.used then trimUsed p body else trimUnused p body) with
    | some body => trim p n body
    | none => body

/-- what is left of a block's statements, and whether that is less -/
def tidy (p : Site) (body : List Expr) : List Expr × Bool :=
  let busy := withoutIdle p (effective p body) body
  let ends := (trim p (2 * busy.length + 1) busy.reverse).reverse
  let returns := !p.inner && body.getLast?.any leaves && !ends.getLast?.any leaves
  let skips := ends.getLast?.any Expr.isSkip && !busy.getLast?.any Expr.isSkip
  (ends, ends.length != body.length || returns || skips)

/-! ## What is known on the way -/

structure State where
  /-- the variables in scope, the innermost first, and the values of the constants among them -/
  names : List (String × Option Value) := []
  /-- whether anything was folded -/
  changed : Bool := false

abbrev Work := StateM State

/-- an expression that something else was folded into -/
def folded (e : Expr) : Work Expr := do
  modify fun s => { s with changed := true }
  return e

/-- the value of a constant in scope -/
def constant? (name : String) : Work (Option Value) := do
  return ((← get).names.find? fun n => n.1 == name).bind (·.2)

/-! ## Expressions -/

/-- a part of a known value -/
def part? (pos : Pos) (v : Value) : Step → Option Expr
  | .field id =>
    match v with
    | .record fields => some (.ofValue pos ((Assoc.get? id.name fields).getD .unit))
    | _ => none
  | .index i _ =>
    match i.known? with
    | none => none
    | some k =>
      match Place.get v k, v, k with
      | .ok part, _, _ => some (.ofValue pos part)
      | .error _, .record _, .text _ => some (.unit pos)
      | _, _, _ => none
  | .method id args =>
    if id.name == "type_of" && args.isEmpty then some (.text v.typeName pos) else none

/-- one step into something known -/
def access (root : Expr) (steps : List Step) : Work Expr := do
  let known ← match root with
    | .name id => constant? id.name
    | root => pure root.known?
  match known, steps with
  | some v, [s] =>
    match part? root.pos v s with
    | some e => folded e
    | none => return .access root steps
  | _, _ => return .access root steps

/-- an operator on known values, unless it fails or is a function of its own -/
def binary (limit : Nat) (op : BinaryOp) (l r : Expr) (pos : Pos) : Work Expr := do
  match l.known?, r.known? with
  | some a, some b =>
    match Operator.effort op a b, Operator.apply op a b with
    | 0, .ok v =>
      if limit != 0 && limit < v.size.bytes then return .binary op l r pos
      else folded (.ofValue pos v)
    | _, _ => return .binary op l r pos
  | _, _ => return .binary op l r pos

def unary (op : UnaryOp) (e : Expr) (pos : Pos) : Work Expr :=
  match op, e with
  | .not, .bool b _ => folded (.bool (!b) pos)
  | _, _ => return .unary op e pos

def logical (op : LogicalOp) (l r : Expr) (pos : Pos) : Work Expr :=
  match op, l, r with
  | .and, .bool true _, _ => folded r
  | .and, .bool false _, _ => folded l
  | .and, _, .bool true _ => folded l
  | .or, .bool false _, _ => folded r
  | .or, .bool true _, _ => folded l
  | .or, _, .bool false _ => folded l
  | _, _, _ => return .logical op l r pos

/-- a part of a text before others, of which none has to be empty -/
def joinTo (e : Expr) (es : List Expr) : List Expr :=
  match e, es with
  | .text s pos, .text t _ :: rest => .text (s ++ t) pos :: rest
  | .unit _, _ :: _ => es
  | .text s _, f :: rest => if s.isEmpty then f :: rest else e :: es
  | _, [.unit _] => [e]
  | _, [.text t _] => if t.isEmpty then [e] else e :: es
  | _, _ => e :: es

/-- a text of known parts is one text -/
def joined (parts : List Expr) (pos : Pos) : Work Expr := do
  let e := Expr.joined (parts.foldr joinTo []) pos
  match e.known? with
  | some v => folded (.ofValue pos v)
  | none => return e

/-- a list or record of known parts is one value -/
def collected (e : Expr) : Work Expr :=
  match e.known? with
  | some v => folded (.ofValue e.pos v)
  | none => return e

def call (fn : Ident) (args : List Expr) : Work Expr :=
  match fn.name, args with
  | "type_of", [e] =>
    match e.known? with
    | some v => folded (.text v.typeName fn.pos)
    | none => return .call [] fn args
  | _, _ => return .call [] fn args

/-- A choice whose test is known is the branch that it takes.  One between nothing and nothing is
its test alone, and one inside another one, with no other way out of both, asks both tests. -/
def cond (used : Bool) (test : Expr) (yes : List Expr) (yesPos : Pos) (no : Option Expr)
    (pos : Pos) : Work Expr :=
  let isEmpty : Expr → Bool
    | .block [] _ | .skip _ => true
    | _ => false
  match test, yes, no with
  | .bool true _, _, _ => folded (.block yes yesPos)
  | .bool false _, _, some no => folded no
  | .bool false p, _, none => folded (.skip p)
  | _, [.cond second inner none _], none =>
    folded (.cond (.logical .and test second test.pos) inner none pos)
  | _, _, _ =>
    if yes.isEmpty && no.all isEmpty then
      folded (if used then .block [test, .skip pos] pos else test)
    else return .cond test (.block yes yesPos) no pos

/-- an assignment of an operation on the assigned variable itself is that operation on it -/
def assign (target : Expr) (op : Option BinaryOp) (value : Expr) (pos : Pos) : Work Expr :=
  match target, op, value with
  | .name id, none, .binary o (.name other) r p =>
    let arithmetic := o == .add || o == .sub || o == .mul || o == .div || o == .rem
    if arithmetic && id.name == other.name then folded (.assign target (some o) r p)
    else return .assign target op value pos
  | _, _, _ => return .assign target op value pos

/-- a block of one statement that declares nothing is that statement -/
def promote (body : List Expr) (pos : Pos) : Work Expr :=
  match body with
  | [] => folded (.skip pos)
  | [e] => if declares e then return .block [e] pos else folded e
  | _ => return .block body pos

/-! ## All together -/

section

variable (limit : Nat) (rec : Bool → Expr → Work Expr)

/-- an expression whose value is used -/
def operand (e : Expr) : Work Expr := do
  match ← rec true e with
  | .skip pos => return .unit pos
  | e => return e

def option : Option Expr → Work (Option Expr)
  | none => return none
  | some e => return some (← operand rec e)

def stepOf : Step → Work Step
  | .index i pos => return .index (← operand rec i) pos
  | .field id => return .field id
  | .method id args => return .method id (← args.mapM (operand rec))

/-- a statement of a block; what it declares is known behind it -/
def statement (used : Bool) : Expr → Work Expr
  | .declare id fixed value => do
    let value ← option rec value
    let known := match fixed, value with
      | true, some e => e.known?
      | true, none => some .unit
      | false, _ => none
    modify fun s => { s with names := (id.name, known) :: s.names }
    return .declare id fixed value
  | e => rec used e

/-- the statements of a block, folded at most as often until nothing changes; tells whether anything
did -/
def settle (p : Site) : Nat → List Expr → Work (List Expr × Bool)
  | 0, body => return (body, false)
  | n + 1, body => do
    let names := (← get).names
    modify fun s => { s with changed := false }
    let live := reachable body
    let steps ← live.mapM (statement rec p.used)
    let (left, less) := tidy p steps
    let changed := (← get).changed || less || live.length != body.length
    modify fun s => { s with names }
    if changed then
      let (left, _) ← settle p n left
      return (left, true)
    else return (left, false)

/-- the statements of a block -/
def block (p : Site) (body : List Expr) : Work (List Expr) := do
  let before := (← get).changed
  let flat := flatten body
  let (left, changed) ← settle rec p 1000 flat
  modify fun s => { s with changed := before || changed || flat.length != body.length }
  return left

/-- the body of a choice, loop or handler -/
def branch (used : Bool) : Expr → Work Expr
  | .block body pos => return .block (← block rec (.nested used) body) pos
  | e => rec used e

/-- folds where more variables are in scope -/
def beside {α : Type} (names : List Ident) (work : Work α) : Work α := do
  let before := (← get).names
  modify fun s => { s with names := names.map (fun id => (id.name, none)) ++ before }
  let a ← work
  modify fun s => { s with names := before }
  return a

/-- one expression, given a way to fold those inside it; `used` tells whether its value is used -/
def step (used : Bool) : Expr → Work Expr
  | .name id => do
    match ← constant? id.name with
    | some v => folded (.ofValue id.pos v)
    | none => return .name id
  | .joined parts pos => do joined (← parts.mapM (operand rec)) pos
  | .list items pos => do collected (.list (← items.mapM (operand rec)) pos)
  | .record fields pos => do
    let fields ← fields.mapM fun f => return (f.1, ← operand rec f.2)
    collected (.record fields pos)
  | .access root steps => do
    let root ← match root with
      | .name id => pure (.name id)
      | root => operand rec root
    access root (← steps.mapM (stepOf rec))
  | .call [] fn args => do call fn (← args.mapM (operand rec))
  | .call space fn args => return .call space fn (← args.mapM (operand rec))
  | .unary op e pos => do unary op (← operand rec e) pos
  | .binary op l r pos => do binary limit op (← operand rec l) (← operand rec r) pos
  | .logical op l r pos => do logical op (← operand rec l) (← operand rec r) pos
  | .closure fn taken pos => return .closure fn (← taken.mapM (operand rec)) pos
  | .block body pos => do promote (← block rec (.nested used) body) pos
  | .cond test (.block yes p) no pos => do
    let test ← operand rec test
    let yes ← block rec (.nested used) yes
    match no with
    | none => cond used test yes p none pos
    | some no => cond used test yes p (some (← branch rec used no)) pos
  | .loop test body pos => do
    match ← option rec test with
    | some (.bool false _) => folded (.skip pos)
    | some (.bool true _) => folded (.loop none (← branch rec false body) pos)
    | test => return .loop test (← branch rec false body) pos
  | .forIn item counter source body pos => do
    let source ← operand rec source
    let body ← beside (item :: counter.toList) (branch rec false body)
    return .forIn item counter source body pos
  | .declare id fixed value => return .declare id fixed (← option rec value)
  | .assign target op value pos => do assign target op (← operand rec value) pos
  | .leave exit value pos => return .leave exit (← option rec value) pos
  | .attempt body caught handler pos => do
    match ← branch rec false body with
    | .block [] p => folded (.skip p)
    | body =>
      let handler ← beside caught.toList (branch rec false handler)
      return .attempt body caught handler pos
  | .use source called pos => return .use (← operand rec source) called pos
  | e => return e

end

/-- expressions nested at most as deep -/
def fold (limit : Nat) : Nat → Bool → Expr → Work Expr
  | 0, _, e => return e
  | n + 1, used, e => step limit (fold limit n) used e

/-- the deepest nesting of expressions -/
def depth : Nat := 1000000000

/-- the statements of a function -/
def statements (limit : Nat) (body : List Expr) : List Expr :=
  ((block (fold limit depth) .body body).run {}).1

/-- the body of a function -/
def body (limit : Nat) : Expr → Expr
  | .block stmts pos => .block (statements limit stmts) pos
  | e =>
    match statements limit [e] with
    | [e] => e
    | stmts => .block stmts e.pos

end Fold

/-- a script with all that is known worked out, where no text is longer than `limit` -/
def Parsed.fold (limit : Nat) (s : Parsed) : Parsed :=
  ⟨s.functions.map fun f => { f with body := Fold.body limit f.body },
    Fold.statements limit s.body⟩

end Scripting.Script
