import Scripting.Script.CompileFault
import Scripting.Script.Known
import Scripting.Script.Lexer
import Scripting.Settings

/-!
# Reading a script

`Parsed.ofText` makes a syntax tree of a script.  What can be read at a place is a `Goal`; `step`
reads one goal, given a way to read the goals inside it, and `solve` closes the recursion.  Every
chain of goals is bounded by a multiple of the number of tokens, because no more than a few goals
follow each other before a token is consumed.

On the way the reader keeps track of the variables in scope: a constant cannot be assigned to, a
function without a name takes along the variables it does not declare, and with strict variables
every name has to be declared before.
-/

namespace Scripting.Script

namespace Parser

/-- a variable in scope -/
structure Local where
  name : String
  constant : Bool
deriving Inhabited

/-- The scope of one function.  Those declared inside the innermost block come first; there are
`inBlock` of them. -/
structure Frame where
  locals : List Local := []
  inBlock : Nat := 0
  /-- names that the function uses and does not declare -/
  outside : List Ident := []
  /-- whether the function has no name and takes variables along -/
  takesAlong : Bool := false
deriving Inhabited

structure State where
  tokens : List Located
  /-- where the script ends -/
  finish : Pos
  functions : List Function := []
  /-- aliases of the imports read so far -/
  imports : List String := []
  frame : Frame := {}
  settings : Settings
  /-- the first segments of the namespaces that are there from the start -/
  spaces : List String
deriving Inhabited

abbrev P := StateT State (Except CompileFault)

/-- what surrounds the place where reading goes on -/
structure Context where
  /-- how deep the place is nested, and how deep it may be; no limit at all if that is zero -/
  level : Nat
  limit : Nat
  pos : Pos
  inLoop : Bool := false
  /-- outside functions and blocks -/
  outermost : Bool := false

inductive Goal where
  | statement (c : Context)
  | expression (c : Context)
  | unary (c : Context)
  | block (c : Context)
  | conditional (c : Context)
  /-- operators behind `left` that bind tighter than `precedence` -/
  | climb (c : Context) (precedence : Nat) (left : Expr)

abbrev Solve := Goal → P Expr

def fail {α : Type} (cause : CompileCause) (pos : Pos) : P α := throw ⟨cause, some pos⟩

/-! ## Tokens -/

def peek : P Located := do
  let s ← get
  return s.tokens.headD ⟨.eof, s.finish⟩

def next : P Located := do
  let t ← peek
  modify fun s => { s with tokens := s.tokens.drop 1 }
  return t

def Located.isMark (t : Located) (mark : String) : Bool :=
  match t.token with
  | .mark m => m == mark
  | _ => false

def seesMark (mark : String) : P Bool := return Located.isMark (← peek) mark

/-- consumes a mark if it is next -/
def accept (mark : String) : P Bool := do
  if ← seesMark mark then
    let _ ← next
    return true
  else return false

/-- fails at a token: with its own fault if it has one -/
def failAt {α : Type} (t : Located) (cause : CompileCause) : P α :=
  match t.token with
  | .bad fault => fail (.lexical fault) t.pos
  | _ => fail cause t.pos

/-- consumes a mark that has to come next -/
def expect (mark purpose : String) : P Unit := do
  let t ← next
  if Located.isMark t mark then return ()
  else failAt t (.missing mark purpose)

/-- one level deeper -/
def deeper (c : Context) : P Context :=
  if c.limit ≠ 0 ∧ c.limit ≤ c.level then fail .tooDeep c.pos
  else return { c with level := c.level + 1 }

/-- what one round of a repetition yields -/
inductive Round (α : Type) where
  | done
  | pass
  | item (a : α)
  | last (a : α)

/-- the items of at most as many rounds; more rounds than that are a fault -/
def collect {α : Type} : Nat → P (Round α) → P (List α)
  | 0, _ => do fail .tooDeep (← peek).pos
  | n + 1, round => do
    match ← round with
    | .done => return []
    | .pass => collect n round
    | .item a => return a :: (← collect n round)
    | .last a => return [a]

/-- rounds as long as there are tokens -/
def rounds {α : Type} (round : P (Round α)) : P (List α) := do
  collect (2 * (← get).tokens.length + 2) round

/-! ## Scopes -/

/-- brings a variable into scope; one of the same name in the same block makes room for it -/
def declare (name : String) (constant : Bool) : P Unit :=
  modify fun s =>
    let f := s.frame
    let (here, before) := f.locals.splitAt f.inBlock
    if here.any (·.name == name) then
      let here := here.map fun v => if v.name == name then ⟨name, constant⟩ else v
      { s with frame := { f with locals := here ++ before } }
    else
      { s with frame := { f with
          locals := ⟨name, constant⟩ :: f.locals, inBlock := f.inBlock + 1 } }

/-- brings a variable into scope beside those of the same name -/
def bind (name : String) : P Unit :=
  modify fun s =>
    { s with frame := { s.frame with
        locals := ⟨name, false⟩ :: s.frame.locals, inBlock := s.frame.inBlock + 1 } }

/-- reads something with a scope of its own inside the present one -/
def nested {α : Type} (p : P α) : P α := do
  let s ← get
  set { s with frame := { s.frame with inBlock := 0 } }
  let a ← p
  modify fun t =>
    { t with
      imports := s.imports
      frame := { s.frame with outside := t.frame.outside } }
  return a

def local? (name : String) : P (Option Local) := return (← get).frame.locals.find? (·.name == name)

/-- uses a variable; one that is neither in scope nor a function is taken along from outside -/
def useVariable (id : Ident) : P Unit := do
  let s ← get
  if s.frame.locals.any (·.name == id.name) || s.functions.any (·.name == id.name) then return ()
  if !s.frame.outside.any (·.name == id.name) then
    set { s with frame := { s.frame with outside := s.frame.outside ++ [id] } }

/-- With strict variables, a name has to be declared, unless it is that of a function.  A function
that takes variables along is checked where it stands, for all of them. -/
def checkVariable (id : Ident) : P Unit := do
  let s ← get
  if s.settings.strictVariables && !s.frame.takesAlong
      && !s.frame.locals.any (·.name == id.name) && !s.functions.any (·.name == id.name) then
    fail (.undefinedVariable id.name) id.pos

/-- with strict variables, a namespace has to be imported or there from the start -/
def checkSpace (space : List Ident) : P Unit := do
  let s ← get
  match space with
  | [] => return ()
  | root :: _ =>
    if s.settings.strictVariables && !s.imports.contains root.name && !s.spaces.contains root.name
    then fail (.undefinedModule root.name) root.pos

/-- the name of a variable -/
def variableName : P Ident := do
  let t ← next
  match t.token with
  | .name s => return ⟨s, t.pos⟩
  | .reserved s => fail (.reserved s) t.pos
  | _ => failAt t .noVariableName

/-! ## Kinds of expressions -/

/-- how a literal is called where it cannot stand -/
def literalKind? : Expr → Option String
  | .int .. => some "a number"
  | .float .. => some "a floating-point number"
  | .char .. => some "a character"
  | .text .. | .joined .. => some "a string"
  | .list .. => some "an array"
  | .record .. => some "an object map"
  | .unit _ => some "()"
  | .bool .. => some "a boolean"
  | _ => none

/-- refuses a literal that is no boolean -/
def ensureBool (e : Expr) : P Unit :=
  match e, literalKind? e with
  | .bool .., _ => return ()
  | _, some kind => fail (.wrongKind "a boolean expression" kind) e.pos
  | _, none => return ()

/-- refuses a literal that holds no items -/
def ensureIterable (e : Expr) : P Unit :=
  match e with
  | .text .. | .joined .. | .list .. => return ()
  | _ =>
    match literalKind? e with
    | some kind => fail (.wrongKind "an iterable value" kind) e.pos
    | none => return ()

/-- a block is no test -/
def ensureNoBlock : P Unit := do
  let t ← peek
  if Located.isMark t "\x7b" then fail (.noExpression "a boolean") t.pos

/-- neither is an assignment -/
def ensureNoAssignment : P Unit := do
  let t ← peek
  if Located.isMark t "=" then fail (.lexical (.symbol "Possibly a typo of '=='?")) t.pos

def isConstant : Expr → Bool
  | .unit _ | .bool .. | .int .. | .float .. | .text .. | .char .. => true
  | .list items _ => items.all fun
    | .unit _ | .bool .. | .int .. | .float .. | .text .. | .char .. => true
    | _ => false
  | _ => false

/-! ## Blocks -/

/-- what has to stand between a statement and the next one -/
def terminate (closing : Bool) (e : Expr) : P (Round Expr) := do
  let t ← peek
  match t.token with
  | .mark "\x7d" =>
    if closing then
      let _ ← next
      return .last e
    if e.endsItself then return .item e
    fail (.missing ";" "to terminate this statement") t.pos
  | .mark ";" =>
    let _ ← next
    return .item e
  | .eof =>
    if closing && !e.endsItself then fail (.missing ";" "to terminate this statement") t.pos
    return .item e
  | _ =>
    if e.endsItself then return .item e
    failAt t (.missing ";" "to terminate this statement")

def blockRound (solve : Solve) (c : Context) : P (Round Expr) := do
  let t ← peek
  match t.token with
  | .mark "\x7d" =>
    let _ ← next
    return .done
  | .eof => fail (.missing "\x7d" "to terminate this block") t.pos
  | _ =>
    let e ← solve (.statement { c with outermost := false })
    if e.isSkip then return .pass else terminate true e

def block (solve : Solve) (c : Context) : P Expr := do
  let t ← peek
  expect "\x7b" "to start a statement block"
  let body ← nested (rounds (blockRound solve c))
  return .block body t.pos

/-! ## Functions -/

/-- reads something in the scope of a new function, and gives the names it takes from outside -/
def inFunction {α : Type} (takesAlong : Bool) (p : P α) : P (α × List Ident) := do
  let s ← get
  set { s with frame := { takesAlong } }
  let a ← p
  let t ← get
  set { t with frame := s.frame, imports := s.imports }
  return (a, t.frame.outside)

/-- the name of the function in messages about its parameters -/
structure Signature where
  fn : String
  close : String
  closePurpose : String
  commaPurpose : String

def Signature.named (fn : String) : Signature :=
  ⟨fn, ")", "to close the parameters list of function '" ++ fn ++ "'",
    "to separate the parameters of function '" ++ fn ++ "'"⟩

def Signature.anonymous : Signature :=
  ⟨"", "|", "to close the parameters list of anonymous function or closure",
    "to separate the parameters of anonymous function"⟩

/-- one parameter and what follows it -/
def parameterRound (sig : Signature) : P (Round String) := do
  let t ← next
  match t.token with
  | .name s =>
    if (← get).frame.locals.any (·.name == s) then
      fail (.duplicatedParameter s sig.fn) t.pos
    bind s
    let u ← next
    if Located.isMark u sig.close then return .last s
    if Located.isMark u "," then return .item s
    failAt u (.missing "," sig.commaPurpose)
  | .reserved s => fail (.reserved s) t.pos
  | _ =>
    if Located.isMark t sig.close then return .done
    failAt t (.missing sig.close sig.closePurpose)

/-- the parameters of a function that has a name, with the parentheses around them -/
def parameters (name : String) : P (List String) := do
  if ← accept "()" then return []
  else if ← accept "(" then rounds (parameterRound (.named name))
  else fail (.noParameters name) (← peek).pos

def functionParts (solve : Solve) (c : Context) : P Function := do
  let c ← deeper c
  let t ← next
  let name ← match t.token with
    | .name s => pure s
    | .reserved s => fail (.reserved s) t.pos
    | _ => fail .noFunctionName t.pos
  let params ← parameters name
  let t ← peek
  if !Located.isMark t "\x7b" then fail (.noBody name) t.pos
  let body ← solve (.block (← deeper c))
  return { name, params, body, isPrivate := false }

/-- a function behind its `fn`, which stands at `pos` -/
def function (solve : Solve) (isPrivate : Bool) (pos : Pos) : P Expr := do
  let s ← get
  if s.settings.maxFunctions ≤ (s.functions.filter (·.captured.isNone)).length then
    fail .tooManyFunctions pos
  let c : Context := { level := 0, limit := s.settings.maxFunctionExprDepth, pos }
  let (f, _) ← inFunction false (functionParts solve c)
  let s ← get
  if s.functions.any fun g => g.name == f.name && g.params.length == f.params.length then
    fail (.duplicatedFunction f.name f.params.length) pos
  set { s with functions := s.functions ++ [{ f with isPrivate }] }
  return .skip pos

/-- a name for the function without one at `pos`; no function that has a name is called like that -/
def anonymousName (pos : Pos) : String :=
  "anon$" ++ toString pos.line ++ "$" ++ toString pos.col

/-- a function without a name, standing behind its first bar -/
def closure (solve : Solve) (hasParams : Bool) (pos : Pos) : P Expr := do
  let s ← get
  let c : Context := { level := 0, limit := s.settings.maxFunctionExprDepth, pos }
  let ((params, body), outside) ← inFunction true do
    let c ← deeper c
    let params ← if hasParams then rounds (parameterRound .anonymous) else pure []
    let body ← solve (.statement c)
    return (params, body)
  for id in outside do
    checkVariable id
    useVariable id
  let name := anonymousName pos
  modify fun s => { s with functions := s.functions ++
    [{ name, params := outside.map (·.name) ++ params, body, isPrivate := true,
       captured := some outside.length }] }
  return .closure name (outside.map .name) pos

/-! ## Literals with parts -/

/-- one item of a list and what follows it -/
def itemRound (solve : Solve) (c : Context) (count : Nat) : P (Round Expr) := do
  let limit := (← get).settings.maxArraySize
  let t ← peek
  if limit ≠ 0 ∧ limit ≤ count then fail (.literalTooLarge "Size of array literal" limit) t.pos
  match t.token with
  | .mark "]" =>
    let _ ← next
    return .done
  | .eof => fail (.missing "]" "to end this array literal") t.pos
  | _ =>
    let e ← solve (.expression (← deeper c))
    let u ← peek
    match u.token with
    | .mark "," =>
      let _ ← next
      return .item e
    | .mark "]" => return .item e
    | .eof => fail (.missing "]" "to end this array literal") u.pos
    | _ => failAt u (.missing "," "to separate the items of this array literal")

/-- the items of a list behind its bracket -/
def items (solve : Solve) (c : Context) : Nat → Nat → P (List Expr)
  | 0, _ => return []
  | fuel + 1, count => do
    match ← itemRound solve c count with
    | .item e => return e :: (← items solve c fuel (count + 1))
    | _ => return []

/-- the name of a property, unless the record ends here -/
def propertyName (seen : List String) : P (Option Ident) := do
  let purpose := "to end this object map literal"
  if ← accept "\x7d" then return none
  let t ← next
  match t.token with
  | .name s | .text s =>
    if seen.contains s then fail (.duplicatedProperty s) t.pos
    return some ⟨s, t.pos⟩
  | .opening _ => fail .noPropertyName t.pos
  | .reserved s => fail (.reserved s) t.pos
  | .eof => fail (.missing "\x7d" purpose) t.pos
  | _ => failAt t (if seen.isEmpty then .missing "\x7d" purpose else .noPropertyName)

/-- the properties of a record behind its brace -/
def properties (solve : Solve) (c : Context) : Nat → List String → P (List (Ident × Expr))
  | 0, _ => return []
  | fuel + 1, seen => do
    match ← propertyName seen with
    | none => return []
    | some id =>
      expect ":" ("to follow the property '" ++ id.name ++ "' in this object map literal")
      let limit := (← get).settings.maxMapSize
      if limit ≠ 0 ∧ limit ≤ seen.length then
        fail (.literalTooLarge "Number of properties in object map literal" limit) (← peek).pos
      let e ← solve (.expression (← deeper c))
      let u ← peek
      match u.token with
      | .mark "," =>
        let _ ← next
        return (id, e) :: (← properties solve c fuel (seen ++ [id.name]))
      | .mark "\x7d" => return (id, e) :: (← properties solve c fuel (seen ++ [id.name]))
      | .name _ => fail (.missing "," "to separate the items of this object map literal") u.pos
      | _ => failAt u (.missing "\x7d" "to end this object map literal")

/-- one part of a text with expressions in it, behind the text before it -/
def joinedRound (solve : Solve) (c : Context) : P (Round (List Expr)) := do
  let e ← solve (.block c)
  let t ← next
  match t.token with
  | .text s => return .last (e :: if s.isEmpty then [] else [.text s t.pos])
  | .opening s => return .item (e :: if s.isEmpty then [] else [.text s t.pos])
  | _ => failAt t (.lexical .unterminatedText)

/-! ## Calls and steps -/

/-- one argument of a call and what follows it -/
def argumentRound (solve : Solve) (c : Context) (fn : String) : P (Round Expr) := do
  let close := "to close the arguments list of this function call '" ++ fn ++ "'"
  if ← accept ")" then return .done
  let e ← solve (.expression c)
  let t ← next
  match t.token with
  | .mark ")" => return .last e
  | .mark "," => return .item e
  | .eof => fail (.missing ")" close) t.pos
  | _ => failAt t (.missing "," ("to separate the arguments to function call '" ++ fn ++ "'"))

/-- the arguments of a call behind its parenthesis -/
def arguments (solve : Solve) (c : Context) (fn : String) : P (List Expr) := do
  let t ← peek
  match t.token with
  | .eof =>
    fail (.missing ")" ("to close the arguments list of this function call '" ++ fn ++ "'")) t.pos
  | .bad fault => fail (.lexical fault) t.pos
  | .mark ")" =>
    let _ ← next
    return []
  | _ =>
    let c ← deeper c
    rounds (argumentRound solve c fn)

/-- refuses an index that can never fit -/
def checkIndex (target index : Expr) : P Unit :=
  let refuse (reason : String) : P Unit := fail (.badIndex reason) index.start
  let kind? := match index with
    | .float .. => some "a float"
    | .char .. => some "a character"
    | .unit _ => some "()"
    | .bool .. | .logical .. => some "a boolean"
    | _ => none
  match target, index, kind? with
  | .record .., .int .., _ => refuse "Object map expects string index, not a number"
  | .record .., _, some kind => refuse ("Object map expects string index, not " ++ kind)
  | .list .., .text .., _ | .list .., .joined .., _ | .text .., .text .., _
  | .text .., .joined .., _ | .joined .., .text .., _ | .joined .., .joined .., _
  | .int .., .text .., _ | .int .., .joined .., _ =>
    refuse "Array, string or bit-field expects numeric index, not a string"
  | .list .., _, some kind | .text .., _, some kind | .joined .., _, some kind
  | .int .., _, some kind =>
    refuse ("Array, string or bit-field expects integer index, not " ++ kind)
  | _, _, _ => return ()

def addStep (e : Expr) (s : Step) : Expr :=
  match e with
  | .access root steps => .access root (steps ++ [s])
  | _ => .access e [s]

/-- what stands behind a dot: a property or a call of a method -/
def dotStep (solve : Solve) (c : Context) : P Step := do
  let t ← next
  let id ← match t.token with
    | .name s => pure (Ident.mk s t.pos)
    | .reserved s =>
      if Token.methods.contains s then pure ⟨s, t.pos⟩ else fail (.reserved s) t.pos
    | _ => fail .noPropertyName t.pos
  if ← accept "()" then return .method id []
  else if ← accept "(" then
    return .method id (← arguments solve (← deeper { c with pos := t.pos }) id.name)
  else return .field id

/-- the namespace and the name of an expression that may be called, or continued by a colon -/
def callee? : Expr → Option (List Ident × Ident)
  | .name id => some ([], id)
  | .path space id => some (space, id)
  | _ => none

/-- whether a bracket may follow -/
def isIndexable : Expr → Bool
  | .float .. | .bool .. | .char .. | .unit _ => false
  | _ => true

/-- calls, path segments, indices and dots behind an expression -/
def trail (solve : Solve) : Nat → Context → Expr → P Expr
  | 0, _, e => return e
  | fuel + 1, c, e => do
    let t ← peek
    match t.token, callee? e with
    | .mark "(", some (space, id) =>
      let _ ← next
      let args ← arguments solve (← deeper { c with pos := id.pos }) id.name
      checkSpace space
      trail solve fuel c (.call space id args)
    | .mark "()", some (space, id) =>
      let _ ← next
      checkSpace space
      trail solve fuel c (.call space id [])
    | .mark "::", some (space, id) =>
      let _ ← next
      let u ← next
      match u.token with
      | .name s => trail solve fuel c (.path (space ++ [id]) ⟨s, u.pos⟩)
      | .reserved s => fail (.reserved s) u.pos
      | _ => failAt u .noVariableName
    | .mark "[", _ =>
      if !isIndexable e then return e
      let _ ← next
      let c ← deeper { c with pos := t.pos }
      let i ← solve (.expression (← deeper c))
      checkIndex e i
      let u ← peek
      if !Located.isMark u "]" then
        failAt u (.missing "]" "for a matching [ in this index expression")
      let _ ← next
      trail solve fuel c (addStep e (.index i t.pos))
    | .mark ".", _ =>
      match e with
      | .bool .. | .unit _ => return e
      | _ =>
        let _ ← next
        let c ← deeper { c with pos := t.pos }
        let s ← dotStep solve c
        trail solve fuel c (addStep e s)
    | _, _ =>
      match e with
      | .path space _ => checkSpace space
      | _ => pure ()
      return e

/-! ## Expressions -/

/-- whether the name just read is followed by what makes it no variable -/
def continuesName : P Bool := do
  match (← peek).token with
  | .mark "(" | .mark "()" | .mark "::" => return true
  | _ => return false

def parenthesis (solve : Solve) (c : Context) : P Expr := do
  let t ← next
  if ← accept ")" then return .unit t.pos
  let e ← solve (.expression (← deeper c))
  expect ")" "for a matching ( in this expression"
  return e

def whileLoop (solve : Solve) (c : Context) : P Expr := do
  let t ← next
  let test ←
    if Located.isMark t "while" then do
      ensureNoBlock
      let e ← solve (.expression (← deeper c))
      ensureBool e
      ensureNoAssignment
      pure (some e)
    else pure none
  let body ← solve (.block { (← deeper c) with inLoop := true })
  return .loop test body t.pos

/-- the variables of a loop over items -/
def loopVariables : P (Ident × Option Ident) := do
  if ← accept "(" then
    let item ← variableName
    expect "," "after the iteration variable name"
    let counter ← variableName
    if counter.name == item.name then fail (.duplicatedVariable counter.name) counter.pos
    expect ")" "to close the iteration variable"
    return (item, some counter)
  else return (← variableName, none)

def forLoop (solve : Solve) (c : Context) : P Expr := do
  let t ← next
  let (item, counter) ← loopVariables
  expect "in" "after the iteration variable"
  ensureNoBlock
  let source ← solve (.expression (← deeper c))
  ensureIterable source
  let body ← nested do
    match counter with
    | some id => bind id.name
    | none => pure ()
    bind item.name
    solve (.block { (← deeper c) with inLoop := true })
  return .forIn item counter source body t.pos

/-- an expression without operators and steps -/
def atom (solve : Solve) (c : Context) : P Expr := do
  let t ← peek
  match t.token with
  | .eof => fail .incomplete t.pos
  | .mark "\x7b" => solve (.block (← deeper c))
  | .mark "(" => parenthesis solve c
  | .mark "if" => solve (.conditional (← deeper c))
  | .mark "while" | .mark "loop" => whileLoop solve (← deeper c)
  | .mark "for" => forLoop solve (← deeper c)
  | _ =>
    let _ ← next
    match t.token with
    | .mark "()" => return .unit t.pos
    | .mark "true" => return .bool true t.pos
    | .mark "false" => return .bool false t.pos
    | .int i => return .int i t.pos
    | .float x => return .float x t.pos
    | .text s => return .text s t.pos
    | .char s => return .char s t.pos
    | .mark "|" => closure solve true t.pos
    | .mark "||" => closure solve false t.pos
    | .opening s => do
      let c ← deeper c
      let parts ← rounds (joinedRound solve c)
      return .joined ((if s.isEmpty then [] else [.text s t.pos]) ++ parts.flatten) t.pos
    | .mark "[" => do
      let n := (← get).tokens.length + 2
      return .list (← items solve c n 0) t.pos
    | .mark "#\x7b" => do
      let n := (← get).tokens.length + 2
      return .record (← properties solve c n []) t.pos
    | .name s => do
      let id : Ident := ⟨s, t.pos⟩
      if !(← continuesName) then
        checkVariable id
        useVariable id
      return .name id
    | .reserved s => do
      let called ← match (← peek).token with
        | .mark "(" | .mark "()" => pure (Token.callable.contains s)
        | _ => pure false
      if called then return .name ⟨s, t.pos⟩ else fail (.reserved s) t.pos
    | .bad fault => fail (.lexical fault) t.pos
    | token => fail (.unexpected token.display) t.pos

def primary (solve : Solve) (c : Context) : P Expr := do
  let t ← peek
  let c := { c with pos := t.pos }
  let e ← atom solve c
  trail solve ((← get).tokens.length + 1) c e

def unary (solve : Solve) (c : Context) : P Expr := do
  let t ← peek
  let c := { c with pos := t.pos }
  let operand : P Expr := do
    let _ ← next
    solve (.unary (← deeper c))
  match t.token with
  | .mark "-" => do
    match ← operand with
    | .int i _ => return .ofValue t.pos (Value.ofInt (-i))
    | .float x _ => return .float (-x) t.pos
    | e => return .unary .minus e t.pos
  | .mark "+" => do
    match ← operand with
    | .int i p => return .int i p
    | .float x p => return .float x p
    | e => return .unary .plus e t.pos
  | .mark "!" => return .unary .not (← operand) t.pos
  | _ => primary solve (← deeper c)

/-- an operator between two operands -/
inductive Infix where
  | plain (op : BinaryOp)
  | logical (op : LogicalOp)

/-- the operator that a token is, and how tight it binds -/
def operator? : Token → Option (Infix × Nat)
  | .mark m =>
    match m with
    | "||" => some (.logical .or, 30)
    | "&&" => some (.logical .and, 60)
    | "==" => some (.plain .eq, 90)
    | "!=" => some (.plain .ne, 90)
    | "<" => some (.plain .lt, 130)
    | "<=" => some (.plain .le, 130)
    | ">" => some (.plain .gt, 130)
    | ">=" => some (.plain .ge, 130)
    | ".." => some (.plain .range, 140)
    | "..=" => some (.plain .rangeTo, 140)
    | "+" => some (.plain .add, 150)
    | "-" => some (.plain .sub, 150)
    | "*" => some (.plain .mul, 180)
    | "/" => some (.plain .div, 180)
    | "%" => some (.plain .rem, 180)
    | _ => none
  | _ => none

def operate (op : Infix) (left right : Expr) (pos : Pos) : P Expr :=
  match op with
  | .plain op => return .binary op left right pos
  | .logical op => do
    ensureBool left
    ensureBool right
    return .logical op left right pos

/-- operators behind `left`, as long as they bind tighter than `precedence`; of operators that bind
equally tight the left one goes first -/
def climb (solve : Solve) (precedence : Nat) : Nat → Context → Expr → P Expr
  | 0, _, left => return left
  | fuel + 1, c, left => do
    let t ← peek
    match operator? t.token with
    | none =>
      match t.token with
      | .reserved s =>
        if hasWordShape s.toList then return left else fail (.unknownOperator s) t.pos
      | _ => return left
    | some (op, own) =>
      if own ≤ precedence then return left
      let _ ← next
      let right ← solve (.unary c)
      let following := ((operator? (← peek).token).map (·.2)).getD 0
      let right ←
        if own < following then solve (.climb c own right)
        else pure right
      let c ← deeper c
      climb solve precedence fuel { c with pos := t.pos } (← operate op left right t.pos)

def expression (solve : Solve) (c : Context) : P Expr := do
  let c := { c with pos := (← peek).pos }
  let c ← deeper c
  let left ← solve (.unary c)
  solve (.climb { c with pos := left.pos } 1 left)

/-! ## Statements -/

/-- the operation of an assignment; `some none` for a plain one -/
def assignment? : Token → Option (Option BinaryOp)
  | .mark m =>
    match m with
    | "=" => some none
    | "+=" => some (some .add)
    | "-=" => some (some .sub)
    | "*=" => some (some .mul)
    | "/=" => some (some .div)
    | "%=" => some (some .rem)
    | _ => none
  | _ => none

/-- the first step that leads to no place -/
def methodStep? (steps : List Step) : Option Ident :=
  steps.findSome? fun
    | .method id _ => some id
    | _ => none

/-- refuses a target that is no place, or the place of a constant -/
def checkTarget (target : Expr) (plain : Bool) (pos : Pos) : P Unit := do
  let checkName (id : Ident) : P Unit := do
    match ← local? id.name with
    | some ⟨_, true⟩ => fail (.constant id.name) id.pos
    | _ => return ()
  match target with
  | .name id => checkName id
  | .path .. => return ()
  | .access root steps =>
    match methodStep? steps, root with
    | some id, _ => fail .notAssignable id.pos
    | none, .name id => checkName id
    | none, .path .. => return ()
    | none, _ => fail .notAssignable root.pos
  | .logical .. =>
    if plain then fail (.lexical (.symbol "Possibly a typo of '=='?")) pos
    else fail .notAssignable target.pos
  | _ =>
    if isConstant target then fail .constantValue target.start
    else fail .notAssignable target.pos

def expressionStatement (solve : Solve) (c : Context) : P Expr := do
  let c := { c with pos := (← peek).pos }
  let target ← solve (.expression c)
  let t ← peek
  match assignment? t.token with
  | none => return target
  | some op =>
    let _ ← next
    let value ← solve (.expression { c with pos := t.pos })
    checkTarget target op.isNone t.pos
    return .assign target op value t.pos

def conditional (solve : Solve) (c : Context) : P Expr := do
  let t ← next
  let c := { c with pos := t.pos }
  ensureNoBlock
  let test ← solve (.expression (← deeper c))
  ensureBool test
  ensureNoAssignment
  let yes ← solve (.block (← deeper c))
  if ← accept "else" then
    let no ←
      if ← seesMark "if" then solve (.conditional (← deeper c)) else solve (.block (← deeper c))
    return .cond test yes (some no) t.pos
  else return .cond test yes none t.pos

def declaration (solve : Solve) (constant : Bool) (c : Context) : P Expr := do
  let t ← next
  let c := { c with pos := t.pos }
  let id ← variableName
  let value ←
    if ← accept "=" then do pure (some (← solve (.expression (← deeper c)))) else pure none
  declare id.name constant
  return .declare id constant value

def importStatement (solve : Solve) (c : Context) : P Expr := do
  let t ← next
  let source ← solve (.expression (← deeper { c with pos := t.pos }))
  if ← accept "as" then
    let id ← variableName
    modify fun s => { s with imports := id.name :: s.imports }
    return .use source (some id) t.pos
  else return .use source none t.pos

def attempt (solve : Solve) (c : Context) : P Expr := do
  let t ← next
  let c := { c with pos := t.pos }
  let body ← solve (.block (← deeper c))
  expect "catch" "for the 'try' statement"
  let caught ←
    if ← accept "(" then
      let id ← variableName
      expect ")" "to enclose the catch variable"
      pure (some id)
    else pure none
  let handler ← nested do
    match caught with
    | some id => bind id.name
    | none => pure ()
    solve (.block (← deeper c))
  return .attempt body caught handler t.pos

/-- whether a statement that may have a value ends without one -/
def endsStatement (outermost : Bool) (t : Token) : Bool :=
  match t with
  | .eof | .mark ";" => true
  | .mark "\x7d" => !outermost
  | _ => false

/-- a statement that leaves what it is in, perhaps with a value -/
def leave (solve : Solve) (c : Context) (exit : Exit) (outermost : Bool) : P Expr := do
  let t ← next
  if endsStatement outermost (← peek).token then return .leave exit none t.pos
  else return .leave exit (some (← solve (.expression (← deeper c)))) t.pos

/-- a function, perhaps a private one -/
def definition (solve : Solve) : P Expr := do
  let t ← next
  if Located.isMark t "private" then
    let u ← next
    if Located.isMark u "fn" then function solve true u.pos
    else fail (.missing "fn" "following 'private'") u.pos
  else function solve false t.pos

def statement (solve : Solve) (c : Context) : P Expr := do
  let t ← peek
  let c := { c with pos := t.pos }
  match t.token with
  | .eof => return .skip t.pos
  | .mark ";" =>
    let _ ← next
    return .skip t.pos
  | .mark "\x7b" => solve (.block (← deeper c))
  | .mark "fn" => if c.outermost then definition solve else fail .nestedFunction t.pos
  | .mark "private" => definition solve
  | .mark "if" => solve (.conditional (← deeper c))
  | .mark "while" | .mark "loop" => whileLoop solve (← deeper c)
  | .mark "for" => forLoop solve (← deeper c)
  | .mark "continue" =>
    if !c.inLoop then fail .outsideLoop t.pos
    let _ ← next
    return .leave .next none t.pos
  | .mark "break" =>
    if !c.inLoop then fail .outsideLoop t.pos
    leave solve c .stop false
  | .mark "return" => leave solve c .yield c.outermost
  | .mark "throw" => leave solve c .raise c.outermost
  | .mark "try" => attempt solve (← deeper c)
  | .mark "let" => declaration solve false (← deeper c)
  | .mark "const" => declaration solve true (← deeper c)
  | .mark "import" => importStatement solve (← deeper c)
  | _ => expressionStatement solve (← deeper c)

/-! ## Scripts -/

/-- one goal, given a way to solve the goals inside it -/
def step (solve : Solve) : Goal → P Expr
  | .statement c => statement solve c
  | .expression c => expression solve c
  | .unary c => unary solve c
  | .block c => block solve c
  | .conditional c => conditional solve c
  | .climb c precedence left => do climb solve precedence ((← get).tokens.length + 1) c left

/-- goals nested at most as deep; deeper ones are a fault -/
def solve : Nat → Solve
  | 0, _ => do fail .tooDeep (← peek).pos
  | fuel + 1, g => step (solve fuel) g

/-- a statement outside functions and blocks -/
def outerRound (solve : Solve) (limit : Nat) : P (Round Expr) := do
  let t ← peek
  match t.token with
  | .eof => return .done
  | _ =>
    let e ← solve (.statement { level := 0, limit, pos := t.pos, outermost := true })
    if e.isSkip then return .pass else terminate false e

def script : P Parsed := do
  let s ← get
  let body ← rounds (outerRound (solve (8 * s.tokens.length + 16)) s.settings.maxExprDepth)
  return ⟨(← get).functions, body⟩

end Parser

/-- The syntax tree of a script; `spaces` are the first segments of the namespaces it may use. -/
def Parsed.ofText (settings : Settings) (spaces : List String) (text : String) :
    Except CompileFault Parsed :=
  let tokens := Lexer.scan settings.maxStringSize text
  let finish := ((tokens.getLast?).map (·.pos)).getD ⟨1, 1⟩
  (Parser.script.run { tokens, finish, settings, spaces }).map (·.1)

end Scripting.Script
