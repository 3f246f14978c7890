/-!
# Settings of the script dialect

Limits on what a script may do, and how its functions are named.  A limit of zero means that
strings, arrays, maps, operations and depths are not limited; for variables, functions and modules
it means that there may be none.
-/

namespace Scripting

structure Settings where
  /-- operations of one call -/
  maxOperations : Nat := 0
  maxCallLevels : Nat := 64
  /-- nesting of expressions outside functions -/
  maxExprDepth : Nat := 64
  /-- nesting of expressions inside functions -/
  maxFunctionExprDepth : Nat := 32
  /-- in bytes -/
  maxStringSize : Nat := 1000000
  maxArraySize : Nat := 100000
  maxMapSize : Nat := 100000
  maxVariables : Nat := 10000
  maxFunctions : Nat := 1000
  maxModules : Nat := 64
  /-- whether a compile refuses variables that are not declared -/
  strictVariables : Bool := false
  /-- between the module and the method in the name of a function -/
  moduleSeparator : String := "__"
deriving DecidableEq, Repr, Inhabited

namespace Settings

/-- the names of the settings -/
inductive Key where
  | maxOperations | maxCallLevels | maxExprDepth | maxFunctionExprDepth | maxStringSize
  | maxArraySize | maxMapSize | maxVariables | maxFunctions | maxModules | strictVariables
  | moduleSeparator
deriving DecidableEq, Repr, Inhabited

/-- the value of one setting -/
inductive Value where
  | number (n : Nat)
  | switch (b : Bool)
  | text (s : String)
deriving DecidableEq, Repr, Inhabited

/-- what a setting may hold -/
inductive Kind where
  /-- a number of 64 bits, called `word` where something else is found -/
  | number (word : String)
  | switch
  | text
deriving DecidableEq, Repr, Inhabited

namespace Key

/-- in the order in which a list gives their values -/
def all : List Key :=
  [.maxOperations, .maxCallLevels, .maxExprDepth, .maxFunctionExprDepth, .maxStringSize,
    .maxArraySize, .maxMapSize, .maxVariables, .maxFunctions, .maxModules, .strictVariables,
    .moduleSeparator]

def name : Key → String
  | .maxOperations => "max_operations"
  | .maxCallLevels => "max_call_levels"
  | .maxExprDepth => "max_expr_depth"
  | .maxFunctionExprDepth => "max_function_expr_depth"
  | .maxStringSize => "max_string_size"
  | .maxArraySize => "max_array_size"
  | .maxMapSize => "max_map_size"
  | .maxVariables => "max_variables"
  | .maxFunctions => "max_functions"
  | .maxModules => "max_modules"
  | .strictVariables => "strict_variables"
  | .moduleSeparator => "module_separator"

def ofName? (s : String) : Option Key := all.find? fun k => k.name == s

def kind : Key → Kind
  | .maxOperations => .number "u64"
  | .strictVariables => .switch
  | .moduleSeparator => .text
  | _ => .number "usize"

end Key

def get (s : Settings) : Key → Value
  | .maxOperations => .number s.maxOperations
  | .maxCallLevels => .number s.maxCallLevels
  | .maxExprDepth => .number s.maxExprDepth
  | .maxFunctionExprDepth => .number s.maxFunctionExprDepth
  | .maxStringSize => .number s.maxStringSize
  | .maxArraySize => .number s.maxArraySize
  | .maxMapSize => .number s.maxMapSize
  | .maxVariables => .number s.maxVariables
  | .maxFunctions => .number s.maxFunctions
  | .maxModules => .number s.maxModules
  | .strictVariables => .switch s.strictVariables
  | .moduleSeparator => .text s.moduleSeparator

/-- a value of the wrong kind changes nothing -/
def put (s : Settings) : Key → Value → Settings
  | .maxOperations, .number n => { s with maxOperations := n }
  | .maxCallLevels, .number n => { s with maxCallLevels := n }
  | .maxExprDepth, .number n => { s with maxExprDepth := n }
  | .maxFunctionExprDepth, .number n => { s with maxFunctionExprDepth := n }
  | .maxStringSize, .number n => { s with maxStringSize := n }
  | .maxArraySize, .number n => { s with maxArraySize := n }
  | .maxMapSize, .number n => { s with maxMapSize := n }
  | .maxVariables, .number n => { s with maxVariables := n }
  | .maxFunctions, .number n => { s with maxFunctions := n }
  | .maxModules, .number n => { s with maxModules := n }
  | .strictVariables, .switch b => { s with strictVariables := b }
  | .moduleSeparator, .text t => { s with moduleSeparator := t }
  | _, _ => s

@[simp] theorem put_get (s : Settings) (k : Key) : s.put k (s.get k) = s := by cases k <;> rfl

theorem get_put_of_ne (s : Settings) {j k : Key} (h : j ≠ k) (v : Value) :
    (s.put k v).get j = s.get j := by
  cases k <;> cases v <;> cases j <;> simp_all [put, get]

theorem ofName?_name (k : Key) : Key.ofName? k.name = some k := by cases k <;> decide

end Settings

end Scripting
