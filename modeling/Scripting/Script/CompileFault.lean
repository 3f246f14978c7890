import Scripting.Script.Token

/-!
# Why a script does not compile

A compile of a script either succeeds or stops at the first fault.
-/

namespace Scripting.Script

inductive CompileCause where
  | lexical (fault : LexFault)
  | unexpected (shown : String)
  /-- the script ends in the middle of an expression -/
  | incomplete
  | missing (token purpose : String)
  | reserved (word : String)
  | unknownOperator (symbol : String)
  | noVariableName
  | noPropertyName
  | noExpression (kind : String)
  | wrongKind (wanted actual : String)
  | noFunctionName
  | noParameters (fn : String)
  | noBody (fn : String)
  | duplicatedParameter (parameter fn : String)
  | duplicatedFunction (fn : String) (arity : Nat)
  | nestedFunction
  | duplicatedProperty (name : String)
  | duplicatedVariable (name : String)
  | constantValue
  | constant (name : String)
  | notAssignable
  | outsideLoop
  | tooDeep
  | tooManyFunctions
  | literalTooLarge (what : String) (limit : Nat)
  | undefinedVariable (name : String)
  | undefinedModule (name : String)
  | badIndex (reason : String)
  | moduleNotFound (path : String)
deriving DecidableEq, Repr, Inhabited

def CompileCause.message : CompileCause → String
  | .lexical fault => fault.message
  | .unexpected shown => "Unexpected '" ++ shown ++ "'"
  | .incomplete => "Script is incomplete"
  | .missing token purpose => "Expecting '" ++ token ++ "' " ++ purpose
  | .reserved word =>
      "'" ++ word ++ "' is a reserved " ++
        (if hasWordShape word.toList then "keyword" else "symbol")
  | .unknownOperator symbol => "Unknown operator: '" ++ symbol ++ "'"
  | .noVariableName => "Expecting name of a variable"
  | .noPropertyName => "Expecting name of a property"
  | .noExpression kind => "Expecting " ++ kind ++ " expression"
  | .wrongKind wanted actual => "Expecting " ++ wanted ++ ", not " ++ actual
  | .noFunctionName => "Expecting function name in function declaration"
  | .noParameters fn => "Expecting parameters for function " ++ fn
  | .noBody fn => "Expecting body statement block for function " ++ fn
  | .duplicatedParameter parameter fn =>
      "Duplicated parameter " ++ parameter ++ " for function " ++ fn
  | .duplicatedFunction fn arity =>
      "Function " ++ fn ++ " with " ++
        (match arity with
          | 0 => "no parameters"
          | 1 => "1 parameter"
          | n => toString n ++ " parameters") ++ " already exists"
  | .nestedFunction =>
      "Function definitions must be at global level and cannot be inside a block " ++
        "or another function"
  | .duplicatedProperty name => "Duplicated property for object map literal: " ++ name
  | .duplicatedVariable name => "Duplicated variable name: " ++ name
  | .constantValue => "Cannot assign to a constant value"
  | .constant name => "Cannot assign to constant " ++ name
  | .notAssignable => "Expression cannot be assigned to"
  | .outsideLoop => "Break statement should only be used inside a loop"
  | .tooDeep => "Expression exceeds maximum complexity"
  | .tooManyFunctions => "Number of functions defined exceeds maximum limit"
  | .literalTooLarge what limit => what ++ " exceeds the maximum limit (" ++ toString limit ++ ")"
  | .undefinedVariable name => "Undefined variable: " ++ name
  | .undefinedModule name => "Undefined module: " ++ name
  | .badIndex reason => reason
  | .moduleNotFound path => "Module not found: " ++ path

/-- a fault, and where it is if it is in the text -/
structure CompileFault where
  cause : CompileCause
  pos : Option Pos
deriving DecidableEq, Repr, Inhabited

end Scripting.Script
