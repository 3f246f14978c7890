import Scripting.Text.Ascii

/-!
# Identifiers of the script dialect

An identifier is made of letters, digits and underscores of ASCII, has a letter before its first
digit, and is not a reserved word.
-/

namespace Scripting.Script

open Scripting.Text

/-- words that cannot name anything -/
def reservedWords : List String :=
  ["true", "false", "let", "const", "if", "else", "switch", "do", "while", "until", "loop",
    "for", "in", "continue", "break", "return", "throw", "try", "catch", "import", "export",
    "as", "global", "private", "fn", "this", "Fn", "call", "curry", "is_def_var", "is_def_fn",
    "is_shared", "print", "debug", "type_of", "eval",
    "var", "static", "shared", "with", "is", "goto", "exit", "match", "case", "public",
    "protected", "new", "use", "module", "package", "super", "spawn", "thread", "go", "sync",
    "async", "await", "yield", "default", "void", "null", "nil"]

/-- the shape of an identifier: underscores, then a letter, then anything a word may hold -/
def hasWordShape (cs : List Char) : Bool :=
  match cs.dropWhile (· == '_') with
  | [] => false
  | c :: rest => isLetter c && rest.all isWordChar

def isIdentifier (name : String) : Bool :=
  hasWordShape name.toList && !reservedWords.contains name

@[simp] theorem hasWordShape_nil : hasWordShape [] = false := rfl

theorem hasWordShape_underscore (cs : List Char) :
    hasWordShape ('_' :: cs) = hasWordShape cs := rfl

end Scripting.Script
