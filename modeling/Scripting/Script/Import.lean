import Scripting.Text.Blank
import Scripting.Text.Split

/-!
# Import statements

The script language imports a module by its path and gives it an alias.  For a namespace the path is
the namespace itself and the alias its last segment.  In the `imports` style a line `imports X`
stands for that statement; `expand` writes the statements out, line by line, and leaves every other
line as it is, so that no line moves.
-/

namespace Scripting.Script.Import

open Scripting.Text

/-- how the statements that a host puts before a script are spelled -/
inductive Style where
  | plain | keyword
deriving DecidableEq, Repr, Inhabited

def Style.display : Style → String
  | .plain => "Import"
  | .keyword => "Imports"

def isSeparator (c : Char) : Bool := c == '.' || c == ':'

/-- the last segment that is not empty; a text of separators alone is its own alias -/
def shortName (space : List Char) : List Char :=
  let tail := space.reverse.dropWhile isSeparator
  if tail.isEmpty then space else (tail.takeWhile fun c => !isSeparator c).reverse

/-- the statement that imports a namespace -/
def statement (space : List Char) : List Char :=
  "import \"".toList ++ space ++ "\" as ".toList ++ shortName space ++ [';']

def isLineEnd (c : Char) : Bool := c == '\r' || c == '\n'

/-- a line without the line ends behind it, and those -/
def cutLineEnds : List Char → List Char × List Char
  | [] => ([], [])
  | c :: cs =>
    match cutLineEnds cs with
    | ([], ends) => if isLineEnd c then ([], c :: ends) else ([c], ends)
    | (content, ends) => (c :: content, ends)

/-- the namespace that a line imports: one word behind `imports ` -/
def namespace? (content : List Char) : Option (List Char) := do
  let rest ← dropWord? "imports ".toList (trim content)
  let space := trim rest
  if space.isEmpty || space.any isBlank then none else some space

def expandLine (line : List Char) : List Char :=
  let (content, ends) := cutLineEnds line
  match namespace? content with
  | some space => statement space ++ ends
  | none => line

/-- every import line written out -/
def expand (text : List Char) : List Char := (chunks text).flatMap expandLine

/-- what a host puts before a script to import a namespace -/
def header : Style → String → String
  | .plain, space => String.ofList (statement space.toList ++ ['\n'])
  | .keyword, space => "imports " ++ space ++ "\n"

theorem cutLineEnds_append (line : List Char) :
    (cutLineEnds line).1 ++ (cutLineEnds line).2 = line := by
  induction line with
  | nil => rfl
  | cons c cs ih =>
    rw [cutLineEnds]
    split
    · rename_i ends h
      rw [h] at ih
      split <;> simp_all
    · rename_i content ends _ h
      rw [h] at ih
      simp_all

theorem expandLine_of_none {line : List Char} (h : namespace? (cutLineEnds line).1 = none) :
    expandLine line = line := by simp [expandLine, h]

end Scripting.Script.Import
