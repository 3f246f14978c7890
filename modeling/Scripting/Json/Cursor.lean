import Scripting.Text.Quoted
import Scripting.Decimal.Layout

/-!
# Reading positions in a JSON document

A cursor is the rest of a document with the line it stands on and the number of bytes passed on that
line.  A fault is reported either where the cursor stands or one byte further, on the byte that
could not be read (`Cursor.onNext`).
-/

namespace Scripting.Json

structure Cursor where
  rest : List Char
  line : Nat
  col : Nat
deriving Inhabited

/-- What a document held where something else was expected. -/
inductive Found where
  | null
  | bool (b : Bool)
  | int (i : Int)
  | float (x : Float)
  | text (s : String)
  | sequence
  | map

/-- why a document cannot be read -/
inductive Cause where
  | endInList
  | endInObject
  | endInText
  | endInValue
  | noColon
  | noListEnd
  | noObjectEnd
  | noWord
  | noValue
  | badEscape
  | badNumber
  | tooLarge
  | loneSurrogate
  | endOfHex
  | controlCharacter
  | keyNotText
  | trailingComma
  | trailing
  | wrongType (found : Found) (expected : String)
  | wrongValue (found : Found) (expected : String)
  | duplicateField (name : String)

inductive Category where
  | data | syntactic | eof
deriving DecidableEq, Repr

structure Fault where
  cause : Cause
  line : Nat
  col : Nat

def Found.describe : Found → String
  | .null => "null"
  | .bool b => "boolean `" ++ (if b then "true" else "false") ++ "`"
  | .int i => "integer `" ++ toString i ++ "`"
  | .float x => "floating point `" ++ Decimal.Layout.document.write x ++ "`"
  | .text s => "string " ++ Text.quoted s
  | .sequence => "sequence"
  | .map => "map"

def Cause.message : Cause → String
  | .endInList => "EOF while parsing a list"
  | .endInObject => "EOF while parsing an object"
  | .endInText => "EOF while parsing a string"
  | .endInValue => "EOF while parsing a value"
  | .noColon => "expected `:`"
  | .noListEnd => "expected `,` or `]`"
  | .noObjectEnd => "expected `,` or `\x7d`"
  | .noWord => "expected ident"
  | .noValue => "expected value"
  | .badEscape => "invalid escape"
  | .badNumber => "invalid number"
  | .tooLarge => "number out of range"
  | .loneSurrogate => "lone leading surrogate in hex escape"
  | .endOfHex => "unexpected end of hex escape"
  | .controlCharacter =>
      "control character (\\u0000-\\u001F) found while parsing a string"
  | .keyNotText => "key must be a string"
  | .trailingComma => "trailing comma"
  | .trailing => "trailing characters"
  | .wrongType found expected => "invalid type: " ++ found.describe ++ ", expected " ++ expected
  | .wrongValue found expected => "invalid value: " ++ found.describe ++ ", expected " ++ expected
  | .duplicateField name => "duplicate field `" ++ name ++ "`"

def Cause.category : Cause → Category
  | .endInList | .endInObject | .endInText | .endInValue => .eof
  | .wrongType .. | .wrongValue .. | .duplicateField .. => .data
  | _ => .syntactic

def Fault.message (f : Fault) : String :=
  f.cause.message ++ " at line " ++ toString f.line ++ " column " ++ toString f.col

/-- Either a fault, or what was read and where reading stopped. -/
abbrev Read (α : Type) := Cursor → Except Fault (α × Cursor)

namespace Cursor

def start (s : String) : Cursor := ⟨s.toList, 1, 0⟩

/-- position after passing up to `k` bytes, and how many of them the document does not have -/
def passBytes : Nat → List Char → Nat → Nat → Nat × Nat × Nat
  | 0, _, line, col => (line, col, 0)
  | k, [], line, col => (line, col, k)
  | k, c :: cs, line, col =>
    if c = '\n' then passBytes (k - 1) cs (line + 1) 0
    else if c.utf8Size ≤ k then passBytes (k - c.utf8Size) cs line (col + c.utf8Size)
    else (line, col + k, 0)
termination_by _ cs => cs.length

/-- where the document ends -/
def finish : List Char → Nat → Nat → Nat × Nat
  | [], line, col => (line, col)
  | c :: cs, line, col =>
    if c = '\n' then finish cs (line + 1) 0 else finish cs line (col + c.utf8Size)

/-- a fault where the cursor stands -/
def here (c : Cursor) (cause : Cause) : Fault := ⟨cause, c.line, c.col⟩

/-- a fault on the next byte; at the end of the document, a fault there -/
def onNext (c : Cursor) (cause : Cause) : Fault :=
  let (line, col, _) := passBytes 1 c.rest c.line c.col
  ⟨cause, line, col⟩

/-- the cursor behind its next character -/
def advance (c : Cursor) : Cursor :=
  match c.rest with
  | [] => c
  | '\n' :: cs => ⟨cs, c.line + 1, 0⟩
  | d :: cs => ⟨cs, c.line, c.col + d.utf8Size⟩

def skipBlanksFrom : List Char → Nat → Nat → Cursor
  | [], line, col => ⟨[], line, col⟩
  | '\n' :: cs, line, _ => skipBlanksFrom cs (line + 1) 0
  | c :: cs, line, col =>
    if c = ' ' || c = '\t' || c = '\r' then skipBlanksFrom cs line (col + 1)
    else ⟨c :: cs, line, col⟩

def skipBlanks (c : Cursor) : Cursor := skipBlanksFrom c.rest c.line c.col

end Cursor

end Scripting.Json
