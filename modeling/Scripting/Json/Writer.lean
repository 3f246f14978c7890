import Scripting.Data
import Scripting.Decimal.Layout
import Scripting.Text.Quoted

/-!
# Writing JSON documents

A value is written on one line without spaces.  Only what cannot stand in a text is escaped: quotes,
backslashes and control characters.  A number that is none is written as nothing.
-/

namespace Scripting.Json

/-- a character as it stands in a text -/
def escaped (c : Char) : List Char :=
  if c = '"' then ['\\', '"']
  else if c = '\\' then ['\\', '\\']
  else if c = '\n' then ['\\', 'n']
  else if c = '\r' then ['\\', 'r']
  else if c = '\t' then ['\\', 't']
  else if c.toNat < 0x20 then
    ['\\', 'u', '0', '0', Text.hexDigit (c.toNat / 16), Text.hexDigit (c.toNat % 16)]
  else [c]

def writeText (s : String) : String :=
  "\"" ++ String.ofList (s.toList.flatMap escaped) ++ "\""

def writeFloat (x : Float) : String :=
  if x.isNaN || x.isInf then "null" else Decimal.Layout.document.write x

mutual

/-- the document of a value -/
def write : Data → String
  | .null => "null"
  | .bool b => if b then "true" else "false"
  | .int i => toString i
  | .float x => writeFloat x
  | .text s => writeText s
  | .list items => "[" ++ ",".intercalate (writeItems items) ++ "]"
  | .record fields => "\x7b" ++ ",".intercalate (writeFields fields) ++ "\x7d"

def writeItems : List Data → List String
  | [] => []
  | d :: ds => write d :: writeItems ds

def writeFields : List (String × Data) → List String
  | [] => []
  | (k, d) :: rest => (writeText k ++ ":" ++ write d) :: writeFields rest

end

end Scripting.Json
