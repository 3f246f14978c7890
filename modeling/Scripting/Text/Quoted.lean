import Scripting.Text.Property

/-!
# Quoted text

A text between double quotes, with the quote, the backslash and every character that does not show
written as an escape: short ones for tab, line ends and NUL, and a code point in lower-case
hexadecimal for the rest.  Characters that attach to the one before them are escaped too, since the
quote would otherwise carry them.
-/

namespace Scripting.Text

def hexDigit (n : Nat) : Char :=
  if n < 10 then Char.ofNat (48 + n) else Char.ofNat (87 + n)

/-- the digits of `n` in hexadecimal, without leading zeros -/
def hexDigits (n : Nat) : List Char :=
  if _h : n < 16 then [hexDigit n] else hexDigits (n / 16) ++ [hexDigit (n % 16)]
termination_by n
decreasing_by omega

/-- one character inside quotes of the given kind -/
def quotedChar (quote : Char) (c : Char) : List Char :=
  if c = '\x00' then ['\\', '0']
  else if c = '\t' then ['\\', 't']
  else if c = '\r' then ['\\', 'r']
  else if c = '\n' then ['\\', 'n']
  else if c = '\\' then ['\\', '\\']
  else if c = quote then ['\\', c]
  else if extendsGrapheme c || isShapeless c then
    ['\\', 'u', '\x7b'] ++ hexDigits c.toNat ++ ['\x7d']
  else [c]

def quoted (s : String) : String :=
  String.ofList ('"' :: (s.toList.flatMap (quotedChar '"') ++ ['"']))

/-- one character between single quotes -/
def quotedSingle (c : Char) : String :=
  String.ofList ('\'' :: (quotedChar '\'' c ++ ['\'']))

end Scripting.Text
