/-!
# Letters and digits of ASCII

The characters that words of a program are made of.
-/

namespace Scripting.Text

def isLetter (c : Char) : Bool := ('a' ≤ c && c ≤ 'z') || ('A' ≤ c && c ≤ 'Z')
def isDigit (c : Char) : Bool := '0' ≤ c && c ≤ '9'

/-- a letter, a digit or an underscore -/
def isWordChar (c : Char) : Bool := isLetter c || isDigit c || c == '_'

/-- the value of a digit in a radix of at most 36 -/
def digitValue? (radix : Nat) (c : Char) : Option Nat :=
  let n := c.toNat
  let v? :=
    if isDigit c then some (n - 48)
    else if 'a' ≤ c ∧ c ≤ 'z' then some (n - 87)
    else if 'A' ≤ c ∧ c ≤ 'Z' then some (n - 55)
    else none
  v?.filter fun v => v < radix

theorem isWordChar_of_isLetter {c : Char} (h : isLetter c = true) : isWordChar c = true := by
  simp [isWordChar, h]

end Scripting.Text
