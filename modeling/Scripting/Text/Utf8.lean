/-!
# Text from bytes

Bytes are read as UTF-8.  Where they are none, a replacement character stands for the longest run of
bytes that begins a character and does not end it, so every sequence of bytes is some text.
-/

namespace Scripting.Text

/-- a character whose last bytes are still missing -/
structure Begun where
  /-- the number that the bytes up to here make -/
  code : Nat
  /-- how many bytes are missing -/
  missing : Nat
  /-- the bounds of the next byte -/
  least : Nat
  most : Nat
deriving DecidableEq, Repr

def replacement : Char := '\ufffd'

/-- what a byte begins, if it begins a character of several bytes -/
def begun? (b : Nat) : Option Begun :=
  if 0xc2 ≤ b ∧ b ≤ 0xdf then some ⟨b - 0xc0, 1, 0x80, 0xbf⟩
  else if b = 0xe0 then some ⟨0, 2, 0xa0, 0xbf⟩
  else if b = 0xed then some ⟨13, 2, 0x80, 0x9f⟩
  else if 0xe1 ≤ b ∧ b ≤ 0xef then some ⟨b - 0xe0, 2, 0x80, 0xbf⟩
  else if b = 0xf0 then some ⟨0, 3, 0x90, 0xbf⟩
  else if 0xf1 ≤ b ∧ b ≤ 0xf3 then some ⟨b - 0xf0, 3, 0x80, 0xbf⟩
  else if b = 0xf4 then some ⟨4, 3, 0x80, 0x8f⟩
  else none

/-- a byte at the beginning of a character: the text before the next byte, and what is begun -/
def beginChar (b : Nat) : List Char × Option Begun :=
  if b < 0x80 then ([Char.ofNat b], none)
  else match begun? b with
    | some s => ([], some s)
    | none => ([replacement], none)

/-- a byte behind what was begun -/
def nextByte (s : Option Begun) (b : Nat) : List Char × Option Begun :=
  match s with
  | none => beginChar b
  | some s =>
    if s.least ≤ b ∧ b ≤ s.most then
      let code := s.code * 64 + b % 64
      if s.missing ≤ 1 then ([Char.ofNat code], none)
      else ([], some ⟨code, s.missing - 1, 0x80, 0xbf⟩)
    else
      let (cs, t) := beginChar b
      (replacement :: cs, t)

/-- the characters of bytes behind what was begun -/
def decodeBytes : Option Begun → List UInt8 → List Char
  | none, [] => []
  | some _, [] => [replacement]
  | s, b :: bs =>
    let (cs, t) := nextByte s b.toNat
    cs ++ decodeBytes t bs

/-- the text of bytes -/
def ofBytes (bs : List UInt8) : String := String.ofList (decodeBytes none bs)

end Scripting.Text
