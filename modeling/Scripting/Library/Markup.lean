import Scripting.Text.Ascii

/-!
# Escaping text for XML

Five characters have a meaning in XML and are written as references to predefined entities.
Reading a text back resolves those five, and references to characters by number; every other
reference is a fault, and so is an ampersand that starts none.
-/

namespace Scripting.Markup

open Scripting.Text

/-- what stands for a character in XML -/
def escapeChar : Char → List Char
  | '<' => "&lt;".toList
  | '>' => "&gt;".toList
  | '&' => "&amp;".toList
  | '\'' => "&apos;".toList
  | '"' => "&quot;".toList
  | c => [c]

def escape (cs : List Char) : List Char := cs.flatMap escapeChar

/-- why the number of a character cannot be read -/
inductive NumberFault where
  | null
  | sign
  | empty
  | digit
  | tooLarge
  | noCharacter (code : Nat)
deriving DecidableEq, Repr

/-- why a text is not XML; ranges count bytes -/
inductive Fault where
  | unterminated (start stop : Nat)
  | unknownEntity (start stop : Nat) (name : String)
  | badNumber (fault : NumberFault)
deriving DecidableEq, Repr

def NumberFault.message : NumberFault → String
  | .null => "0x0 character is not permitted in XML"
  | .sign => "unexpected number sign"
  | .empty => "cannot parse integer from empty string"
  | .digit => "invalid digit found in string"
  | .tooLarge => "number too large to fit in target type"
  | .noCharacter code => "`" ++ toString code ++ "` is not a valid codepoint"

def Fault.message : Fault → String
  | .unterminated start stop =>
      "Error while escaping character at range " ++ toString start ++ ".." ++ toString stop ++
        ": Cannot find ';' after '&'"
  | .unknownEntity start stop name =>
      "at " ++ toString start ++ ".." ++ toString stop ++ ": unrecognized entity `" ++ name ++ "`"
  | .badNumber fault => "invalid character reference: " ++ fault.message

/-- digits as a number of 32 bits; the first digit that is none or is one too many decides -/
def digits (radix : Nat) : Nat → List Char → Except NumberFault Nat
  | n, [] => .ok n
  | n, c :: cs =>
    match digitValue? radix c with
    | none => .error .digit
    | some d =>
      if n * radix + d < Nat.pow 2 32 then digits radix (n * radix + d) cs
      else .error .tooLarge

def number (radix : Nat) : List Char → Except NumberFault Nat
  | [] => .error .empty
  | '+' :: _ | '-' :: _ => .error .sign
  | cs => digits radix 0 cs

/-- the character of a code point -/
def character (code : Nat) : Except NumberFault Char :=
  if code = 0 then .error .null
  else if h : code.isValidChar then .ok (Char.ofNatAux code h)
  else .error (.noCharacter code)

/-- the character that a number denotes, in decimal or, behind an `x`, in hexadecimal -/
def numbered : List Char → Except NumberFault Char
  | 'x' :: cs => number 16 cs >>= character
  | cs => number 10 cs >>= character

def entity? (name : List Char) : Option Char :=
  if name = "lt".toList then some '<'
  else if name = "gt".toList then some '>'
  else if name = "amp".toList then some '&'
  else if name = "apos".toList then some '\''
  else if name = "quot".toList then some '"'
  else none

def byteLength (cs : List Char) : Nat := cs.foldl (fun n c => n + c.utf8Size) 0

/-- the character that a reference denotes; its name starts at byte `start` -/
def resolve (start : Nat) (name : List Char) : Except Fault Char :=
  match name with
  | '#' :: digits =>
    match numbered digits with
    | .ok c => .ok c
    | .error fault => .error (.badNumber fault)
  | _ =>
    match entity? name with
    | some c => .ok c
    | none => .error (.unknownEntity start (start + byteLength name) (String.ofList name))

/-- the name up to the next semicolon and what follows it; an ampersand in between breaks it off -/
def reference? : List Char → Option (List Char × List Char)
  | [] => none
  | c :: cs =>
    if c = ';' then some ([], cs)
    else if c = '&' then none
    else (reference? cs).map fun p => (c :: p.1, p.2)

theorem reference?_eq_append {cs name rest : List Char} (h : reference? cs = some (name, rest)) :
    cs = name ++ ';' :: rest := by
  induction cs generalizing name with
  | nil => simp [reference?] at h
  | cons c cs ih =>
    rw [reference?] at h
    split at h
    · rename_i hc; simp at h; obtain ⟨rfl, rfl⟩ := h; simp [hc]
    · split at h
      · simp at h
      · obtain ⟨p, hp, hq⟩ := Option.map_eq_some_iff.1 h
        obtain ⟨n, r⟩ := p
        simp at hq
        obtain ⟨rfl, rfl⟩ := hq
        simp [ih hp]

/-- the text behind byte `start` read back -/
def unescapeFrom (start : Nat) (cs : List Char) : Except Fault (List Char) :=
  match cs with
  | [] => .ok []
  | c :: rest =>
    if c = '&' then
      match _h : reference? rest with
      | none => .error (.unterminated start (start + byteLength (c :: rest)))
      | some (name, behind) =>
        match resolve (start + 1) name with
        | .error fault => .error fault
        | .ok d => (unescapeFrom (start + 2 + byteLength name) behind).map (d :: ·)
    else (unescapeFrom (start + c.utf8Size) rest).map (c :: ·)
termination_by cs.length
decreasing_by
  · simp [reference?_eq_append _h]; omega
  · simp

def unescape (cs : List Char) : Except Fault (List Char) := unescapeFrom 0 cs

/-- a way to escape texts, and a way to read them back, which may fail with a message -/
structure Codec where
  escape : List Char → List Char
  unescape : List Char → Except String (List Char)

def Codec.standard : Codec where
  escape := Markup.escape
  unescape := fun cs => (Markup.unescape cs).mapError Fault.message

@[simp] theorem escape_nil : escape [] = [] := rfl
theorem escape_cons (c : Char) (cs : List Char) :
    escape (c :: cs) = escapeChar c ++ escape cs := rfl

end Scripting.Markup
