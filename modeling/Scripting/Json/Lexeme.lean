import Scripting.Json.Cursor

/-!
# Words, numbers and texts of a JSON document

The three kinds of lexeme that take more than one character.  A number without fraction and exponent
is an integer as long as it fits in 64 bits; every other number is a floating-point number, got from
its digits read as one whole number and a single multiplication or division by a power of ten.
-/

namespace Scripting.Json

open Cursor

/-- the rest of a word whose first character has been passed -/
def word : List Char → Read Unit
  | [], c => .ok ((), c)
  | w :: ws, c =>
    match c.rest with
    | [] => .error (c.here .endInValue)
    | d :: _ => if d = w then word ws c.advance else .error (c.onNext .noWord)

/-! ## Numbers -/

inductive Number where
  | int (i : Int)
  | float (x : Float)

def limit64 : Nat := Nat.pow 2 64

def digit? (c : Char) : Option Nat :=
  if '0' ≤ c ∧ c ≤ '9' then some (c.toNat - 48) else none

def nextDigit? (c : Cursor) : Option Nat := c.rest.head?.bind digit?

/-- `significand * 10 ^ exponent`: the whole number is rounded first, then scaled -/
def scaled (significand : Nat) (exponent : Int) : Nat → Option Float
  | 0 => some 0
  | fuel + 1 => go (significand.toUInt64.toFloat) exponent (fuel + 1)
where
  go (x : Float) (exponent : Int) : Nat → Option Float
    | 0 => some x
    | fuel + 1 =>
      if exponent.natAbs ≤ 308 then
        let pow := Float.ofScientific 1 false exponent.natAbs
        let y := if 0 ≤ exponent then x * pow else x / pow
        if y.isInf then none else some y
      else if x == 0 then some x
      else if 0 ≤ exponent then none
      else go (x / Float.ofScientific 1 false 308) (exponent + 308) fuel

/-- the number from its parts, or a fault if it is too large -/
def fromParts (positive : Bool) (significand : Nat) (exponent : Int) (c : Cursor) :
    Except Fault (Number × Cursor) :=
  match scaled significand exponent 8 with
  | none => .error (c.here .tooLarge)
  | some x => .ok (.float (if positive then x else -x), c)

/-- passes digits -/
def skipDigits : Nat → Cursor → Cursor
  | 0, c => c
  | fuel + 1, c => if (nextDigit? c).isSome then skipDigits fuel c.advance else c

/-- digits of an exponent, up to 31 bits -/
def exponentDigits : Nat → Nat → Cursor → Option Nat × Cursor
  | 0, acc, c => (some acc, c)
  | fuel + 1, acc, c =>
    match nextDigit? c with
    | none => (some acc, c)
    | some d =>
      if acc * 10 + d > Nat.pow 2 31 - 1 then (none, c.advance)
      else exponentDigits fuel (acc * 10 + d) c.advance

/-- an exponent, standing on its mark -/
def exponentPart (positive : Bool) (significand : Nat) (start : Int) (c : Cursor) :
    Except Fault (Number × Cursor) :=
  let c := c.advance
  let (up, c) := match c.rest with
    | '+' :: _ => (true, c.advance)
    | '-' :: _ => (false, c.advance)
    | _ => (true, c)
  match c.rest with
  | [] => .error (c.here .endInValue)
  | d :: _ =>
    match digit? d with
    | none => .error (c.onNext .badNumber)
    | some first =>
      match exponentDigits c.rest.length first c.advance with
      | (some e, c) => fromParts positive significand (if up then start + e else start - e) c
      | (none, c) =>
        if significand ≠ 0 ∧ up then .error (c.here .tooLarge)
        else .ok (.float (if positive then 0.0 else -0.0), skipDigits c.rest.length c)

/-- digits after the point: the significand, how many of them it took, and whether it is full -/
def fractionDigits : Nat → Nat → Nat → Cursor → Nat × Nat × Bool × Cursor
  | 0, sig, n, c => (sig, n, false, c)
  | fuel + 1, sig, n, c =>
    match nextDigit? c with
    | none => (sig, n, false, c)
    | some d =>
      if sig * 10 + d ≥ limit64 then (sig, n, true, c)
      else fractionDigits fuel (sig * 10 + d) (n + 1) c.advance

def startsExponent (c : Cursor) : Bool :=
  match c.rest with
  | 'e' :: _ | 'E' :: _ => true
  | _ => false

/-- a fraction, standing on its point -/
def fractionPart (positive : Bool) (significand : Nat) (before : Int) (c : Cursor) :
    Except Fault (Number × Cursor) :=
  let c := c.advance
  let (sig, n, full, c) := fractionDigits c.rest.length significand 0 c
  let exponent := before - n
  if full then
    let c := skipDigits c.rest.length c
    if startsExponent c then exponentPart positive sig exponent c
    else fromParts positive sig exponent c
  else if n = 0 then
    .error (c.onNext (if c.rest.isEmpty then .endInValue else .badNumber))
  else if startsExponent c then exponentPart positive sig exponent c
  else fromParts positive sig exponent c

/-- the rest of a whole number that does not fit in 64 bits -/
def longInteger (positive : Bool) (significand : Nat) : Nat → Int → Cursor →
    Except Fault (Number × Cursor)
  | 0, n, c => fromParts positive significand n c
  | fuel + 1, n, c =>
    if (nextDigit? c).isSome then longInteger positive significand fuel (n + 1) c.advance
    else match c.rest with
      | '.' :: _ => fractionPart positive significand n c
      | _ =>
        if startsExponent c then exponentPart positive significand n c
        else fromParts positive significand n c

/-- what follows the digits of a whole number -/
def afterInteger (positive : Bool) (significand : Nat) (c : Cursor) :
    Except Fault (Number × Cursor) :=
  match c.rest with
  | '.' :: _ => fractionPart positive significand 0 c
  | _ =>
    if startsExponent c then exponentPart positive significand 0 c
    else if positive then .ok (.int significand, c)
    else if significand = 0 ∨ significand > Nat.pow 2 63 then
      .ok (.float (-(significand.toUInt64.toFloat)), c)
    else .ok (.int (-(significand : Int)), c)

def integerDigits (positive : Bool) : Nat → Nat → Cursor → Except Fault (Number × Cursor)
  | 0, sig, c => afterInteger positive sig c
  | fuel + 1, sig, c =>
    match nextDigit? c with
    | none => afterInteger positive sig c
    | some d =>
      if sig * 10 + d ≥ limit64 then longInteger positive sig c.rest.length 0 c
      else integerDigits positive fuel (sig * 10 + d) c.advance

/-- a number behind its sign -/
def number (positive : Bool) : Read Number := fun c =>
  match c.rest with
  | [] => .error (c.here .endInValue)
  | d :: _ =>
    match digit? d with
    | none => .error (c.onNext .badNumber)
    | some 0 =>
      let c := c.advance
      if (nextDigit? c).isSome then .error (c.onNext .badNumber) else afterInteger positive 0 c
    | some n => integerDigits positive c.rest.length n c.advance

/-! ## Texts -/

def hexValue? (c : Char) : Option Nat :=
  if '0' ≤ c ∧ c ≤ '9' then some (c.toNat - 48)
  else if 'a' ≤ c ∧ c ≤ 'f' then some (c.toNat - 87)
  else if 'A' ≤ c ∧ c ≤ 'F' then some (c.toNat - 55)
  else none

/-- the four hexadecimal digits of an escape -/
def fourHex : Read Nat := fun c =>
  match c.rest with
  | w :: x :: y :: z :: _ =>
    match hexValue? w, hexValue? x, hexValue? y, hexValue? z with
    | some w, some x, some y, some z =>
      .ok (((w * 16 + x) * 16 + y) * 16 + z, c.advance.advance.advance.advance)
    | _, _, _, _ => .error (short c)
  | _ => .error (short c)
where
  short (c : Cursor) : Fault :=
    let (line, col, missing) := passBytes 4 c.rest c.line c.col
    if missing = 0 then ⟨.badEscape, line, col⟩
    else
      let (line, col) := finish c.rest c.line c.col
      ⟨.endInText, line, col⟩

/-- the character of a `\u` escape behind its `u`; a pair of surrogates is one character -/
def unicodeEscape : Read Char := fun c => do
  let (n, c) ← fourHex c
  if 0xdc00 ≤ n ∧ n ≤ 0xdfff then .error (c.here .loneSurrogate)
  else if n < 0xd800 ∨ n > 0xdbff then .ok (Char.ofNat n, c)
  else
    let c ← expect '\\' c
    let c ← expect 'u' c
    let (m, c) ← fourHex c
    if m < 0xdc00 ∨ m > 0xdfff then .error (c.here .loneSurrogate)
    else .ok (Char.ofNat ((n - 0xd800) * 0x400 + (m - 0xdc00) + 0x10000), c)
where
  expect (d : Char) (c : Cursor) : Except Fault Cursor :=
    match c.rest with
    | [] => .error (c.here .endInText)
    | e :: _ => if e = d then .ok c.advance else .error (c.onNext .endOfHex)

/-- the character that a one-letter escape stands for -/
def plainEscape? : Char → Option Char
  | '"' => some '"'
  | '\\' => some '\\'
  | '/' => some '/'
  | 'b' => some '\x08'
  | 'f' => some '\x0c'
  | 'n' => some '\n'
  | 'r' => some '\r'
  | 't' => some '\t'
  | _ => none

/-- the body of a text behind its opening quote; `acc` holds what was read, the last first -/
def textBody : Nat → List Char → Read (List Char)
  | 0, _, c => .error (c.here .endInText)
  | fuel + 1, acc, c =>
    match c.rest with
    | [] => .error (c.here .endInText)
    | '"' :: _ => .ok (acc.reverse, c.advance)
    | '\\' :: e =>
      let c := c.advance
      match e with
      | [] => .error (c.here .endInText)
      | 'u' :: _ => do
        let (d, c) ← unicodeEscape c.advance
        textBody fuel (d :: acc) c
      | x :: _ =>
        match plainEscape? x with
        | some d => textBody fuel (d :: acc) c.advance
        | none => .error (c.onNext .badEscape)
    | d :: _ =>
      if d.toNat < 0x20 then .error (c.onNext .controlCharacter)
      else textBody fuel (d :: acc) c.advance

/-- a text behind its opening quote -/
def textLiteral : Read String := fun c => do
  let (cs, c) ← textBody (c.rest.length + 1) [] c
  .ok (String.ofList cs, c)

/-- passes a text whose value nobody asks for; surrogates need no partner here -/
def skipText : Nat → Cursor → Except Fault Cursor
  | 0, c => .error (c.here .endInText)
  | fuel + 1, c =>
    match c.rest with
    | [] => .error (c.here .endInText)
    | '"' :: _ => .ok c.advance
    | '\\' :: e =>
      let c := c.advance
      match e with
      | [] => .error (c.here .endInText)
      | 'u' :: _ => do
        let (_, c) ← fourHex c.advance
        skipText fuel c
      | x :: _ =>
        if (plainEscape? x).isSome then skipText fuel c.advance
        else .error (c.onNext .badEscape)
    | d :: _ =>
      if d.toNat < 0x20 then .error (c.here .controlCharacter)
      else skipText fuel c.advance

end Scripting.Json
