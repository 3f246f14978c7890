import Scripting.Data
import Scripting.Json.Lexeme

/-!
# Reading JSON values

`read` takes a whole document to the value it denotes, and `skip` passes one value without building
it.  `skip` follows its brackets with a stack, so that a value of any depth is passed.
-/

namespace Scripting.Json

open Cursor

def Number.toData : Number → Data
  | .int i => .int i
  | .float x => .float x

mutual

/-- one value; `fuel` bounds the depth of nesting plus the number of members -/
def value : Nat → Read Data
  | 0, c => .error (c.here .noValue)
  | fuel + 1, c =>
    let c := c.skipBlanks
    match c.rest with
    | [] => .error (c.onNext .endInValue)
    | 'n' :: _ => do let (_, c) ← word ['u', 'l', 'l'] c.advance; .ok (.null, c)
    | 't' :: _ => do let (_, c) ← word ['r', 'u', 'e'] c.advance; .ok (.bool true, c)
    | 'f' :: _ => do let (_, c) ← word ['a', 'l', 's', 'e'] c.advance; .ok (.bool false, c)
    | '-' :: _ => do let (n, c) ← number false c.advance; .ok (n.toData, c)
    | '"' :: _ => do let (s, c) ← textLiteral c.advance; .ok (.text s, c)
    | '[' :: _ => do let (xs, c) ← items fuel true [] c.advance; .ok (.list xs, c)
    | '\x7b' :: _ => do let (fs, c) ← members fuel true [] c.advance; .ok (.record fs, c)
    | d :: _ =>
      if (digit? d).isSome then do let (n, c) ← number true c; .ok (n.toData, c)
      else .error (c.onNext .noValue)

/-- the items of a list behind its bracket -/
def items : Nat → Bool → List Data → Read (List Data)
  | 0, _, _, c => .error (c.here .noListEnd)
  | fuel + 1, first, acc, c =>
    let c := c.skipBlanks
    match c.rest with
    | [] => .error (c.onNext .endInList)
    | ']' :: _ => .ok (acc.reverse, c.advance)
    | ',' :: _ =>
      if first then .error (c.onNext .noValue)
      else
        let c := c.advance.skipBlanks
        match c.rest with
        | ']' :: _ => .error (c.onNext .trailingComma)
        | _ => do let (x, c) ← value fuel c; items fuel false (x :: acc) c
    | _ =>
      if first then do let (x, c) ← value fuel c; items fuel false (x :: acc) c
      else .error (c.onNext .noListEnd)

/-- the members of an object behind its brace -/
def members : Nat → Bool → List (String × Data) → Read (List (String × Data))
  | 0, _, _, c => .error (c.here .noObjectEnd)
  | fuel + 1, first, acc, c =>
    let c := c.skipBlanks
    match c.rest with
    | [] => .error (c.onNext .endInObject)
    | '\x7d' :: _ => .ok (acc.reverse, c.advance)
    | ',' :: _ =>
      if first then .error (c.onNext .keyNotText)
      else
        let c := c.advance.skipBlanks
        match c.rest with
        | '"' :: _ => member fuel acc c
        | '\x7d' :: _ => .error (c.onNext .trailingComma)
        | [] => .error (c.onNext .endInValue)
        | _ => .error (c.onNext .keyNotText)
    | '"' :: _ => if first then member fuel acc c else .error (c.onNext .noObjectEnd)
    | _ => .error (c.onNext (if first then .keyNotText else .noObjectEnd))

/-- one member, standing on the quote of its key, and the members behind it -/
def member : Nat → List (String × Data) → Read (List (String × Data))
  | 0, _, c => .error (c.here .noObjectEnd)
  | fuel + 1, acc, c => do
    let (key, c) ← textLiteral c.advance
    let c := c.skipBlanks
    match c.rest with
    | ':' :: _ => do
      let (x, c) ← value fuel c.advance
      members fuel false ((key, x) :: acc) c
    | [] => .error (c.onNext .endInObject)
    | _ => .error (c.onNext .noColon)

end

/-- nothing but blanks may follow -/
def ended (c : Cursor) : Except Fault Unit :=
  let c := c.skipBlanks
  if c.rest.isEmpty then .ok () else .error (c.onNext .trailing)

/-- the value of a whole document -/
def read (s : String) : Except Fault Data := do
  let c := Cursor.start s
  let (x, c) ← value (4 * c.rest.length + 4) c
  ended c
  .ok x

/-! ## Passing a value -/

/-- passes a number behind its sign -/
def skipNumber (c : Cursor) : Except Fault Cursor :=
  match c.rest.head?.bind digit? with
  | none => .error (if c.rest.isEmpty then c.here .badNumber else c.onNext .badNumber)
  | some n =>
    let c := c.advance
    if n = 0 ∧ (nextDigit? c).isSome then .error (c.onNext .badNumber)
    else
      let c := skipDigits c.rest.length c
      match c.rest with
      | '.' :: _ =>
        let c := c.advance
        if (nextDigit? c).isNone then .error (c.onNext .badNumber)
        else
          let c := skipDigits c.rest.length c
          if startsExponent c then skipExponent c else .ok c
      | _ => if startsExponent c then skipExponent c else .ok c
where
  skipExponent (c : Cursor) : Except Fault Cursor :=
    let c := c.advance
    let c := match c.rest with
      | '+' :: _ | '-' :: _ => c.advance
      | _ => c
    if (nextDigit? c).isSome then .ok (skipDigits c.rest.length c)
    else .error (if c.rest.isEmpty then c.here .badNumber else c.onNext .badNumber)

/-- the two kinds of bracket that can be open -/
inductive Frame where
  | list | object
deriving DecidableEq

/-- what passing is about to do: read a value, or go on inside a frame -/
inductive Skipping where
  | atValue
  | inside (frame : Frame) (comma : Bool)

/-- after a value inside the frames `stack`, the innermost first -/
def afterValue : List Frame → Option (Skipping × List Frame)
  | [] => none
  | f :: fs => some (.inside f true, fs)

/-- passes the key of a member and its colon -/
def skipKey (c : Cursor) : Except Fault Cursor :=
  let c := c.skipBlanks
  match c.rest with
  | '"' :: _ => do
    let c ← skipText (c.rest.length + 1) c.advance
    let c := c.skipBlanks
    match c.rest with
    | ':' :: _ => .ok c.advance
    | [] => .error (c.onNext .endInObject)
    | _ => .error (c.onNext .noColon)
  | [] => .error (c.onNext .endInObject)
  | _ => .error (c.onNext .keyNotText)

/-- one value of any depth; each step passes a character or opens no frame -/
def skipFrom : Nat → Skipping → List Frame → Cursor → Except Fault Cursor
  | 0, _, _, c => .error (c.here .noValue)
  | fuel + 1, .atValue, stack, c => do
    let c := c.skipBlanks
    let done (c : Cursor) : Except Fault Cursor :=
      match afterValue stack with
      | none => .ok c
      | some (next, rest) => skipFrom fuel next rest c
    match c.rest with
    | [] => .error (c.onNext .endInValue)
    | 'n' :: _ => do let (_, c) ← word ['u', 'l', 'l'] c.advance; done c
    | 't' :: _ => do let (_, c) ← word ['r', 'u', 'e'] c.advance; done c
    | 'f' :: _ => do let (_, c) ← word ['a', 'l', 's', 'e'] c.advance; done c
    | '-' :: _ => do let c ← skipNumber c.advance; done c
    | '"' :: _ => do let c ← skipText (c.rest.length + 1) c.advance; done c
    | '[' :: _ => skipFrom fuel (.inside .list false) stack c.advance
    | '\x7b' :: _ => skipFrom fuel (.inside .object false) stack c.advance
    | d :: _ =>
      if (digit? d).isSome then do let c ← skipNumber c; done c
      else .error (c.onNext .noValue)
  | fuel + 1, .inside frame comma, stack, c => do
    let c := c.skipBlanks
    let close : Char := match frame with | .list => ']' | .object => '\x7d'
    let enter (c : Cursor) : Except Fault Cursor :=
      match frame with
      | .list => skipFrom fuel .atValue (frame :: stack) c
      | .object => do
        let c ← skipKey c
        skipFrom fuel .atValue (frame :: stack) c
    match c.rest with
    | [] => .error (c.onNext (match frame with | .list => .endInList | .object => .endInObject))
    | d :: _ =>
      if d = ',' ∧ comma then enter c.advance
      else if d = close then
        match afterValue stack with
        | none => .ok c.advance
        | some (next, rest) => skipFrom fuel next rest c.advance
      else if comma then
        .error (c.onNext (match frame with | .list => .noListEnd | .object => .noObjectEnd))
      else enter c

def skip (c : Cursor) : Except Fault Cursor := skipFrom (2 * c.rest.length + 4) .atValue [] c

end Scripting.Json
