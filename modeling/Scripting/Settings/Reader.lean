import Scripting.Json.Reader
import Scripting.Settings

/-!
# Reading settings

Settings are read from a JSON document, either from an object that gives some of them by name, or
from a list that gives the first few in their order.  What is not given keeps its default.  Unknown
members are passed over, but they have to be well formed; a member given twice is a fault.
-/

namespace Scripting.Settings

open Json Json.Cursor

/-- what stands at the cursor, where `expected` should stand -/
def wrongType (expected : String) (c : Cursor) : Fault :=
  match found with
  | .error f => f
  | .ok (w, c) => c.here (.wrongType w expected)
where
  found : Except Fault (Found × Cursor) :=
    match c.rest with
    | 'n' :: _ => do let (_, c) ← word ['u', 'l', 'l'] c.advance; .ok (.null, c)
    | 't' :: _ => do let (_, c) ← word ['r', 'u', 'e'] c.advance; .ok (.bool true, c)
    | 'f' :: _ => do let (_, c) ← word ['a', 'l', 's', 'e'] c.advance; .ok (.bool false, c)
    | '-' :: _ => do let (n, c) ← number false c.advance; .ok (ofNumber n, c)
    | '"' :: _ => do let (s, c) ← textLiteral c.advance; .ok (.text s, c)
    | '[' :: _ => .ok (.sequence, c)
    | '\x7b' :: _ => .ok (.map, c)
    | d :: _ =>
      if (digit? d).isSome then do let (n, c) ← number true c; .ok (ofNumber n, c)
      else .error (c.onNext .noValue)
    | [] => .error (c.onNext .noValue)
  ofNumber : Number → Found
    | .int i => .int i
    | .float x => .float x

/-- an unsigned number: neither a sign nor a fraction nor an exponent -/
def unsigned (expected : String) (c : Cursor) : Number → Except Fault (Value × Cursor)
  | .int i =>
    if 0 ≤ i then .ok (.number i.toNat, c) else .error (c.here (.wrongValue (.int i) expected))
  | .float x => .error (c.here (.wrongType (.float x) expected))

/-- the value of a setting of the given kind -/
def value (kind : Kind) : Read Value := fun c =>
  let c := c.skipBlanks
  match c.rest with
  | [] => .error (c.onNext .endInValue)
  | d :: _ =>
    match kind with
    | .number expected =>
      if d = '-' then do let (n, c) ← number false c.advance; unsigned expected c n
      else if (digit? d).isSome then do let (n, c) ← number true c; unsigned expected c n
      else .error (wrongType expected c)
    | .switch =>
      if d = 't' then do let (_, c) ← word ['r', 'u', 'e'] c.advance; .ok (.switch true, c)
      else if d = 'f' then do
        let (_, c) ← word ['a', 'l', 's', 'e'] c.advance
        .ok (.switch false, c)
      else .error (wrongType "a boolean" c)
    | .text =>
      if d = '"' then do let (s, c) ← textLiteral c.advance; .ok (.text s, c)
      else .error (wrongType "a string" c)

/-! ## Lists -/

/-- whether a list has another item, and where that starts -/
def nextItem (first : Bool) (c : Cursor) : Except Fault (Bool × Cursor) :=
  let c := c.skipBlanks
  match c.rest with
  | [] => .error (c.onNext .endInList)
  | ']' :: _ => .ok (false, c)
  | ',' :: _ =>
    if first then .ok (true, c)
    else
      let c := c.advance.skipBlanks
      match c.rest with
      | ']' :: _ => .error (c.onNext .trailingComma)
      | [] => .error (c.onNext .endInValue)
      | _ => .ok (true, c)
  | _ => if first then .ok (true, c) else .error (c.onNext .noListEnd)

/-- the values of the settings `keys`, as far as the list goes -/
def items (first : Bool) (s : Settings) : List Key → Read Settings
  | [], c => .ok (s, c)
  | k :: ks, c => do
    let (more, c) ← nextItem first c
    if more then
      let (v, c) ← value k.kind c
      items false (s.put k v) ks c
    else .ok (s, c)

/-- the bracket that closes a list -/
def closeList (c : Cursor) : Except Fault Cursor :=
  let c := c.skipBlanks
  match c.rest with
  | [] => .error (c.onNext .endInList)
  | ']' :: _ => .ok c.advance
  | ',' :: _ =>
    let c := c.advance.skipBlanks
    match c.rest with
    | ']' :: _ => .error (c.onNext .trailingComma)
    | _ => .error (c.onNext .trailing)
  | _ => .error (c.onNext .trailing)

/-! ## Objects -/

/-- whether an object has another member, and where its key starts -/
def nextKey (first : Bool) (c : Cursor) : Except Fault (Bool × Cursor) :=
  let c := c.skipBlanks
  match c.rest with
  | [] => .error (c.onNext .endInObject)
  | '\x7d' :: _ => .ok (false, c)
  | d :: _ =>
    if first then (if d = '"' then .ok (true, c) else .error (c.onNext .keyNotText))
    else if d = ',' then
      let c := c.advance.skipBlanks
      match c.rest with
      | '"' :: _ => .ok (true, c)
      | '\x7d' :: _ => .error (c.onNext .trailingComma)
      | [] => .error (c.onNext .endInValue)
      | _ => .error (c.onNext .keyNotText)
    else .error (c.onNext .noObjectEnd)

/-- passes the colon between a key and its value -/
def colon (c : Cursor) : Except Fault Cursor :=
  let c := c.skipBlanks
  match c.rest with
  | ':' :: _ => .ok c.advance
  | [] => .error (c.onNext .endInObject)
  | _ => .error (c.onNext .noColon)

/-- where a member that was given before is reported: behind blanks and a closing brace -/
def duplicate (k : Key) (c : Cursor) : Fault :=
  let c := c.skipBlanks
  let c := match c.rest with
    | '\x7d' :: _ => c.advance
    | _ => c
  c.here (.duplicateField k.name)

/-- the members of an object up to its brace; `given` holds the settings read so far -/
def members : Nat → Bool → List Key → Settings → Read Settings
  | 0, _, _, _, c => .error (c.here .noObjectEnd)
  | fuel + 1, first, given, s, c => do
    let (more, c) ← nextKey first c
    if more then
      let (name, c) ← textLiteral c.advance
      match Key.ofName? name with
      | none =>
        let c ← colon c
        let c ← skip c
        members fuel false given s c
      | some k =>
        if given.contains k then .error (duplicate k c)
        else
          let c ← colon c
          let (v, c) ← value k.kind c
          members fuel false (k :: given) (s.put k v) c
    else .ok (s, c.advance)

/-- the settings that a document gives -/
def read (document : String) : Except Fault Settings := do
  let c := (Cursor.start document).skipBlanks
  let (s, c) ← match c.rest with
    | [] => .error (c.onNext .endInValue)
    | '[' :: _ => do
      let (s, c) ← items true {} Key.all c.advance
      let c ← closeList c
      .ok (s, c)
    | '\x7b' :: _ => members (c.rest.length + 1) true [] {} c.advance
    | _ => .error (wrongType "struct RhaiConfig" c)
  ended c
  .ok s

end Scripting.Settings
