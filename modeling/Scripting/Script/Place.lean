import Scripting.Script.Fault
import Scripting.Script.Operator

/-!
# Parts of values

Lists, texts and bytes have items, integers have bits, records have properties.  A part is read or
put in place of another one; a negative index counts from the end.
-/

namespace Scripting.Script

namespace Place

/-! ## Items -/

/-- where an index points to among so many items -/
def offset? (length : Nat) (i : Int) : Option Nat :=
  if 0 ≤ i then (if i.toNat < length then some i.toNat else none)
  else if i.natAbs ≤ length then some (length - i.natAbs)
  else none

def itemAt? {α : Type} (items : List α) (i : Int) : Option α :=
  (offset? items.length i).bind fun n => items[n]?

def setItem? {α : Type} (items : List α) (i : Int) (a : α) : Option (List α) :=
  (offset? items.length i).map fun n => items.set n a

/-! ## Bits -/

/-- how many bits an integer has -/
def width : Nat := 64

/-- a bit of an integer, the lowest first -/
def bit (i : Int) (n : Nat) : Bool := i / Nat.pow 2 n % 2 == 1

/-- the integer with another bit; the highest one is the sign -/
def setBit (i : Int) (n : Nat) (b : Bool) : Int :=
  let changed := i + (cond b 1 0 - cond (bit i n) 1 0) * Nat.pow 2 n
  if Value.limit63 ≤ changed then changed - 2 * Value.limit63
  else if changed < -Value.limit63 then changed + 2 * Value.limit63
  else changed

/-! ## Faults -/

/-- which part of an assignment to `x[i]` or `x.i`, or of a use of it, a fault is about -/
inductive Spot where
  /-- the index or name `i` -/
  | index
  /-- the bracket before it -/
  | bracket
  /-- the value that does not fit -/
  | value
deriving DecidableEq, Repr

structure Misfit where
  cause : Cause
  spot : Spot := .index

abbrev Result := Except Misfit

/-- what is said of an index that has to be of another type -/
def wrongIndex {α : Type} (i : Value) (expected : String) : Result α :=
  .error ⟨.wrongType i.typeName expected, .index⟩

/-- what is said of a part that has to be of another type -/
def wrongPart {α : Type} (part : Value) (expected : String) : Result α :=
  .error ⟨.wrongType part.typeName expected, .value⟩

def outOfBounds {α : Type} (what : Sequence) (index : Int) (length : Nat) : Result α :=
  .error ⟨.indexOutOfBounds what index length, .index⟩

/-- a value without parts; `assigned` is what is to become its part -/
def noIndexer {α : Type} (v i : Value) (assigned : Option Value) : Result α :=
  let text := v.typeName ++ " [" ++ i.typeName ++ "]"
  .error ⟨.notIndexable (match assigned with
    | some part => text ++ " = " ++ part.typeName
    | none => text), .bracket⟩

def noProperty {α : Type} (name : String) : Result α := .error ⟨.noProperty name, .index⟩

def noGetter {α : Type} (v : Value) (name : String) : Result α :=
  .error ⟨.unknownProperty ("Unknown property '" ++ name ++
    "' - a getter is not registered for type '" ++ v.typeName ++ "'"), .index⟩

def noSetter {α : Type} (v : Value) (name : String) (part : Value) : Result α :=
  .error ⟨.unknownProperty ("No writable property '" ++ name ++
    "' - a setter is not registered for type '" ++ v.typeName ++ "' to handle '" ++
    part.typeName ++ "'"), .index⟩

/-! ## Reading -/

/-- the part of a value at an index -/
def get (v i : Value) : Result Value :=
  match v, i with
  | .list items, .int n =>
    match itemAt? items n with
    | some item => .ok item
    | none => outOfBounds .array n items.length
  | .text s, .int n =>
    match itemAt? s.toList n with
    | some c => .ok (.char c)
    | none => outOfBounds .text n s.length
  | .bytes bs, .int n =>
    match itemAt? bs n with
    | some b => .ok (.int b.toNat)
    | none => outOfBounds .array n bs.length
  | .int bits, .int n =>
    match offset? width n with
    | some place => .ok (.bool (bit bits place))
    | none => outOfBounds .bits n width
  | .record fields, .text name =>
    match Assoc.get? name fields with
    | some w => .ok w
    | none => noProperty name
  | .list _, _ | .text _, _ | .bytes _, _ | .int _, _ => wrongIndex i "i64"
  | .record _, _ => wrongIndex i "string"
  | _, _ => noIndexer v i none

/-- how many items a value has -/
def length? : Value → Option Nat
  | .text s => some s.length
  | .list items => some items.length
  | .record fields => some fields.length
  | .bytes bs => some bs.length
  | _ => none

/-- a property of a value -/
def property (v : Value) (name : String) : Result Value :=
  match v with
  | .record fields =>
    match Assoc.get? name fields with
    | some w => .ok w
    | none => noProperty name
  | _ =>
    match length? v, name with
    | some n, "len" => .ok (.int n)
    | some n, "is_empty" => .ok (.bool (n == 0))
    | _, _ => noGetter v name

/-! ## Putting -/

/-- the value with another part at an index; a record may get a new one -/
def set (v i part : Value) : Result Value :=
  match v, i with
  | .list items, .int n =>
    match setItem? items n part with
    | some items => .ok (.list items)
    | none => outOfBounds .array n items.length
  | .text s, .int n =>
    match offset? s.length n, part with
    | some place, .char c => .ok (.text (String.ofList (s.toList.set place c)))
    | some _, _ => wrongPart part "char"
    | none, _ => outOfBounds .text n s.length
  | .bytes bs, .int n =>
    match offset? bs.length n, part with
    | some place, .int b => .ok (.bytes (bs.set place (UInt8.ofNat (b % 256).toNat)))
    | some _, _ => wrongPart part "INT"
    | none, _ => outOfBounds .array n bs.length
  | .int bits, .int n =>
    match offset? width n, part with
    | some place, .bool b => .ok (.int (setBit bits place b))
    | some _, _ => wrongPart part "bool"
    | none, _ => outOfBounds .bits n width
  | .record fields, .text name => .ok (.record (Assoc.insert name part fields))
  | .list _, _ | .text _, _ | .bytes _, _ | .int _, _ => wrongIndex i "i64"
  | .record _, _ => wrongIndex i "string"
  | _, _ => noIndexer v i (some part)

/-- the value with another property -/
def setProperty (v : Value) (name : String) (part : Value) : Result Value :=
  match v with
  | .record fields => .ok (.record (Assoc.insert name part fields))
  | _ => noSetter v name part

/-! ## What an operation on a part starts from -/

/-- a record that lacks the part starts from nothing -/
def orUnit : Result Value → Result Value
  | .error ⟨.noProperty _, _⟩ => .ok .unit
  | r => r

end Place

end Scripting.Script
