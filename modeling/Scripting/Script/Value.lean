import Scripting.Assoc
import Scripting.Data
import Scripting.Decimal.Layout
import Scripting.Text.Quoted

/-!
# Script values

The values that a script works with, their texts, and how they cross the border to the host.  What
crosses, and as what, is a parameter (`Border`).  At the border as it is (`Border.standard`) every
host value has its script value (`Value.ofData`), and the way back (`Value.toData`) is barred only
to functions, ranges and bytes.
-/

namespace Scripting.Script

inductive Value where
  | unit
  | bool (b : Bool)
  /-- of 64 bits -/
  | int (i : Int)
  | float (x : Float)
  | char (c : Char)
  | text (s : String)
  | list (items : List Value)
  /-- with its fields in ascending order -/
  | record (fields : List (String × Value))
  /-- a function, and the cells of the variables it took along -/
  | function (name : String) (cells : List Nat)
  /-- whole numbers from `first` up to `last`, which may or may not belong to it -/
  | range (first last : Int) (inclusive : Bool)
  /-- whole numbers `step` apart, from `first` on and before `last` -/
  | steps (first last step : Int)
  /-- the same with floating-point numbers -/
  | floatSteps (first last step : Float)
  | bytes (bs : List UInt8)
deriving Inhabited, BEq

namespace Value

/-- the name of a value's type -/
def typeName : Value → String
  | unit => "()"
  | bool _ => "bool"
  | int _ => "i64"
  | float _ => "f64"
  | char _ => "char"
  | text _ => "string"
  | list _ => "array"
  | record _ => "map"
  | function .. => "Fn"
  | range _ _ false => "range"
  | range _ _ true => "range="
  | steps .. | floatSteps .. => "StepRange"
  | bytes _ => "blob"

/-- the name of a value's type among the parameters of a function -/
def parameterType : Value → String
  | text _ => "&str | ImmutableString | String"
  | v => v.typeName

/-! ## Texts -/

def rangeText (first last : Int) (inclusive : Bool) : String :=
  toString first ++ (if inclusive then "..=" else "..") ++ toString last

def byteText (b : UInt8) : String :=
  String.ofList [Text.hexDigit (b.toNat / 16), Text.hexDigit (b.toNat % 16)]

mutual

/-- a value inside a list or record, with its characters written as `char` says -/
def innerBy (char : Char → String) : Value → String
  | unit => "()"
  | bool b => if b then "true" else "false"
  | int i => toString i
  | float x => Decimal.Layout.inner.write x
  | .char c => char c
  | text s => Text.quoted s
  | list items => "[" ++ ", ".intercalate (itemsBy char items) ++ "]"
  | record fields => "#\x7b" ++ ", ".intercalate (fieldsBy char fields) ++ "\x7d"
  | function name _ => "Fn(" ++ name ++ ")"
  | range first last inclusive => rangeText first last inclusive
  | steps .. | floatSteps .. => "StepRange"
  | bytes bs => "[" ++ String.join (bs.map byteText) ++ "]"

def itemsBy (char : Char → String) : List Value → List String
  | [] => []
  | v :: vs => v.innerBy char :: itemsBy char vs

def fieldsBy (char : Char → String) : List (String × Value) → List String
  | [] => []
  | (k, v) :: rest => (Text.quoted k ++ ": " ++ v.innerBy char) :: fieldsBy char rest

end

/-- a value as a text, with the characters inside it written as `char` says -/
def outerBy (char : Char → String) : Value → String
  | unit => ""
  | float x => Decimal.Layout.outer.write x
  | .char c => String.singleton c
  | text s => s
  | v => v.innerBy char

/-- a value inside a list or record, as a running script writes it: characters stand for
themselves -/
def inner (v : Value) : String := v.innerBy String.singleton

/-- a value as a running script writes it -/
def outer (v : Value) : String := v.outerBy String.singleton

/-- A value as it is shown from outside, when it is thrown or known before the run: characters
inside it are quoted. -/
def shown (v : Value) : String := v.outerBy Text.quotedSingle

mutual

/-- how many values a value is made of, itself included -/
def count : Value → Nat
  | list items => countItems items + 1
  | record fields => countFields fields + 1
  | _ => 1

def countItems : List Value → Nat
  | [] => 0
  | v :: vs => v.count + countItems vs

def countFields : List (String × Value) → Nat
  | [] => 0
  | (_, v) :: rest => v.count + countFields rest

end

/-! ## Across the border -/

def limit63 : Int := Nat.pow 2 63

/-- an integer that does not fit in 64 bits becomes a floating-point number -/
def ofInt (i : Int) : Value :=
  if -limit63 ≤ i ∧ i < limit63 then int i else float (Float.ofInt i)

mutual

/-- the script value of a host value -/
def ofData : Data → Value
  | .null => unit
  | .bool b => bool b
  | .int i => ofInt i
  | .float x => float x
  | .text s => text s
  | .list items => list (ofItems items)
  | .record fields => record (ofFields [] fields)

def ofItems : List Data → List Value
  | [] => []
  | d :: ds => ofData d :: ofItems ds

/-- the fields behind those of `before`, of two with one name the later -/
def ofFields (before : List (String × Value)) : List (String × Data) → List (String × Value)
  | [] => before
  | (k, d) :: rest => ofFields (Assoc.insert k (ofData d) before) rest

end

/-- the name of a value's type where the border is closed to it -/
def foreignName : Value → String
  | range _ _ false => "Range<i64>"
  | range _ _ true => "RangeInclusive<i64>"
  | v => v.typeName

/-- why a value has no host value -/
def barrier : Value → String
  | bytes _ => "Syntax error: invalid type: byte array, expected any valid JSON value"
  | v => "Output type incorrect: " ++ v.foreignName ++ " (expecting serde_json::value::Value)"

mutual

/-- the host value of a script value; a number that is none becomes nothing -/
def toData : Value → Except String Data
  | unit => .ok .null
  | bool b => .ok (.bool b)
  | int i => .ok (.int i)
  | float x => .ok (if x.isNaN || x.isInf then .null else .float x)
  | char c => .ok (.text (String.singleton c))
  | text s => .ok (.text s)
  | list items => (toItems items).map .list
  | record fields => (toFields fields).map .record
  | function name cells => .error (barrier (function name cells))
  | range first last inclusive => .error (barrier (range first last inclusive))
  | steps first last step => .error (barrier (steps first last step))
  | floatSteps first last step => .error (barrier (floatSteps first last step))
  | bytes bs => .error (barrier (bytes bs))

def toItems : List Value → Except String (List Data)
  | [] => .ok []
  | v :: vs => do
    let d ← toData v
    let ds ← toItems vs
    .ok (d :: ds)

def toFields : List (String × Value) → Except String (List (String × Data))
  | [] => .ok []
  | (k, v) :: rest => do
    let d ← toData v
    let ds ← toFields rest
    .ok ((k, d) :: ds)

end

/-! ## Sizes -/

/-- how much a value holds in all its parts -/
structure Size where
  items : Nat := 0
  fields : Nat := 0
  bytes : Nat := 0
deriving DecidableEq, Repr

def Size.add (a b : Size) : Size := ⟨a.items + b.items, a.fields + b.fields, a.bytes + b.bytes⟩

mutual

def size : Value → Size
  | text s => ⟨0, 0, s.utf8ByteSize⟩
  | list items => (sizeItems items).add ⟨items.length, 0, 0⟩
  | record fields => (sizeFields fields).add ⟨0, fields.length, 0⟩
  | bytes bs => ⟨bs.length, 0, 0⟩
  | _ => {}

def sizeItems : List Value → Size
  | [] => {}
  | v :: vs => v.size.add (sizeItems vs)

def sizeFields : List (String × Value) → Size
  | [] => {}
  | (_, v) :: rest => v.size.add (sizeFields rest)

end

end Value

/-- the two ways across the border, on which a value may be refused for some reason -/
structure Border where
  /-- the script value of a host value -/
  inward : Data → Except String Value
  /-- the host value of a script value -/
  outward : Value → Except String Data

namespace Border

def standard : Border where
  inward := fun d => .ok (Value.ofData d)
  outward := Value.toData

/-- the script values of arguments; the first one that is refused decides -/
def inwardAll (b : Border) : List Data → Except String (List Value)
  | [] => .ok []
  | d :: ds => do
    let v ← b.inward d
    let vs ← inwardAll b ds
    .ok (v :: vs)

theorem inwardAll_cons_eq_ok {b : Border} {d : Data} {ds : List Data} {values : List Value} :
    b.inwardAll (d :: ds) = .ok values ↔
      ∃ v vs, b.inward d = .ok v ∧ b.inwardAll ds = .ok vs ∧ v :: vs = values := by
  rw [inwardAll]
  cases b.inward d with
  | error why => simp [bind, Except.bind]
  | ok v => cases b.inwardAll ds <;> simp [bind, Except.bind]

theorem length_inwardAll {b : Border} {args : List Data} {values : List Value}
    (h : b.inwardAll args = .ok values) : values.length = args.length := by
  induction args generalizing values with
  | nil => cases h; rfl
  | cons d ds ih =>
    obtain ⟨v, vs, -, hvs, rfl⟩ := inwardAll_cons_eq_ok.mp h
    rw [List.length_cons, List.length_cons, ih hvs]

theorem inwardAll_standard (args : List Data) :
    standard.inwardAll args = .ok (args.map Value.ofData) := by
  induction args with
  | nil => rfl
  | cons d ds ih => exact inwardAll_cons_eq_ok.mpr ⟨_, _, rfl, ih, rfl⟩

end Border

end Scripting.Script
