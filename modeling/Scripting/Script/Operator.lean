import Scripting.Script.Fault
import Scripting.Script.Syntax
import Scripting.Text.Utf8

/-!
# Operators on script values

Arithmetic is that of 64-bit integers, where a result that does not fit is a fault, and of
floating-point numbers.  An integer beside a floating-point number counts as one itself, and such
numbers are compared with a tolerance.  A text on either side of a plus joins the texts of both.
Values of different kinds are never equal, and no comparison of them holds.
-/

namespace Scripting.Script

namespace Operator

/-- the operands' types in a message -/
def signature (name : String) (args : List Value) : String :=
  name ++ " (" ++ ", ".intercalate (args.map Value.parameterType) ++ ")"

/-- an operator that is not there for these operands -/
def missing (name : String) (args : List Value) : Cause := .noFunction (signature name args)

/-! ## Integers -/

def fits (i : Int) : Bool := decide (-Value.limit63 ≤ i) && decide (i < Value.limit63)

def overflow (what op : String) (a b : Int) : Cause :=
  .arithmetic (what ++ ": " ++ toString a ++ " " ++ op ++ " " ++ toString b)

/-- a result that fits, or a fault -/
def checked (what op : String) (a b result : Int) : Except Cause Value :=
  if fits result then .ok (.int result) else .error (overflow what op a b)

/-- an arithmetic operator on integers -/
def intArithmetic? (op : BinaryOp) (a b : Int) : Option (Except Cause Value) :=
  match op with
  | .add => some (checked "Addition overflow" "+" a b (a + b))
  | .sub => some (checked "Subtraction overflow" "-" a b (a - b))
  | .mul => some (checked "Multiplication overflow" "*" a b (a * b))
  | .div => some
      (if b = 0 then .error (overflow "Division by zero" "/" a b)
      else checked "Division overflow" "/" a b (Int.tdiv a b))
  | .rem => some
      (if b = 0 ∨ !fits (Int.tdiv a b) then
        .error (overflow "Modulo division by zero or overflow" "%" a b)
      else .ok (.int (Int.tmod a b)))
  | .range => some (.ok (.range a b false))
  | .rangeTo => some (.ok (.range a b true))
  | _ => none

/-! ## Floating-point numbers -/

/-- a finite number as a whole number times a power of two -/
def exact (x : Float) : Int × Int :=
  let (negative, exponent, fraction) := Decimal.fields x.toBits.toNat
  let (m, e) : Nat × Int :=
    if exponent = 0 then (fraction, -1074) else (fraction + Nat.pow 2 52, (exponent : Int) - 1075)
  (if negative then -(m : Int) else m, e)

/-- the remainder of a division that is rounded toward zero; it has the sign of `x` -/
def remainder (x y : Float) : Float :=
  if x.isNaN || y.isNaN || x.isInf || y == 0 then 0.0 / 0.0
  else if y.isInf || x == 0 then x
  else
    let (m, d) := exact x
    let (n, e) := exact y
    let low := min d e
    let r := Int.tmod (m * Nat.pow 2 (d - low).toNat) (n * Nat.pow 2 (e - low).toNat)
    let magnitude := (Float.ofNat r.natAbs).scaleB low
    if m < 0 then -magnitude else magnitude

def floatArithmetic? (op : BinaryOp) (x y : Float) : Option Value :=
  match op with
  | .add => some (.float (x + y))
  | .sub => some (.float (x - y))
  | .mul => some (.float (x * y))
  | .div => some (.float (x / y))
  | .rem => some (.float (remainder x y))
  | _ => none

/-! ## Comparing -/

/-- the outcome of a comparison of ordered things -/
def ordered? (op : BinaryOp) (less equal : Bool) : Option Bool :=
  match op with
  | .eq => some equal
  | .ne => some (!equal)
  | .lt => some less
  | .le => some (less || equal)
  | .gt => some (!less && !equal)
  | .ge => some (!less)
  | _ => none

/-- how far apart numbers next to one may lie and still count as equal: 2 to the power of -52 -/
def tolerance : Float := Float.ofScientific 2220446049250313 true 31

/-- Floating-point numbers are compared by their difference in relation to the greater magnitude, or
by the difference itself if the square of one of them is zero.  No comparison holds of infinite
numbers, or of one that is no number unless the other one is zero. -/
def orderedFloat? (op : BinaryOp) (x y : Float) : Option Bool :=
  let absolute := x * x == 0 || y * y == 0
  let scale := if absolute then 1 else if x.abs > y.abs then x.abs else y.abs
  let above := (x - y) / scale
  let below := (y - x) / scale
  let distance := (x - y).abs / scale
  match op with
  | .eq => some (if absolute then !decide (distance > tolerance) else decide (distance ≤ tolerance))
  | .ne => some (decide (distance > tolerance))
  | .gt => some (decide (above > tolerance))
  | .ge => some (decide (above > -tolerance))
  | .lt => some (decide (below > tolerance))
  | .le => some (decide (below > -tolerance))
  | _ => none

def equalFloat (x y : Float) : Bool := (orderedFloat? .eq x y).getD false

mutual

/-- whether two values are equal; numbers are compared by their values -/
def equal : Value → Value → Bool
  | .int a, .int b => a == b
  | .float a, .float b => equalFloat a b
  | .int a, .float b => equalFloat (Float.ofInt a) b
  | .float a, .int b => equalFloat a (Float.ofInt b)
  | .text a, .text b => a == b
  | .char a, .char b => a == b
  | .text a, .char b => a == String.singleton b
  | .char a, .text b => String.singleton a == b
  | .bool a, .bool b => a == b
  | .unit, .unit => true
  | .list a, .list b => equalItems a b
  | .record a, .record b => equalFields a b
  | .range a b c, .range d e f => a == d && b == e && c == f
  | .bytes a, .bytes b => a == b
  | _, _ => false

def equalItems : List Value → List Value → Bool
  | [], [] => true
  | a :: as, b :: bs => equal a b && equalItems as bs
  | _, _ => false

def equalFields : List (String × Value) → List (String × Value) → Bool
  | [], [] => true
  | (j, a) :: as, (k, b) :: bs => j == k && equal a b && equalFields as bs
  | _, _ => false

end

/-- what a text or a character says -/
def words? : Value → Option String
  | .text s => some s
  | .char c => some (String.singleton c)
  | _ => none

/-- a comparison, if there is one for these operands -/
def compare? (op : BinaryOp) (a b : Value) : Option Bool :=
  match a, b with
  | .int x, .int y => ordered? op (decide (x < y)) (x == y)
  | .float x, .float y => orderedFloat? op x y
  | .int x, .float y => orderedFloat? op (Float.ofInt x) y
  | .float x, .int y => orderedFloat? op x (Float.ofInt y)
  | .bool x, .bool y => ordered? op (!x && y) (x == y)
  | _, _ =>
    match words? a, words? b with
    | some x, some y => ordered? op (decide (x < y)) (x == y)
    | _, _ =>
      if a.typeName == b.typeName then
        match op, a with
        | .eq, .unit | .le, .unit | .ge, .unit => some true
        | .ne, .unit | .lt, .unit | .gt, .unit => some false
        | .eq, .list _ | .eq, .record _ | .eq, .bytes _ | .eq, .range .. => some (equal a b)
        | .ne, .list _ | .ne, .record _ | .ne, .bytes _ | .ne, .range .. => some (!equal a b)
        | _, _ => none
      else
        match op, a, b with
        | .ne, _, _ => some true
        | _, .range .., .range .. => none
        | .eq, _, _ | .lt, _, _ | .le, _, _ | .gt, _, _ | .ge, _, _ => some false
        | _, _, _ => none

/-! ## Joining -/

/-- a text without the pieces that equal `piece` -/
def removeAll (piece : List Char) : Nat → List Char → List Char
  | 0, cs => cs
  | _, [] => []
  | fuel + 1, c :: cs =>
    if piece.isEmpty then c :: cs
    else if piece.isPrefixOf (c :: cs) then removeAll piece fuel ((c :: cs).drop piece.length)
    else c :: removeAll piece fuel cs

/-- the fields of both records, those of the second where both have one -/
def merge (a b : List (String × Value)) : List (String × Value) :=
  b.foldl (fun fields f => Assoc.insert f.1 f.2 fields) a

/-- operators that put values together or take them apart -/
def combine? (op : BinaryOp) (a b : Value) : Option Value :=
  match op, a, b with
  | .add, .list xs, .list ys => some (.list (xs ++ ys))
  | .add, .record xs, .record ys => some (.record (merge xs ys))
  | .add, .char x, .char y => some (.text (String.ofList [x, y]))
  | .add, .bytes x, .bytes y => some (.bytes (x ++ y))
  | .add, .text x, .bytes y => some (.text (x ++ Text.ofBytes y))
  | .add, .bytes x, .text y => some (.text (Text.ofBytes x ++ y))
  | .add, .text x, y => some (.text (x ++ y.outer))
  | .add, x, .text y => some (.text (x.outer ++ y))
  | .sub, .text x, .text y =>
    some (.text (String.ofList (removeAll y.toList (x.length + 1) x.toList)))
  | .sub, .text x, .char y => some (.text (String.ofList (x.toList.filter (· != y))))
  | _, _, _ => none

/-! ## All together -/

def arithmetic? (op : BinaryOp) (a b : Value) : Option (Except Cause Value) :=
  match a, b with
  | .int x, .int y => intArithmetic? op x y
  | .float x, .float y => (floatArithmetic? op x y).map .ok
  | .int x, .float y => (floatArithmetic? op (Float.ofInt x) y).map .ok
  | .float x, .int y => (floatArithmetic? op x (Float.ofInt y)).map .ok
  | _, _ => none

/-- the value of an operator between two operands -/
def apply (op : BinaryOp) (a b : Value) : Except Cause Value :=
  match arithmetic? op a b with
  | some result => result
  | none =>
    match combine? op a b with
    | some v => .ok v
    | none =>
      match compare? op a b with
      | some c => .ok (.bool c)
      | none => .error (missing op.spelling [a, b])

/-- whether a value is joined to a text without being written first -/
def joinsPlainly : Value → Bool
  | .unit | .text _ | .char _ | .bytes _ => true
  | _ => false

/-- how many operations an operator counts for besides its operands and itself: those on lists and
records are functions of their own, and so is the writing of a value -/
def effort (op : BinaryOp) (a b : Value) : Nat :=
  match op, a, b with
  | .add, .list _, .list _ | .add, .record _, .record _ => 1
  | .add, .text _, v | .add, v, .text _ => if joinsPlainly v then 0 else v.count + 1
  | .eq, .list xs, .list ys | .ne, .list xs, .list ys =>
    if xs.length = ys.length then xs.length + 1 else 1
  | .eq, .record xs, .record ys | .ne, .record xs, .record ys =>
    if xs.length = ys.length then xs.length + 1 else 1
  | _, _, _ => 0

/-- the value of an operator before an operand -/
def applyUnary (op : UnaryOp) (a : Value) : Except Cause Value :=
  match op, a with
  | .minus, .int i => if fits (-i) then .ok (.int (-i)) else .error (.arithmetic "integer overflow")
  | .minus, .float x => .ok (.float (-x))
  | .plus, .int i => .ok (.int i)
  | .plus, .float x => .ok (.float x)
  | .not, .bool b => .ok (.bool !b)
  | _, _ => .error (missing op.spelling [a])

/-- the bytes that a value adds to others -/
def bytesOf? : Value → Option (List UInt8)
  | .bytes bs => some bs
  | .int i => some [UInt8.ofNat (i % 256).toNat]
  | .char c => some (String.singleton c).toUTF8.toList
  | .text s => some s.toUTF8.toList
  | _ => none

/-- the value of a variable after an operation on it: a list takes any value as one more item, and
bytes take texts -/
def update (op : BinaryOp) (a b : Value) : Except Cause Value :=
  match op, a, b with
  | .add, .list xs, .list ys => .ok (.list (xs ++ ys))
  | .add, .list xs, v => .ok (.list (xs ++ [v]))
  | .add, .bytes xs, v =>
    match bytesOf? v with
    | some ys => .ok (.bytes (xs ++ ys))
    | none => apply op a b
  | _, _, _ => apply op a b

end Operator

end Scripting.Script
