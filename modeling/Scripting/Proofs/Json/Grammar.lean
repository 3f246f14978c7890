import Mathlib.Data.Nat.Digits.Defs
import Scripting.Text.Ascii

/-!
# The texts of JSON documents

The grammar of JSON, as it is written down in its standard.

* `Gap`          blanks, which may stand between any two lexemes;
* `IsNumber`     a sign, a whole number, a fraction and an exponent, of which only the second has to
                 be there;
* `Letters`      what may stand between the quotes of a text; a code unit there need not be a
                 character, and `Spells` says which letters are a text, and which text;
* `IsValue`      values of any depth, in which lists and objects are `Separated` parts;
* `Ends`         what may stand behind a value.
-/

namespace Scripting.Json

open Text (isDigit digitValue?)

/-! ## blanks -/

def isGap (c : Char) : Bool := c == ' ' || c == '\t' || c == '\n' || c == '\r'

def Gap (cs : List Char) : Prop := ∀ c ∈ cs, isGap c = true

-- character by character, and not through all characters that there are
instance (cs : List Char) : Decidable (Gap cs) :=
  decidable_of_iff (cs.all isGap = true) List.all_eq_true

theorem gap_nil : Gap [] := fun _ h => absurd h List.not_mem_nil

/-- what stands behind a value: nothing, a blank, a comma or a closing bracket -/
def Ends (rest : List Char) : Prop := ∀ c ∈ rest.head?, isGap c = true ∨ c ∈ [',', ']', '\x7d']

/-! ## numbers -/

def Digits (cs : List Char) : Prop := ∀ c ∈ cs, isDigit c = true

instance (cs : List Char) : Decidable (Digits cs) :=
  decidable_of_iff (cs.all isDigit = true) List.all_eq_true

/-- the number that digits denote -/
def decimal (digits : List Char) : Nat :=
  Nat.ofDigits 10 (digits.reverse.map fun c => c.toNat - 48)

/-- a whole number: no zero stands before another digit -/
inductive Whole : List Char → Prop
  | zero : Whole ['0']
  | digits {d : Char} {ds : List Char} (hd : isDigit d = true) (hz : d ≠ '0') (h : Digits ds) :
    Whole (d :: ds)

inductive Fraction : List Char → Prop
  | absent : Fraction []
  | point {d : Char} {ds : List Char} (hd : isDigit d = true) (h : Digits ds) :
    Fraction ('.' :: d :: ds)

inductive Exponent : List Char → Prop
  | absent : Exponent []
  | power {mark : Char} {sign : List Char} {d : Char} {ds : List Char} (hm : mark ∈ ['e', 'E'])
    (hs : sign ∈ [[], ['+'], ['-']]) (hd : isDigit d = true) (h : Digits ds) :
    Exponent (mark :: (sign ++ d :: ds))

inductive IsNumber : List Char → Prop
  | mk {sign whole fraction exponent : List Char} (hs : sign ∈ [[], ['-']]) (hw : Whole whole)
    (hf : Fraction fraction) (he : Exponent exponent) :
    IsNumber (sign ++ (whole ++ (fraction ++ exponent)))

/-! ## texts -/

/-- the letters that stand for a character behind a backslash, and these characters -/
def shortEscapes : List (Char × Char) :=
  [('"', '"'), ('\\', '\\'), ('/', '/'), ('b', '\x08'), ('f', '\x0c'), ('n', '\n'), ('r', '\r'),
    ('t', '\t')]

/-- a code unit of UTF-16 in hexadecimal -/
inductive CodeUnit : List Char → Nat → Prop
  | mk {w x y z : Char} {a b c d : Nat} (hw : digitValue? 16 w = some a)
    (hx : digitValue? 16 x = some b) (hy : digitValue? 16 y = some c)
    (hz : digitValue? 16 z = some d) : CodeUnit [w, x, y, z] (Nat.ofDigits 16 [d, c, b, a])

/-- a character that stands for itself -/
def isPlain (c : Char) : Bool := 0x20 ≤ c.toNat && c != '"' && c != '\\'

/-- what may stand between two quotes -/
inductive Letters : List Char → Prop
  | nil : Letters []
  | plain {c : Char} {cs : List Char} (hc : isPlain c = true) (h : Letters cs) : Letters (c :: cs)
  | short {p : Char × Char} {cs : List Char} (hp : p ∈ shortEscapes) (h : Letters cs) :
    Letters ('\\' :: p.1 :: cs)
  | code {hex : List Char} {n : Nat} {cs : List Char} (hn : CodeUnit hex n) (h : Letters cs) :
    Letters ('\\' :: 'u' :: (hex ++ cs))

/-- letters and the text that they spell; two code units may be one character -/
inductive Spells : List Char → List Char → Prop
  | nil : Spells [] []
  | plain {c : Char} {cs t : List Char} (hc : isPlain c = true) (h : Spells cs t) :
    Spells (c :: cs) (c :: t)
  | short {p : Char × Char} {cs t : List Char} (hp : p ∈ shortEscapes) (h : Spells cs t) :
    Spells ('\\' :: p.1 :: cs) (p.2 :: t)
  | code {hex : List Char} {n : Nat} {cs t : List Char} (hn : CodeUnit hex n)
    (hr : n < 0xd800 ∨ 0xdfff < n) (h : Spells cs t) :
    Spells ('\\' :: 'u' :: (hex ++ cs)) (Char.ofNat n :: t)
  | pair {hex hex' : List Char} {n m : Nat} {cs t : List Char} (hn : CodeUnit hex n)
    (hm : CodeUnit hex' m) (hr : 0xd800 ≤ n ∧ n ≤ 0xdbff) (hl : 0xdc00 ≤ m ∧ m ≤ 0xdfff)
    (h : Spells cs t) : Spells ('\\' :: 'u' :: (hex ++ '\\' :: 'u' :: (hex' ++ cs)))
      (Char.ofNat ((n - 0xd800) * 0x400 + (m - 0xdc00) + 0x10000) :: t)

/-! ## values -/

/-- a text with blanks around it -/
structure Padded where
  before : List Char
  text : List Char
  after : List Char

/-- around it there are blanks, whatever it is itself -/
structure Padded.Loose (p : Padded) : Prop where
  before : Gap p.before
  after : Gap p.after

def Padded.written (p : Padded) : List Char := p.before ++ (p.text ++ p.after)

theorem Padded.written_append (p : Padded) (rest : List Char) :
    p.written ++ rest = p.before ++ (p.text ++ (p.after ++ rest)) := by
  simp only [Padded.written, List.append_assoc]

/-- the member of an object: the letters of its key, and its value -/
structure Member where
  key : Padded
  value : Padded

/-- all is well but for the value -/
structure Member.Loose (m : Member) : Prop where
  key : m.key.Loose
  letters : Letters m.key.text
  value : m.value.Loose

def Member.written (m : Member) : List Char :=
  m.key.before ++ '"' :: (m.key.text ++ '"' :: (m.key.after ++ ':' :: m.value.written))

/-- how a member goes on behind the quote before its key -/
def Member.tail (m : Member) (rest : List Char) : List Char :=
  m.key.text ++ '"' :: (m.key.after ++ ':' :: (m.value.before ++ (m.value.text ++
    (m.value.after ++ rest))))

theorem Member.written_append (m : Member) (rest : List Char) :
    m.written ++ rest = m.key.before ++ '"' :: m.tail rest := by
  simp only [Member.written, Member.tail, Padded.written, List.append_assoc, List.cons_append]

/-- parts between two brackets, with commas between them -/
inductive Separated : List (List Char) → List Char → Prop
  | none {gap : List Char} (h : Gap gap) : Separated [] gap
  | some (first : List Char) (more : List (List Char)) :
    Separated (first :: more) (first ++ more.flatMap fun part => ',' :: part)

theorem Separated.length_le {parts : List (List Char)} {cs : List Char} (h : Separated parts cs) :
    parts.length ≤ cs.length + 1 := by
  cases h with
  | none => exact Nat.zero_le _
  | some first more =>
    have hmore : more.length ≤ (more.flatMap fun part => ',' :: part).length := by
      induction more with
      | nil => exact Nat.zero_le _
      | cons part more ih =>
        simp only [List.flatMap_cons, List.length_append, List.length_cons] at ih ⊢
        omega
    rw [List.length_cons, List.length_append]
    omega

inductive IsValue : List Char → Prop
  | null : IsValue "null".toList
  | true : IsValue "true".toList
  | false : IsValue "false".toList
  | number {cs : List Char} (h : IsNumber cs) : IsValue cs
  | text {cs : List Char} (h : Letters cs) : IsValue ('"' :: (cs ++ ['"']))
  | list {items : List Padded} {cs : List Char} (hl : ∀ i ∈ items, i.Loose)
    (hv : ∀ i ∈ items, IsValue i.text) (h : Separated (items.map Padded.written) cs) :
    IsValue ('[' :: (cs ++ [']']))
  | object {members : List Member} {cs : List Char} (hl : ∀ m ∈ members, m.Loose)
    (hv : ∀ m ∈ members, IsValue m.value.text) (h : Separated (members.map Member.written) cs) :
    IsValue ('\x7b' :: (cs ++ ['\x7d']))

end Scripting.Json
