import Mathlib.Data.List.Basic
import Mathlib.Data.List.Induction
import Mathlib.Data.Nat.Digits.Defs
import Scripting.Dialect.Line
import Scripting.Proofs.Text.Pieces

/-!
# What a line of the line dialect says

The lines of the dialect, written down as a grammar.  A line that has none of its forms is an error.

* `Counts`      numbers of at most 64 bits;
* `Declares`    declarations of methods, cut at the first ` raises `, slash and dot;
* `Form`        the lines that are recognised, one constructor for each kind;
* `Says`        what any line says, and `says_iff`, which says that `statement` tells it.
-/

namespace Scripting.Dialect.Line

open Text

/-! ## numbers -/

/-- a number in decimal, perhaps behind a plus sign, of at most 64 bits -/
def Counts (cs : List Char) (n : Nat) : Prop :=
  ∃ digits, (cs = digits ∨ cs = '+' :: digits) ∧ digits ≠ [] ∧ (∀ c ∈ digits, isDigit c = true) ∧
    n = Nat.ofDigits 10 (digits.reverse.map fun c => c.toNat - 48) ∧ n < 2 ^ 64

/-- a number without the sign before it -/
def unsigned : List Char → List Char
  | '+' :: digits => digits
  | digits => digits

theorem unsigned_cases (cs : List Char) : cs = unsigned cs ∨ cs = '+' :: unsigned cs := by
  unfold unsigned
  split
  · exact .inr rfl
  · exact .inl rfl

theorem unsigned_eq_self {cs : List Char} (h : ∀ digits, cs ≠ '+' :: digits) :
    unsigned cs = cs := by
  unfold unsigned
  split
  · exact absurd rfl (h _)
  · rfl

theorem foldl_digits (digits : List Char) :
    digits.foldl (fun n c => n * 10 + (c.toNat - 48)) 0 =
      Nat.ofDigits 10 (digits.reverse.map fun c => c.toNat - 48) := by
  induction digits using List.reverseRecOn with
  | nil => rfl
  | append_singleton digits c ih =>
    rw [List.foldl_concat, ih, List.reverse_concat, List.map_cons, Nat.ofDigits_cons]
    omega

theorem count?_eq (cs : List Char) : count? cs =
    if (unsigned cs).isEmpty || !(unsigned cs).all isDigit then none
    else
      let n := (unsigned cs).foldl (fun n c => n * 10 + (c.toNat - 48)) 0
      if n < Nat.pow 2 64 then some n else none := by
  unfold count?
  split
  · rfl
  · rename_i h
    rw [unsigned_eq_self h]

theorem count?_eq_some_iff {cs : List Char} {n : Nat} : count? cs = some n ↔ Counts cs n := by
  rw [count?_eq]
  constructor
  · intro h
    split at h
    · cases h
    · rename_i hdigits
      rw [Bool.not_eq_true, Bool.or_eq_false_iff, List.isEmpty_eq_false_iff, Bool.not_eq_false',
        List.all_eq_true] at hdigits
      dsimp only at h
      split at h
      · rename_i hn
        obtain rfl := Option.some_inj.mp h
        exact ⟨unsigned cs, unsigned_cases cs, hdigits.1, hdigits.2, foldl_digits _, hn⟩
      · cases h
  · rintro ⟨digits, hcs, hne, hdigits, rfl, hn⟩
    have hunsigned : unsigned cs = digits := by
      rcases hcs with rfl | rfl
      · refine unsigned_eq_self fun rest hplus => ?_
        have hsign := hdigits '+' (hplus ▸ List.mem_cons_self)
        exact absurd hsign (by decide)
      · rfl
    have hempty : digits.isEmpty = false := List.isEmpty_eq_false_iff.mpr hne
    have hall : digits.all isDigit = true := List.all_eq_true.mpr hdigits
    rw [hunsigned, hempty, hall, if_neg (by decide)]
    dsimp only
    rw [foldl_digits]
    exact if_pos hn

/-! ## declarations -/

/-- a declaration, its signature, and the message that its calls fail with -/
inductive Raises : List Char → List Char → Option String → Prop
  | silent {declaration : List Char} (h : ¬ " raises ".toList <:+: declaration) :
    Raises declaration declaration none
  | raising {declaration signature message : List Char}
    (h : CutFirst " raises ".toList declaration signature message) :
    Raises declaration signature (some (String.ofList (trim message)))

/-- A declaration of a method: its module, a dot, its name, a slash and how many arguments it takes,
and perhaps what its calls raise. -/
def Declares (space : String) (declaration : List Char) (s : Sub) : Prop :=
  ∃ signature path count owner name arity, Raises declaration signature s.raises ∧
    CutFirst ['/'] (trim signature) path count ∧ CutFirst ['.'] path owner name ∧
    Counts count arity ∧
    s.method = ⟨QualifiedName.inNamespace space (String.ofList owner), String.ofList name, arity,
      String.ofList path ++ "/" ++ toString arity⟩

/-- the signature of a declaration, and the message behind it -/
def signature (declaration : List Char) : List Char × Option String :=
  match splitFirst? " raises ".toList declaration with
  | some (signature, message) => (signature, some (String.ofList (trim message)))
  | none => (declaration, none)

theorem raises_iff {declaration front : List Char} {message : Option String} :
    signature declaration = (front, message) ↔ Raises declaration front message := by
  unfold signature
  constructor
  · intro h
    split at h
    · rename_i hcut
      obtain ⟨rfl, rfl⟩ := Prod.mk.inj h
      exact .raising (splitFirst?_eq_some_iff.mp hcut)
    · rename_i hcut
      obtain ⟨rfl, rfl⟩ := Prod.mk.inj h
      exact .silent (splitFirst?_eq_none_iff.mp hcut)
  · rintro (h | h)
    · rw [splitFirst?_eq_none_iff.mpr h]
    · rw [splitFirst?_eq_some_iff.mpr h]

theorem sub?_eq (space : String) (declaration : List Char) : sub? space declaration =
    (splitFirst? ['/'] (trim (signature declaration).1)).bind fun p =>
      (splitFirst? ['.'] p.1).bind fun q => (count? p.2).bind fun arity =>
        some ⟨⟨QualifiedName.inNamespace space (String.ofList q.1), String.ofList q.2, arity,
          String.ofList p.1 ++ "/" ++ toString arity⟩, (signature declaration).2⟩ := by
  unfold sub? signature
  cases splitFirst? " raises ".toList declaration <;> rfl

theorem sub?_eq_some_iff {space : String} {declaration : List Char} {s : Sub} :
    sub? space declaration = some s ↔ Declares space declaration s := by
  rw [sub?_eq]
  constructor
  · intro h
    obtain ⟨⟨path, count⟩, hslash, h⟩ := Option.bind_eq_some_iff.mp h
    obtain ⟨⟨owner, name⟩, hdot, h⟩ := Option.bind_eq_some_iff.mp h
    obtain ⟨arity, hcount, h⟩ := Option.bind_eq_some_iff.mp h
    obtain rfl := Option.some_inj.mp h
    exact ⟨(signature declaration).1, path, count, owner, name, arity, raises_iff.mp rfl,
      splitFirst?_eq_some_iff.mp hslash, splitFirst?_eq_some_iff.mp hdot,
      count?_eq_some_iff.mp hcount, rfl⟩
  · rintro ⟨front, path, count, owner, name, arity, hraises, hslash, hdot, hcount, hmethod⟩
    rw [raises_iff.mpr hraises, splitFirst?_eq_some_iff.mpr hslash, Option.bind_some,
      splitFirst?_eq_some_iff.mpr hdot, Option.bind_some, count?_eq_some_iff.mpr hcount,
      Option.bind_some, ← hmethod]

-- a name keeps its second dot, and a message its second ` raises `
example : (sub? "N" "M.f.g/2 raises a raises b".toList).map (fun s => (s.method.name, s.raises)) =
    some ("f.g", some "a raises b") := by decide +kernel

/-! ## lines -/

/-- the lines that are recognised, and what they say -/
inductive Form (space : String) : List Char → Statement → Prop
  | blank : Form space [] .nothing
  | imports (rest : List Char) : Form space ("imports ".toList ++ rest) .nothing
  | fatal : Form space "fatal".toList .fatal
  | error (message : List Char) :
    Form space ("error ".toList ++ message) (.report .error (String.ofList message))
  | warning (message : List Char) :
    Form space ("warning ".toList ++ message) (.report .warning (String.ofList message))
  | sub {declaration : List Char} {s : Sub} (h : Declares space declaration s) :
    Form space ("sub ".toList ++ declaration) (.declare s)

/-- what a line says: what its form does, and an error if it has none -/
inductive Says (space : String) (line : List Char) : Statement → Prop
  | known {s : Statement} (h : Form space line s) : Says space line s
  | unknown (h : ∀ s, ¬ Form space line s) :
    Says space line (.report .error ("unexpected '" ++ String.ofList line ++ "'"))

section
variable {space : String} {line : List Char} {s : Statement}

/-- the forms begin in different ways, so it does not matter which one is tried first -/
theorem statement_of_form (h : Form space line s) : statement space line = s := by
  cases h with
  | blank => rfl
  | imports rest =>
    rw [statement, dropWord?_append]
    simp
  | fatal => rfl
  | error message => rfl
  | warning message => rfl
  | @sub declaration s h =>
    have hfatal : ¬ "sub ".toList ++ declaration = "fatal".toList := by simp
    have himports : dropWord? "imports ".toList ("sub ".toList ++ declaration) = none := rfl
    have herror : dropWord? "error ".toList ("sub ".toList ++ declaration) = none := rfl
    have hwarning : dropWord? "warning ".toList ("sub ".toList ++ declaration) = none := rfl
    rw [statement, himports, if_neg (by simp), if_neg hfatal, herror, hwarning, dropWord?_append,
      Option.bind_some, sub?_eq_some_iff.mpr h]

theorem says_statement : Says space line (statement space line) := by
  rw [statement]
  split
  · rename_i hnothing
    rw [Bool.or_eq_true, List.isEmpty_iff, Option.isSome_iff_exists] at hnothing
    rcases hnothing with rfl | ⟨rest, himports⟩
    · exact .known .blank
    · rw [eq_of_dropWord? himports]
      exact .known (.imports rest)
  rename_i hnothing
  split
  · rename_i hfatal
    rw [hfatal]
    exact .known .fatal
  rename_i hfatal
  split
  · rename_i message herror
    rw [eq_of_dropWord? herror]
    exact .known (.error message)
  rename_i herror
  split
  · rename_i message hwarning
    rw [eq_of_dropWord? hwarning]
    exact .known (.warning message)
  rename_i hwarning
  split
  · rename_i s hsub
    obtain ⟨declaration, hword, hs⟩ := Option.bind_eq_some_iff.mp hsub
    rw [eq_of_dropWord? hword]
    exact .known (.sub (sub?_eq_some_iff.mp hs))
  rename_i hsub
  -- what each form begins with, or is, has been excluded above
  refine .unknown fun s h => ?_
  cases h with
  | blank => exact hnothing rfl
  | imports rest => exact hnothing (by rw [dropWord?_append]; simp)
  | fatal => exact hfatal rfl
  | error message => exact nomatch (dropWord?_append _ message).symm.trans herror
  | warning message => exact nomatch (dropWord?_append _ message).symm.trans hwarning
  | sub h =>
    rw [dropWord?_append, Option.bind_some, sub?_eq_some_iff.mpr h] at hsub
    cases hsub

theorem says_iff : statement space line = s ↔ Says space line s := by
  constructor
  · rintro rfl
    exact says_statement
  · rintro (h | h)
    · exact statement_of_form h
    · have hsaid : Says space line (statement space line) := says_statement
      generalize statement space line = t at hsaid ⊢
      cases hsaid with
      | known hform => exact absurd hform (h _)
      | unknown _ => rfl

end

end Scripting.Dialect.Line
