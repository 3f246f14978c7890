import Scripting.Text.Lowercase

/-!
# Lower case and the case of letters

The lower case of a text is not made character by character: a sigma looks at what stands before it
and behind it.  It looks at letters without regard to their case, so

* `lowercase_congr`      texts that are equal up to the case of the letters of ASCII have one lower
                         case, whatever else they hold;
* `lowerFrom_append`     what follows a text decides how it is written in lower case, but not how
                         long that is;
* `lowercase_append_iff` so texts of ASCII behind the same text have one lower case only if they are
                         equal up to case.
-/

namespace Scripting.Text

/-- equal up to the case of the letters of ASCII -/
def SameLetters (s t : String) : Prop := s.toList.map Char.toLower = t.toList.map Char.toLower

instance (s t : String) : Decidable (SameLetters s t) := inferInstanceAs (Decidable (_ = _))

def IsAscii (s : String) : Prop := ∀ c ∈ s.toList, c.toNat < 128

-- character by character, and not through all characters that there are
instance (s : String) : Decidable (IsAscii s) :=
  decidable_of_iff ((s.toList.all fun c => c.toNat < 128) = true) (by simp [IsAscii])

theorem SameLetters.append_left {s t : String} (h : SameLetters s t) (p : String) :
    SameLetters (p ++ s) (p ++ t) := by
  unfold SameLetters at *
  rw [String.toList_append, String.toList_append, List.map_append, List.map_append, h]

/-! ## characters -/

theorem toLower_eq_self {c : Char} (h : ¬ (65 ≤ c.toNat ∧ c.toNat ≤ 90)) : c.toLower = c :=
  dif_neg h

/-- what agrees on the 26 pairs of letters does not see the case of any letter -/
theorem eq_of_capitals {α : Type} {f : Char → α}
    (h : ∀ n < 26, f (Char.ofNat (65 + n)).toLower = f (Char.ofNat (65 + n))) (c : Char) :
    f c.toLower = f c := by
  by_cases hc : 65 ≤ c.toNat ∧ c.toNat ≤ 90
  · have e : Char.ofNat (65 + (c.toNat - 65)) = c := by
      rw [show 65 + (c.toNat - 65) = c.toNat by omega]
      exact Char.ofNat_toNat c
    have hn := h (c.toNat - 65) (by omega)
    rwa [e] at hn
  · rw [toLower_eq_self hc]

theorem isCased_toLower (c : Char) : isCased c.toLower = isCased c := eq_of_capitals (by decide) c

theorem isCaseIgnorable_toLower (c : Char) : isCaseIgnorable c.toLower = isCaseIgnorable c :=
  eq_of_capitals (by decide +kernel) c

theorem lowerChar_toLower (c : Char) : lowerChar c.toLower = lowerChar c :=
  eq_of_capitals (by decide) c

/-- a character that is no letter of ASCII is only its own lower case among those -/
theorem toLower_eq_iff {d : Char} (hd : 128 ≤ d.toNat) (c : Char) : c.toLower = d ↔ c = d := by
  by_cases hc : 65 ≤ c.toNat ∧ c.toNat ≤ 90
  · have small : c.toLower.toNat < 128 := by
      have hv : c.toLower.val = c.val + 32 := congrArg Char.val (dif_pos hc)
      have hn : c.toLower.toNat = (c.val + 32).toNat := congrArg UInt32.toNat hv
      have hc' : c.val.toNat ≤ 90 := hc.2
      rw [hn, UInt32.toNat_add]
      show (c.val.toNat + 32) % 2 ^ 32 < 128
      omega
    refine iff_of_false (fun e => ?_) fun e => ?_
    · rw [e] at small
      omega
    · rw [e] at hc
      omega
  · rw [toLower_eq_self hc]

theorem lowerChar_ascii {c : Char} (h : c.toNat < 128) : lowerChar c = c.toLower := by
  have table : ∀ n < 128, lowerChar (Char.ofNat n) = (Char.ofNat n).toLower := by decide
  have hc := table c.toNat h
  rwa [Char.ofNat_toNat] at hc

/-! ## texts -/

theorem meetsCased_toLower (cs : List Char) : meetsCased (cs.map Char.toLower) = meetsCased cs := by
  induction cs with
  | nil => rfl
  | cons c cs ih =>
    rw [List.map_cons, meetsCased, meetsCased, isCaseIgnorable_toLower, isCased_toLower, ih]

theorem lowerFrom_toLower (before cs : List Char) :
    lowerFrom (before.map Char.toLower) (cs.map Char.toLower) = lowerFrom before cs := by
  induction cs generalizing before with
  | nil => rfl
  | cons c cs ih =>
    have hrest := ih (c :: before)
    rw [List.map_cons] at hrest
    rw [List.map_cons, lowerFrom, lowerFrom, hrest, meetsCased_toLower, meetsCased_toLower,
      lowerChar_toLower]
    simp only [toLower_eq_iff (d := 'Σ') (by decide), toLower_eq_iff (d := 'İ') (by decide)]

theorem lowercase_congr {s t : String} (h : SameLetters s t) : lowercase s = lowercase t := by
  have hs := lowerFrom_toLower [] s.toList
  have ht := lowerFrom_toLower [] t.toList
  rw [lowercase, lowercase, ← hs, ← ht, show s.toList.map Char.toLower = _ from h]

/-- only the capital I with a dot becomes two characters -/
theorem length_lowerFrom (before cs : List Char) :
    (lowerFrom before cs).length = cs.length + cs.count 'İ' := by
  induction cs generalizing before with
  | nil => rfl
  | cons c cs ih =>
    have hlen := ih (c :: before)
    rw [lowerFrom, List.length_append, hlen, List.length_cons]
    by_cases hs : c = 'Σ'
    · subst hs
      rw [if_pos rfl, List.count_cons_of_ne (by decide), List.length_singleton]
      omega
    by_cases hi : c = 'İ'
    · subst hi
      rw [if_neg hs, if_pos rfl, List.count_cons_self]
      show 2 + _ = _
      omega
    · rw [if_neg hs, if_neg hi, List.count_cons_of_ne hi, List.length_singleton]
      omega

theorem exists_lowerFrom_append (before a b : List Char) :
    ∃ low, lowerFrom before (a ++ b) = low ++ lowerFrom (a.reverse ++ before) b := by
  induction a generalizing before with
  | nil => exact ⟨[], rfl⟩
  | cons c cs ih =>
    obtain ⟨low, happ⟩ := ih (c :: before)
    rw [List.reverse_cons, List.append_assoc, List.singleton_append, List.cons_append, lowerFrom,
      happ, ← List.append_assoc]
    exact ⟨_, rfl⟩

theorem lowerFrom_append (before a b : List Char) :
    ∃ low : List Char, low.length = a.length + a.count 'İ' ∧
      lowerFrom before (a ++ b) = low ++ lowerFrom (a.reverse ++ before) b := by
  obtain ⟨low, happ⟩ := exists_lowerFrom_append before a b
  refine ⟨low, ?_, happ⟩
  -- the length of the whole and that of what follows are the same in every context
  have hall := length_lowerFrom before (a ++ b)
  have hrest := length_lowerFrom (a.reverse ++ before) b
  rw [happ, List.length_append, hrest, List.length_append, List.count_append] at hall
  omega

theorem lowerFrom_ascii {cs : List Char} (h : ∀ c ∈ cs, c.toNat < 128) (before : List Char) :
    lowerFrom before cs = cs.map Char.toLower := by
  induction cs generalizing before with
  | nil => rfl
  | cons c cs ih =>
    have hc : c.toNat < 128 := h c List.mem_cons_self
    have hs : c ≠ 'Σ' := fun e => absurd hc (e ▸ by decide)
    have hi : c ≠ 'İ' := fun e => absurd hc (e ▸ by decide)
    rw [lowerFrom, if_neg hs, if_neg hi, lowerChar_ascii hc,
      ih (fun d hd => h d (List.mem_cons_of_mem c hd))]
    rfl

theorem lowercase_append_iff {s t : String} (hs : IsAscii s) (ht : IsAscii t) (p : String) :
    lowercase (p ++ s) = lowercase (p ++ t) ↔ SameLetters s t := by
  refine ⟨fun h => ?_, fun h => lowercase_congr (h.append_left p)⟩
  obtain ⟨low, hlow, happ⟩ := lowerFrom_append [] p.toList s.toList
  obtain ⟨low', hlow', happ'⟩ := lowerFrom_append [] p.toList t.toList
  have hl := congrArg String.toList h
  rw [lowercase_toList, lowercase_toList, String.toList_append, String.toList_append, happ, happ',
    lowerFrom_ascii hs, lowerFrom_ascii ht] at hl
  exact (List.append_inj hl (hlow.trans hlow'.symm)).2

end Scripting.Text
