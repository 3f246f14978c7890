import Scripting.Proofs.Json.Passing
import Scripting.Proofs.Settings.Given
import Scripting.Settings.Reader

/-!
# Values of settings, as they are written

A number is written with digits alone, and is one of 64 bits; a switch is one of two words, and a
text stands between quotes.

* `Denotes`           what a setting of a kind is given by what is written;
* `reads_value`       what denotes a value is read as that value;
* `denotes_of_value`  no other JSON value is read at all.
-/

namespace Scripting.Json

open Text (isDigit)

theorem Spells.letters {cs t : List Char} (h : Spells cs t) : Letters cs := by
  induction h with
  | nil => exact .nil
  | plain hc _ ih => exact .plain hc ih
  | short hp _ ih => exact .short hp ih
  | code hn _ _ ih => exact .code hn ih
  | pair hn hm _ _ _ ih => exact .code hn (.code hm ih)

section
variable {tail : List Char}

/-- which values begin with a digit -/
theorem IsValue.of_digit {d : Char} (hd : isDigit d = .true) (h : IsValue (d :: tail)) :
    ∃ w f e, Whole w ∧ Fraction f ∧ Exponent e ∧ d :: tail = w ++ (f ++ e) := by
  generalize hv : d :: tail = v at h
  cases h with
  | number h =>
    obtain @⟨sign, w, f, e, hs, hw, hf, he⟩ := h
    simp only [List.mem_cons, List.not_mem_nil, or_false] at hs
    rcases hs with rfl | rfl
    · exact ⟨w, f, e, hw, hf, he, rfl⟩
    · rw [(List.cons.inj hv).1] at hd
      cases hd
  | _ =>
    rw [(List.cons.inj hv).1] at hd
    cases hd

theorem IsValue.of_quote (h : IsValue ('"' :: tail)) : ∃ cs, Letters cs ∧ tail = cs ++ ['"'] := by
  generalize hv : '"' :: tail = v at h
  cases h with
  | number h =>
    obtain ⟨d, _, rfl, hd⟩ := cons_of_isNumber h
    rw [← (List.cons.inj hv).1] at hd
    exact absurd hd (by decide)
  | @text cs h => exact ⟨cs, h, (List.cons.inj hv).2⟩
  | _ => cases (List.cons.inj hv).1

theorem IsValue.of_letter {d : Char} (hd : d ∈ ['t', 'f']) (h : IsValue (d :: tail)) :
    d :: tail = "true".toList ∨ d :: tail = "false".toList := by
  generalize hv : d :: tail = v at h ⊢
  cases h with
  | true => exact .inl rfl
  | false => exact .inr rfl
  | number h =>
    obtain ⟨e, _, rfl, he⟩ := cons_of_isNumber h
    rw [(List.cons.inj hv).1] at hd
    simp only [List.mem_cons, List.not_mem_nil, or_false] at hd
    rcases hd with rfl | rfl <;> exact absurd he (by decide)
  | _ =>
    rw [(List.cons.inj hv).1] at hd
    exact absurd hd (by decide)

end

end Scripting.Json

namespace Scripting.Settings

open Json Json.Cursor
open Text (isDigit)

/-- what a setting may be given, and how it is written -/
inductive Denotes : Kind → List Char → Value → Prop
  | number {word : String} {digits : List Char} (h : Whole digits) (hlt : decimal digits < 2 ^ 64) :
    Denotes (.number word) digits (.number (decimal digits))
  | on : Denotes .switch "true".toList (.switch true)
  | off : Denotes .switch "false".toList (.switch false)
  | text {cs t : List Char} (h : Spells cs t) :
    Denotes .text ('"' :: (cs ++ ['"'])) (.text (String.ofList t))

theorem isNumber_of_whole {w : List Char} (h : Whole w) : IsNumber w := by
  have hnumber : IsNumber ([] ++ (w ++ ([] ++ []))) := ⟨List.mem_cons_self, h, .absent, .absent⟩
  simpa using hnumber

theorem isValue_of_denotes {kind : Kind} {cs : List Char} {v : Value} (h : Denotes kind cs v) :
    IsValue cs := by
  cases h with
  | number h => exact .number (isNumber_of_whole h)
  | on => exact .true
  | off => exact .false
  | text h => exact .text h.letters

/-- what can be written is what is in range -/
theorem inRange_iff {kind : Kind} {v : Value} : InRange kind v ↔ ∃ cs, Denotes kind cs v := by
  constructor
  · intro h
    cases h with
    | @number word n h =>
      obtain ⟨w, hw, rfl⟩ := exists_whole n
      exact ⟨w, .number hw h⟩
    | switch b =>
      cases b
      · exact ⟨_, .off⟩
      · exact ⟨_, .on⟩
    | text s =>
      obtain ⟨cs, h⟩ := exists_spells s.toList
      exact ⟨_, String.ofList_toList (s := s) ▸ Denotes.text h⟩
  · rintro ⟨cs, h⟩
    cases h with
    | number h hlt => exact .number _ hlt
    | on => exact .switch true
    | off => exact .switch false
    | text h => exact .text _

/-! ## what is looked at first -/

section
variable {c : Cursor} {d : Char} {rest : List Char}

theorem value_number {word : String} (hc : c.skipBlanks.rest = d :: rest) :
    value (.number word) c =
      if d = '-' then
        number false c.skipBlanks.advance >>= fun p => unsigned word p.2 p.1
      else if isDigit d then number true c.skipBlanks >>= fun p => unsigned word p.2 p.1
      else .error (wrongType word c.skipBlanks) := by
  unfold value
  dsimp only
  rw [hc]
  dsimp only
  rw [isSome_digit?]

theorem value_switch (hc : c.skipBlanks.rest = d :: rest) : value .switch c =
    if d = 't' then
      word ['r', 'u', 'e'] c.skipBlanks.advance >>= fun p => .ok (.switch true, p.2)
    else if d = 'f' then
      word ['a', 'l', 's', 'e'] c.skipBlanks.advance >>= fun p => .ok (.switch false, p.2)
    else .error (wrongType "a boolean" c.skipBlanks) := by
  unfold value
  dsimp only
  rw [hc]

theorem value_text (hc : c.skipBlanks.rest = d :: rest) : value .text c =
    if d = '"' then textLiteral c.skipBlanks.advance >>= fun p => .ok (.text p.1, p.2)
    else .error (wrongType "a string" c.skipBlanks) := by
  unfold value
  dsimp only
  rw [hc]

end

/-! ## reading -/

section
variable {c : Cursor} {gap text rest : List Char} {kind : Kind} {v : Value}

theorem reads_value (h : Denotes kind text v) (hg : Gap gap) (hr : Ends rest)
    (hc : c.rest = gap ++ (text ++ rest)) : Reads (value kind c) v rest := by
  have hstart := rest_skipBlanks_value (isValue_of_denotes h) hg hc
  cases h with
  | number h hlt =>
    obtain ⟨k, hk, hrest⟩ := reads_whole h hr hstart hlt
    obtain ⟨d, ds, rfl, hd, -⟩ := h.exists_cons
    refine ⟨k, ?_, hrest⟩
    have hminus : d ≠ '-' := by
      rintro rfl
      cases hd
    rw [value_number hstart, if_neg hminus, if_pos hd, hk, ok_bind]
    rfl
  | on =>
    have hword : c.skipBlanks.rest = 't' :: (['r', 'u', 'e'] ++ rest) := hstart
    obtain ⟨k, hk, hrest⟩ := leaves_word (rest_advance_of hword)
    refine ⟨k, ?_, hrest⟩
    rw [value_switch hword, if_pos rfl, hk, ok_bind]
  | off =>
    have hword : c.skipBlanks.rest = 'f' :: (['a', 'l', 's', 'e'] ++ rest) := hstart
    obtain ⟨k, hk, hrest⟩ := leaves_word (rest_advance_of hword)
    refine ⟨k, ?_, hrest⟩
    rw [value_switch hword, if_neg (by decide), if_pos rfl, hk, ok_bind]
  | @text cs t h =>
    have hquote : c.skipBlanks.rest = '"' :: (cs ++ '"' :: rest) := by simpa using hstart
    obtain ⟨k, hk, hrest⟩ := reads_textLiteral h (rest_advance_of hquote)
    refine ⟨k, ?_, hrest⟩
    rw [value_text hquote, if_pos rfl, hk, ok_bind]

theorem eq_of_unsigned {word : String} {n : Number} {c k : Cursor}
    (h : unsigned word c n = .ok (v, k)) :
    ∃ i, n = .int i ∧ 0 ≤ i ∧ v = .number i.toNat ∧ k = c := by
  cases n with
  | float x => cases h
  | int i =>
    unfold unsigned at h
    dsimp only at h
    split at h
    · rename_i hi
      obtain ⟨rfl, rfl⟩ := Prod.mk.inj (Except.ok.inj h)
      exact ⟨i, rfl, hi, rfl, rfl⟩
    · cases h

variable {k : Cursor} (h : IsValue text)
include h

/-- a number is read only where it is whole, has no sign and fits in 64 bits -/
theorem denotes_of_value_number {word : String} (hr : Ends rest)
    (hc : c.skipBlanks.rest = text ++ rest) (hv : value (.number word) c = .ok (v, k)) :
    Denotes (.number word) text v := by
  obtain ⟨d, tail, rfl, -⟩ := cons_of_isValue h
  rw [value_number hc] at hv
  split at hv
  · obtain ⟨⟨n, l⟩, hnumber, hv⟩ := bind_eq_ok.mp hv
    obtain ⟨i, rfl, hi, -⟩ := eq_of_unsigned hv
    exact absurd (neg_of_number hnumber) (Int.not_lt.mpr hi)
  · split at hv
    · rename_i hdigit
      obtain ⟨⟨n, l⟩, hnumber, hv⟩ := bind_eq_ok.mp hv
      obtain ⟨i, rfl, hi, rfl, -⟩ := eq_of_unsigned hv
      obtain ⟨w, f, e, hw, hf, he, htext⟩ := h.of_digit hdigit
      rw [htext] at hc ⊢
      simp only [List.append_assoc] at hc
      obtain ⟨rfl, rfl, hlt⟩ := whole_of_number hw hf he hr hc hnumber
      obtain ⟨l', hread, -⟩ := reads_whole hw hr hc hlt
      obtain ⟨hi, -⟩ := Prod.mk.inj (Except.ok.inj (hread.symm.trans hnumber))
      rw [← Number.int.inj hi]
      simpa using Denotes.number hw hlt
    · cases hv

theorem denotes_of_value_switch (hc : c.skipBlanks.rest = text ++ rest)
    (hv : value .switch c = .ok (v, k)) : Denotes .switch text v := by
  obtain ⟨d, tail, rfl, -⟩ := cons_of_isValue h
  rw [value_switch hc] at hv
  split at hv
  · rename_i hd
    subst hd
    obtain ⟨⟨⟨⟩, l⟩, -, hv⟩ := bind_eq_ok.mp hv
    obtain ⟨rfl, -⟩ := Prod.mk.inj (Except.ok.inj hv)
    rcases h.of_letter (by decide) with htext | htext
    · exact htext ▸ Denotes.on
    · cases htext
  · split at hv
    · rename_i hd
      subst hd
      obtain ⟨⟨⟨⟩, l⟩, -, hv⟩ := bind_eq_ok.mp hv
      obtain ⟨rfl, -⟩ := Prod.mk.inj (Except.ok.inj hv)
      rcases h.of_letter (by decide) with htext | htext
      · cases htext
      · exact htext ▸ Denotes.off
    · cases hv

theorem denotes_of_value_text (hc : c.skipBlanks.rest = text ++ rest)
    (hv : value .text c = .ok (v, k)) : Denotes .text text v := by
  obtain ⟨d, tail, rfl, -⟩ := cons_of_isValue h
  rw [value_text hc] at hv
  split at hv
  · rename_i hd
    subst hd
    obtain ⟨cs, hcs, rfl⟩ := h.of_quote
    obtain ⟨⟨s, l⟩, htext, hv⟩ := bind_eq_ok.mp hv
    obtain ⟨rfl, -⟩ := Prod.mk.inj (Except.ok.inj hv)
    have hquote : c.skipBlanks.rest = '"' :: (cs ++ '"' :: rest) := by simpa using hc
    obtain ⟨hspells, -⟩ := spells_of_textLiteral hcs (rest_advance_of hquote) htext
    simpa using Denotes.text hspells
  · cases hv

/-- what is read as the value of a setting denotes it -/
theorem denotes_of_value (hg : Gap gap) (hr : Ends rest) (hc : c.rest = gap ++ (text ++ rest))
    (hv : value kind c = .ok (v, k)) : Denotes kind text v := by
  have hstart := rest_skipBlanks_value h hg hc
  cases kind with
  | number word => exact denotes_of_value_number h hr hstart hv
  | switch => exact denotes_of_value_switch h hstart hv
  | text => exact denotes_of_value_text h hstart hv

end

end Scripting.Settings
