import Mathlib.Tactic.FinCases
import Scripting.Proofs.Json.Cursor

/-!
# Texts of a document

A text may be passed or read.  Passing takes any letters.  Reading takes the letters that spell a
text and answers it; a code unit that is half a character is a fault.

* `leaves_skipText`        any letters are passed up to the quote behind them;
* `reads_textLiteral`      letters that spell a text are read as that text;
* `spells_of_textLiteral`  and no other letters are read at all;
* `exists_spells`          every text is spelled by letters.
-/

namespace Scripting.Json

open Cursor
open Text (isDigit digitValue?)

/-! ## code units -/

theorem hexValue?_eq (c : Char) : hexValue? c = digitValue? 16 c := by
  have hle (a b : Char) : a ≤ b ↔ a.toNat ≤ b.toNat := Iff.rfl
  unfold hexValue? digitValue? isDigit
  simp only [Bool.and_eq_true, decide_eq_true_eq, hle, Char.reduceToNat]
  -- letters that are no digits have a value, but one that is too large
  grind

theorem reads_fourHex {hex rest : List Char} {n : Nat} (hn : CodeUnit hex n) {c : Cursor}
    (hc : c.rest = hex ++ rest) : Reads (fourHex c) n rest := by
  obtain @⟨w, x, y, z, a, b, d, e, hw, hx, hy, hz⟩ := hn
  have hrest : c.rest = w :: x :: y :: z :: rest := hc
  refine ⟨c.advance.advance.advance.advance, ?_, ?_⟩
  · unfold fourHex
    rw [hrest]
    simp only [hexValue?_eq, hw, hx, hy, hz, Nat.ofDigits_cons, Nat.ofDigits_nil]
    congr 2
    omega
  · simp [hrest]

/-! ## letters -/

section
variable {fuel : Nat} {acc : List Char} {c : Cursor} {rest : List Char}

theorem textBody_quote (hc : c.rest = '"' :: rest) :
    textBody (fuel + 1) acc c = .ok (acc.reverse, c.advance) := by
  rw [textBody, hc]
  rfl

theorem toNat_of_isPlain {d : Char} (hd : isPlain d = true) :
    ¬ d.toNat < 0x20 ∧ d ≠ '"' ∧ d ≠ '\\' := by
  unfold isPlain at hd
  simpa [and_assoc] using hd

theorem textBody_plain {d : Char} (hd : isPlain d = true) (hc : c.rest = d :: rest) :
    textBody (fuel + 1) acc c = textBody fuel (d :: acc) c.advance := by
  obtain ⟨hn, hq, hb⟩ := toNat_of_isPlain hd
  rw [textBody, hc]
  split
  · rename_i h
    cases h
  · rename_i tail h
    exact absurd (List.cons.inj h).1 hq
  · rename_i tail h
    exact absurd (List.cons.inj h).1 hb
  · rename_i tail _ _ h
    obtain ⟨rfl, -⟩ := List.cons.inj h
    rw [if_neg hn]

/-- a short escape is told from a code unit by its letter -/
theorem ne_of_mem_shortEscapes : ∀ p ∈ shortEscapes, p.1 ≠ 'u' := by decide

theorem textBody_short {p : Char × Char} (hp : p ∈ shortEscapes)
    (hc : c.rest = '\\' :: p.1 :: rest) :
    textBody (fuel + 1) acc c = textBody fuel (p.2 :: acc) c.advance.advance := by
  fin_cases hp
  all_goals
    rw [textBody, hc]
    rfl

theorem textBody_code (hc : c.rest = '\\' :: 'u' :: rest) : textBody (fuel + 1) acc c =
    (unicodeEscape c.advance.advance >>= fun p => textBody fuel (p.1 :: acc) p.2) := by
  rw [textBody, hc]
  rfl

end

/-! ## reading -/

theorem reads_unicodeEscape {hex rest : List Char} {n : Nat} (hn : CodeUnit hex n)
    (hr : n < 0xd800 ∨ 0xdfff < n) {c : Cursor} (hc : c.rest = hex ++ rest) :
    Reads (unicodeEscape c) (Char.ofNat n) rest := by
  obtain ⟨k, hk, hrest⟩ := reads_fourHex hn hc
  refine ⟨k, ?_, hrest⟩
  rw [unicodeEscape, hk, ok_bind]
  dsimp only
  rw [if_neg (by omega), if_pos (by omega)]

/-- the backslash and the letter before the second code unit of a pair -/
theorem expect_eq {d : Char} {rest : List Char} {c : Cursor} (hc : c.rest = d :: rest) :
    unicodeEscape.expect d c = .ok c.advance := by
  rw [unicodeEscape.expect, hc]
  exact if_pos rfl

theorem eq_of_expect {d e : Char} {rest : List Char} {c k : Cursor} (hc : c.rest = e :: rest)
    (h : unicodeEscape.expect d c = .ok k) : e = d ∧ k.rest = rest := by
  rw [unicodeEscape.expect, hc] at h
  dsimp only at h
  split at h
  · rename_i hd
    obtain rfl := Except.ok.inj h
    exact ⟨hd, rest_advance_of hc⟩
  · cases h

/-- a code unit that begins a pair needs another one that ends it -/
theorem unicodeEscape_leading {c k : Cursor} {n : Nat} (hn : fourHex c = .ok (n, k))
    (hr : 0xd800 ≤ n ∧ n ≤ 0xdbff) : unicodeEscape c =
      (unicodeEscape.expect '\\' k >>= fun k => unicodeEscape.expect 'u' k >>= fun k =>
        fourHex k >>= fun p =>
          if p.1 < 0xdc00 ∨ p.1 > 0xdfff then .error (p.2.here .loneSurrogate)
          else .ok (Char.ofNat ((n - 0xd800) * 0x400 + (p.1 - 0xdc00) + 0x10000), p.2)) := by
  rw [unicodeEscape, hn, ok_bind]
  dsimp only
  rw [if_neg (by omega), if_neg (by omega)]

theorem reads_unicodeEscape_pair {hex hex' rest : List Char} {n m : Nat} (hn : CodeUnit hex n)
    (hm : CodeUnit hex' m) (hr : 0xd800 ≤ n ∧ n ≤ 0xdbff) (hl : 0xdc00 ≤ m ∧ m ≤ 0xdfff)
    {c : Cursor} (hc : c.rest = hex ++ '\\' :: 'u' :: (hex' ++ rest)) :
    Reads (unicodeEscape c) (Char.ofNat ((n - 0xd800) * 0x400 + (m - 0xdc00) + 0x10000)) rest := by
  obtain ⟨k, hk, hrest⟩ := reads_fourHex hn hc
  have hletter : k.advance.rest = 'u' :: (hex' ++ rest) := rest_advance_of hrest
  obtain ⟨l, hl', hlast⟩ := reads_fourHex hm (rest_advance_of hletter)
  refine ⟨l, ?_, hlast⟩
  rw [unicodeEscape_leading hk hr, expect_eq hrest, ok_bind, expect_eq hletter, ok_bind, hl',
    ok_bind]
  dsimp only
  rw [if_neg (by omega)]

/-- What is read as a character behind a backslash and the letter of a code unit is spelled there:
by that code unit, or by it and the next one. -/
theorem spells_of_unicodeEscape {hex cs rest : List Char} {n : Nat} (hn : CodeUnit hex n)
    (hcs : Letters cs) {c k : Cursor} {d : Char} (hc : c.rest = hex ++ (cs ++ '"' :: rest))
    (h : unicodeEscape c = .ok (d, k)) :
    ∃ cs', Letters cs' ∧ k.rest = cs' ++ '"' :: rest ∧
      ∀ t, Spells cs' t → Spells ('\\' :: 'u' :: (hex ++ cs)) (d :: t) := by
  obtain ⟨l, hl, hrest⟩ := reads_fourHex hn hc
  by_cases hlead : 0xd800 ≤ n ∧ n ≤ 0xdbff
  · rw [unicodeEscape_leading hl hlead] at h
    obtain ⟨a, hslash, h⟩ := bind_eq_ok.mp h
    obtain ⟨b, hletter, h⟩ := bind_eq_ok.mp h
    obtain ⟨⟨m, e⟩, hsecond, h⟩ := bind_eq_ok.mp h
    -- only the letters of a code unit begin with a backslash and its letter
    cases hcs with
    | nil => exact absurd (eq_of_expect hrest hslash).1 (by decide)
    | @plain d' cs hd hcs =>
      exact absurd (eq_of_expect hrest hslash).1 (toNat_of_isPlain hd).2.2
    | @short p cs hp hcs =>
      obtain ⟨-, ha⟩ := eq_of_expect hrest hslash
      exact absurd (eq_of_expect ha hletter).1 (ne_of_mem_shortEscapes p hp)
    | @code hex' m' cs hm hcs =>
      obtain ⟨-, ha⟩ := eq_of_expect hrest hslash
      obtain ⟨-, hb⟩ := eq_of_expect ha hletter
      obtain ⟨e', he, hlast⟩ := reads_fourHex hm ((hb.trans (List.append_assoc ..)))
      obtain ⟨rfl, rfl⟩ := Prod.mk.inj (Except.ok.inj (hsecond.symm.trans he))
      dsimp only at h
      split at h
      · cases h
      · rename_i hl'
        obtain ⟨rfl, rfl⟩ := Prod.mk.inj (Except.ok.inj h)
        exact ⟨cs, hcs, hlast, fun t ht => .pair hn hm hlead (by omega) ht⟩
  · rw [unicodeEscape, hl, ok_bind] at h
    dsimp only at h
    split at h
    · cases h
    · rename_i hlow
      have hr : n < 0xd800 ∨ 0xdfff < n := by omega
      rw [if_pos (by omega)] at h
      obtain ⟨rfl, rfl⟩ := Prod.mk.inj (Except.ok.inj h)
      exact ⟨cs, hcs, hrest, fun t ht => .code hn hr ht⟩

theorem reads_textBody {cs t : List Char} (h : Spells cs t) {fuel : Nat} {acc rest : List Char}
    {c : Cursor} (hf : cs.length ≤ fuel) (hc : c.rest = cs ++ '"' :: rest) :
    Reads (textBody (fuel + 1) acc c) (acc.reverse ++ t) rest := by
  induction h generalizing fuel acc c with
  | nil =>
    rw [textBody_quote hc, List.append_nil]
    exact ⟨c.advance, rfl, rest_advance_of hc⟩
  | @plain d cs t hd _ ih =>
    obtain ⟨fuel, rfl, hfuel⟩ := exists_fuel hf
    rw [textBody_plain hd hc, List.append_cons, ← List.reverse_cons]
    exact ih hfuel (rest_advance_of hc)
  | @short p cs t hp _ ih =>
    obtain ⟨fuel, rfl, hfuel⟩ := exists_fuel hf
    rw [textBody_short hp hc, List.append_cons, ← List.reverse_cons]
    exact ih (by simp at hfuel; omega) (rest_advance_of (rest_advance_of hc))
  | @code hex n cs t hn hr _ ih =>
    obtain ⟨fuel, rfl, hfuel⟩ := exists_fuel hf
    have hc : c.rest = '\\' :: 'u' :: (hex ++ (cs ++ '"' :: rest)) := by simpa using hc
    obtain ⟨k, hk, hrest⟩ := reads_unicodeEscape hn hr (rest_advance_of (rest_advance_of hc))
    rw [textBody_code hc, hk, ok_bind, List.append_cons, ← List.reverse_cons]
    exact ih (by simp at hfuel; omega) hrest
  | @pair hex hex' n m cs t hn hm hr hl _ ih =>
    obtain ⟨fuel, rfl, hfuel⟩ := exists_fuel hf
    have hc : c.rest = '\\' :: 'u' :: (hex ++ '\\' :: 'u' :: (hex' ++ (cs ++ '"' :: rest))) := by
      simpa using hc
    obtain ⟨k, hk, hrest⟩ :=
      reads_unicodeEscape_pair hn hm hr hl (rest_advance_of (rest_advance_of hc))
    generalize Char.ofNat ((n - 0xd800) * 0x400 + (m - 0xdc00) + 0x10000) = d at hk ⊢
    rw [textBody_code hc, hk, ok_bind, List.append_cons, ← List.reverse_cons]
    exact ih (by simp at hfuel; omega) hrest

/-- **Letters that spell a text** are read as that text. -/
theorem reads_textLiteral {cs t rest : List Char} (h : Spells cs t) {c : Cursor}
    (hc : c.rest = cs ++ '"' :: rest) : Reads (textLiteral c) (String.ofList t) rest := by
  have hf : cs.length ≤ c.rest.length := by
    rw [hc, List.length_append]
    exact Nat.le_add_right ..
  obtain ⟨k, hk, hrest⟩ := reads_textBody h hf hc
  refine ⟨k, ?_, hrest⟩
  rw [textLiteral, hk]
  rfl

theorem spells_of_textBody {fuel : Nat} {cs acc rest : List Char} (hcs : Letters cs) {c k : Cursor}
    {u : List Char} (hc : c.rest = cs ++ '"' :: rest) (h : textBody fuel acc c = .ok (u, k)) :
    ∃ t, Spells cs t ∧ u = acc.reverse ++ t ∧ k.rest = rest := by
  induction fuel generalizing cs acc c with
  | zero => cases h
  | succ fuel ih =>
    cases hcs with
    | nil =>
      rw [textBody_quote hc] at h
      obtain ⟨rfl, rfl⟩ := Prod.mk.inj (Except.ok.inj h)
      exact ⟨[], .nil, (List.append_nil _).symm, rest_advance_of hc⟩
    | @plain d cs hd hcs =>
      rw [textBody_plain hd hc] at h
      obtain ⟨t, ht, rfl, hk⟩ := ih hcs (rest_advance_of hc) h
      exact ⟨d :: t, .plain hd ht, by simp, hk⟩
    | @short p cs hp hcs =>
      rw [textBody_short hp hc] at h
      obtain ⟨t, ht, rfl, hk⟩ := ih hcs (rest_advance_of (rest_advance_of hc)) h
      exact ⟨p.2 :: t, .short hp ht, by simp, hk⟩
    | @code hex n cs hn hcs =>
      have hc : c.rest = '\\' :: 'u' :: (hex ++ (cs ++ '"' :: rest)) := by simpa using hc
      rw [textBody_code hc] at h
      obtain ⟨⟨d, l⟩, hd, h⟩ := bind_eq_ok.mp h
      obtain ⟨cs', hcs', hl, hspells⟩ :=
        spells_of_unicodeEscape hn hcs (rest_advance_of (rest_advance_of hc)) hd
      obtain ⟨t, ht, rfl, hk⟩ := ih hcs' hl h
      exact ⟨d :: t, hspells t ht, by simp, hk⟩

/-- **No other letters** are read. -/
theorem spells_of_textLiteral {cs rest : List Char} (hcs : Letters cs) {c k : Cursor} {s : String}
    (hc : c.rest = cs ++ '"' :: rest) (h : textLiteral c = .ok (s, k)) :
    Spells cs s.toList ∧ k.rest = rest := by
  rw [textLiteral] at h
  obtain ⟨⟨u, l⟩, hu, h⟩ := bind_eq_ok.mp h
  obtain ⟨rfl, rfl⟩ := Prod.mk.inj (Except.ok.inj h)
  obtain ⟨t, ht, rfl, hk⟩ := spells_of_textBody hcs hc hu
  rw [String.toList_ofList]
  exact ⟨ht, hk⟩

/-- letters spell one text -/
theorem Spells.unique {cs t u : List Char} (ht : Spells cs t) (hu : Spells cs u) : t = u := by
  obtain ⟨k, hk, -⟩ := reads_textLiteral ht (show (Cursor.mk (cs ++ ['"']) 1 0).rest = _ from rfl)
  obtain ⟨l, hl, -⟩ := reads_textLiteral hu (show (Cursor.mk (cs ++ ['"']) 1 0).rest = _ from rfl)
  exact String.ofList_injective (Prod.mk.inj (Except.ok.inj (hk.symm.trans hl))).1

/-- characters that stand for themselves spell what they are -/
theorem spells_self {cs : List Char} (h : cs.all isPlain = true) : Spells cs cs := by
  induction cs with
  | nil => exact .nil
  | cons c cs ih =>
    rw [List.all_cons, Bool.and_eq_true] at h
    exact .plain h.1 (ih h.2)

/-! ## writing -/

theorem exists_hexDigit : ∀ n < 16, ∃ c, digitValue? 16 c = some n := by
  intro n hn
  exact ⟨Char.ofNat (if n < 10 then 48 + n else 87 + n), by revert n; decide⟩

theorem exists_codeUnit {n : Nat} (hn : n < 0x100) : ∃ hex, CodeUnit hex n := by
  obtain ⟨x, hx⟩ := exists_hexDigit (n / 16) (by omega)
  obtain ⟨y, hy⟩ := exists_hexDigit (n % 16) (by omega)
  have hzero : digitValue? 16 '0' = some 0 := rfl
  have hcode := CodeUnit.mk hzero hzero hx hy
  have hvalue : Nat.ofDigits 16 [n % 16, n / 16, 0, 0] = n := by
    simp only [Nat.ofDigits_cons, Nat.ofDigits_nil]
    omega
  rw [hvalue] at hcode
  exact ⟨_, hcode⟩

/-- every text can be written -/
theorem exists_spells (t : List Char) : ∃ cs, Spells cs t := by
  induction t with
  | nil => exact ⟨[], .nil⟩
  | cons c t ih =>
    obtain ⟨cs, h⟩ := ih
    by_cases hplain : isPlain c = true
    · exact ⟨_, .plain hplain h⟩
    · by_cases hshort : ∃ p ∈ shortEscapes, p.2 = c
      · obtain ⟨p, hp, rfl⟩ := hshort
        exact ⟨_, .short hp h⟩
      · have hlow : c.toNat < 0x20 := by
          by_contra hge
          refine hplain ?_
          have hq : c ≠ '"' := fun h => hshort ⟨('"', '"'), by decide, h.symm⟩
          have hb : c ≠ '\\' := fun h => hshort ⟨('\\', '\\'), by decide, h.symm⟩
          simp [isPlain, hq, hb]
          omega
        obtain ⟨hex, hhex⟩ := exists_codeUnit (show c.toNat < 0x100 by omega)
        have hspells := Spells.code hhex (by omega) h
        rw [Char.ofNat_toNat] at hspells
        exact ⟨_, hspells⟩

/-! ## passing -/

section
variable {fuel : Nat} {c : Cursor} {rest : List Char}

theorem skipText_plain {d : Char} (hd : isPlain d = true) (hc : c.rest = d :: rest) :
    skipText (fuel + 1) c = skipText fuel c.advance := by
  obtain ⟨hn, hq, hb⟩ := toNat_of_isPlain hd
  rw [skipText, hc]
  split
  · rename_i h
    cases h
  · rename_i tail h
    exact absurd (List.cons.inj h).1 hq
  · rename_i tail h
    exact absurd (List.cons.inj h).1 hb
  · rename_i tail _ _ h
    obtain ⟨rfl, -⟩ := List.cons.inj h
    rw [if_neg hn]

theorem skipText_short {p : Char × Char} (hp : p ∈ shortEscapes)
    (hc : c.rest = '\\' :: p.1 :: rest) :
    skipText (fuel + 1) c = skipText fuel c.advance.advance := by
  fin_cases hp
  all_goals
    rw [skipText, hc]
    rfl

end

/-- **Any letters** are passed up to the quote behind them. -/
theorem leaves_skipText {cs rest : List Char} (h : Letters cs) {fuel : Nat} {c : Cursor}
    (hf : cs.length ≤ fuel) (hc : c.rest = cs ++ '"' :: rest) :
    Leaves (skipText (fuel + 1) c) rest := by
  induction h generalizing fuel c with
  | nil =>
    refine ⟨c.advance, ?_, rest_advance_of hc⟩
    rw [skipText, hc]
    rfl
  | @plain d cs hd _ ih =>
    obtain ⟨fuel, rfl, hfuel⟩ := exists_fuel hf
    rw [skipText_plain hd hc]
    exact ih hfuel (rest_advance_of hc)
  | @short p cs hp _ ih =>
    obtain ⟨fuel, rfl, hfuel⟩ := exists_fuel hf
    rw [skipText_short hp hc]
    exact ih (by simp at hfuel; omega) (rest_advance_of (rest_advance_of hc))
  | @code hex n cs hn _ ih =>
    obtain ⟨fuel, rfl, hfuel⟩ := exists_fuel hf
    have hc : c.rest = '\\' :: 'u' :: (hex ++ (cs ++ '"' :: rest)) := by simpa using hc
    obtain ⟨k, hk, hrest⟩ := reads_fourHex hn (rest_advance_of (rest_advance_of hc))
    rw [skipText, hc]
    show Leaves (fourHex c.advance.advance >>= fun p => skipText (fuel + 1) p.2) rest
    rw [hk, ok_bind]
    exact ih (by simp at hfuel; omega) hrest

end Scripting.Json
