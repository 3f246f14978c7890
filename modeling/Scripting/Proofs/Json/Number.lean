import Scripting.Json.Reader
import Scripting.Proofs.Json.Cursor

/-!
# Numbers of a document

A number may be passed or read.  Passing leaves what is behind it, whatever its parts are.  Reading
answers an integer only for a whole number without a fraction and an exponent, and that only below
2 ^ 64; everything else is a floating-point number or a fault.

* `leaves_skipNumber`    a number is passed;
* `reads_whole`          a whole number below 2 ^ 64 is read as the number that it denotes;
* `whole_of_number`      and nothing else is read as an integer that is not negative;
* `exists_whole`         every number is denoted by digits.
-/

namespace Scripting.Json

open Cursor
open Text (isDigit)

/-! ## digits -/

/-- no digit comes next -/
def NoDigit (rest : List Char) : Prop := ∀ c ∈ rest.head?, isDigit c = false

theorem digit?_eq (c : Char) : digit? c = if isDigit c then some (c.toNat - 48) else none := by
  unfold digit? isDigit
  simp only [Bool.and_eq_true, decide_eq_true_eq]

theorem digit?_of_isDigit {c : Char} (h : isDigit c = true) : digit? c = some (c.toNat - 48) := by
  rw [digit?_eq, if_pos h]

theorem isSome_digit? (c : Char) : (digit? c).isSome = isDigit c := by
  rw [digit?_eq]
  cases isDigit c <;> rfl

theorem nextDigit?_cons {c : Cursor} {d : Char} {rest : List Char} (h : c.rest = d :: rest) :
    nextDigit? c = digit? d := by
  rw [nextDigit?, h]
  rfl

theorem nextDigit?_eq_none {c : Cursor} (h : NoDigit c.rest) : nextDigit? c = none := by
  rw [nextDigit?]
  cases hr : c.rest with
  | nil => rfl
  | cons d rest =>
    have hd : isDigit d = false := h d (hr ▸ rfl)
    show digit? d = none
    rw [digit?_eq, hd]
    rfl

theorem toNat_of_isDigit {c : Char} (h : isDigit c = true) : 48 ≤ c.toNat ∧ c.toNat ≤ 57 := by
  unfold isDigit at h
  rw [Bool.and_eq_true, decide_eq_true_eq, decide_eq_true_eq] at h
  exact h

theorem eq_zero_of_digit {c : Char} (h : isDigit c = true) (hz : c.toNat - 48 = 0) : c = '0' := by
  have hle := (toNat_of_isDigit h).1
  exact Char.toNat_inj.mp (show c.toNat = 48 by omega)

/-- digits are passed up to the first character that is none -/
theorem rest_skipDigits {ds more : List Char} (hd : Digits ds) (hm : NoDigit more) {fuel : Nat}
    (hf : ds.length ≤ fuel) {c : Cursor} (hc : c.rest = ds ++ more) :
    (skipDigits fuel c).rest = more := by
  induction ds generalizing fuel c with
  | nil =>
    have hnone : nextDigit? c = none := nextDigit?_eq_none (hc ▸ hm)
    cases fuel with
    | zero => exact hc
    | succ fuel =>
      rw [skipDigits, hnone]
      exact hc
  | cons d ds ih =>
    obtain ⟨fuel, rfl, hfuel⟩ := exists_fuel hf
    have hsome : (nextDigit? c).isSome = true := by
      rw [nextDigit?_cons hc, isSome_digit?]
      exact hd d List.mem_cons_self
    rw [skipDigits, if_pos hsome]
    exact ih (fun e he => hd e (List.mem_cons_of_mem d he)) hfuel
      (rest_advance_of hc)

/-- all of the digits that come next are passed -/
theorem rest_skipDigits_all {ds more : List Char} (hd : Digits ds) (hm : NoDigit more) {c : Cursor}
    (hc : c.rest = ds ++ more) : (skipDigits c.rest.length c).rest = more := by
  refine rest_skipDigits hd hm ?_ hc
  rw [hc, List.length_append]
  exact Nat.le_add_right ..

/-! ## what the parts of a number begin with -/

theorem noDigit_of_ends {rest : List Char} (h : Ends rest) : NoDigit rest :=
  fun c hc => (h.not_number c hc).1

theorem startsExponent_eq_false {c : Cursor} (h : ∀ d ∈ c.rest.head?, d ∉ ['e', 'E']) :
    startsExponent c = false := by
  unfold startsExponent
  split
  · rename_i rest hc
    exact absurd (h 'e' (hc ▸ rfl)) (by decide)
  · rename_i rest hc
    exact absurd (h 'E' (hc ▸ rfl)) (by decide)
  · rfl

theorem startsExponent_of_mem {c : Cursor} {mark : Char} {rest : List Char} (hm : mark ∈ ['e', 'E'])
    (hc : c.rest = mark :: rest) : startsExponent c = true := by
  unfold startsExponent
  rw [hc]
  rcases List.mem_cons.mp hm with rfl | hm
  · rfl
  · rw [List.mem_singleton.mp hm]
    rfl

theorem startsExponent_of_ends {c : Cursor} (h : Ends c.rest) : startsExponent c = false :=
  startsExponent_eq_false fun d hd hmem =>
    (h.not_number d hd).2 (List.mem_cons_of_mem _ hmem)

/-- an exponent, or what is behind it, begins neither with a digit nor with a point -/
theorem Exponent.head {e rest : List Char} (he : Exponent e) (hr : Ends rest) :
    ∀ c ∈ (e ++ rest).head?, isDigit c = false ∧ c ≠ '.' := by
  intro c hc
  cases he with
  | absent =>
    obtain ⟨hd, hne⟩ := hr.not_number c hc
    exact ⟨hd, fun h => hne (h ▸ List.mem_cons_self)⟩
  | @power mark sign d ds hm hs hd h =>
    obtain rfl := Option.some_inj.mp hc
    rcases List.mem_cons.mp hm with rfl | hm
    · decide
    · rw [List.mem_singleton.mp hm]
      decide

theorem Fraction.noDigit {f e rest : List Char} (hf : Fraction f) (he : Exponent e)
    (hr : Ends rest) : NoDigit (f ++ (e ++ rest)) := by
  cases hf with
  | absent => exact fun c hc => (he.head hr c hc).1
  | point hd h =>
    intro c hc
    obtain rfl := Option.some_inj.mp hc
    rfl

/-- a whole number begins with a digit; if that is zero, there are no others -/
theorem Whole.exists_cons {w : List Char} (h : Whole w) :
    ∃ d ds, w = d :: ds ∧ isDigit d = true ∧ Digits ds ∧ (d = '0' → ds = []) := by
  cases h with
  | zero => exact ⟨'0', [], rfl, rfl, fun c hc => absurd hc List.not_mem_nil, fun _ => rfl⟩
  | @digits d ds hd hz h => exact ⟨d, ds, rfl, hd, h, fun hd => absurd hd hz⟩

/-! ## passing -/

/-- the sign of an exponent, if there is one, is passed -/
theorem skipExponent_eq {c : Cursor} {sign rest : List Char} {d : Char}
    (hs : sign ∈ [[], ['+'], ['-']]) (hd : isDigit d = true)
    (hc : c.advance.rest = sign ++ d :: rest) :
    ∃ k, k.rest = d :: rest ∧ skipNumber.skipExponent c = .ok (skipDigits k.rest.length k) := by
  have hsome {k : Cursor} (hk : k.rest = d :: rest) : (nextDigit? k).isSome = true := by
    rw [nextDigit?_cons hk, isSome_digit?, hd]
  simp only [List.mem_cons, List.not_mem_nil, or_false] at hs
  rcases hs with rfl | rfl | rfl
  · have hk : c.advance.rest = d :: rest := hc
    refine ⟨c.advance, hk, ?_⟩
    rw [skipNumber.skipExponent]
    split
    · rename_i tail hplus
      obtain ⟨rfl, -⟩ := List.cons.inj (hk.symm.trans hplus)
      exact absurd hd (by decide)
    · rename_i tail hminus
      obtain ⟨rfl, -⟩ := List.cons.inj (hk.symm.trans hminus)
      exact absurd hd (by decide)
    · rw [if_pos (hsome hk)]
  · have hk : c.advance.advance.rest = d :: rest := rest_advance_of hc
    refine ⟨c.advance.advance, hk, ?_⟩
    rw [skipNumber.skipExponent, hc]
    exact if_pos (hsome hk)
  · have hk : c.advance.advance.rest = d :: rest := rest_advance_of hc
    refine ⟨c.advance.advance, hk, ?_⟩
    rw [skipNumber.skipExponent, hc]
    exact if_pos (hsome hk)

theorem leaves_skipExponent {e rest : List Char} (he : Exponent e) (hr : Ends rest) {c : Cursor}
    (hc : c.rest = e ++ rest) :
    Leaves (if startsExponent c then skipNumber.skipExponent c else .ok c) rest := by
  cases he with
  | absent =>
    rw [startsExponent_of_ends (show Ends c.rest from hc ▸ hr)]
    exact ⟨c, rfl, hc⟩
  | @power mark sign d ds hm hs hd h =>
    have hc : c.rest = mark :: (sign ++ d :: (ds ++ rest)) := by simpa using hc
    obtain ⟨k, hk, hskip⟩ := skipExponent_eq hs hd (rest_advance_of hc)
    rw [startsExponent_of_mem hm hc, if_pos rfl, hskip]
    have hdigits : Digits (d :: ds) := List.forall_mem_cons.mpr ⟨hd, h⟩
    exact ⟨_, rfl, rest_skipDigits_all hdigits (noDigit_of_ends hr) hk⟩

/-- A number behind its sign is passed. -/
theorem leaves_skipNumber {w f e rest : List Char} (hw : Whole w) (hf : Fraction f)
    (he : Exponent e) (hr : Ends rest) {c : Cursor} (hc : c.rest = w ++ (f ++ (e ++ rest))) :
    Leaves (skipNumber c) rest := by
  obtain ⟨d, ds, rfl, hd, hds, hzero⟩ := hw.exists_cons
  have hmore : NoDigit (f ++ (e ++ rest)) := hf.noDigit he hr
  have hnext : c.advance.rest = ds ++ (f ++ (e ++ rest)) := rest_advance_of hc
  have hfirst : c.rest.head?.bind digit? = some (d.toNat - 48) := by
    rw [hc]
    exact digit?_of_isDigit hd
  have hlone : ¬ (d.toNat - 48 = 0 ∧ (nextDigit? c.advance).isSome = true) := by
    rintro ⟨hz, hsome⟩
    obtain rfl := hzero (eq_zero_of_digit hd hz)
    rw [nextDigit?_eq_none (hnext ▸ hmore)] at hsome
    cases hsome
  have hdigits : (skipDigits c.advance.rest.length c.advance).rest = f ++ (e ++ rest) :=
    rest_skipDigits_all hds hmore hnext
  rw [skipNumber, hfirst]
  dsimp only
  rw [if_neg hlone]
  generalize skipDigits c.advance.rest.length c.advance = k at hdigits
  cases hf with
  | absent =>
    split
    · rename_i tail hpoint
      have hhead : '.' ∈ (e ++ rest).head? := (congrArg List.head? (hpoint.symm.trans hdigits)).symm
      exact absurd rfl (he.head hr '.' hhead).2
    · exact leaves_skipExponent he hr hdigits
  | @point d' ds' hd' hds' =>
    have hk : k.advance.rest = d' :: (ds' ++ (e ++ rest)) := rest_advance_of hdigits
    have hsome : ¬ (nextDigit? k.advance).isNone = true := by
      rw [nextDigit?_cons hk, digit?_of_isDigit hd']
      exact Bool.false_ne_true
    rw [hdigits]
    show Leaves (if (nextDigit? k.advance).isNone = true then _ else
      if startsExponent (skipDigits k.advance.rest.length k.advance) then _ else _) rest
    rw [if_neg hsome]
    have hmore : NoDigit (e ++ rest) := fun c hc => (he.head hr c hc).1
    exact leaves_skipExponent he hr
      (rest_skipDigits_all (List.forall_mem_cons.mpr ⟨hd', hds'⟩) hmore hk)

/-! ## reading what is no integer -/

/-- whatever is read, it is no integer -/
def NoInt (r : Except Fault (Number × Cursor)) : Prop := ∀ i c, r ≠ .ok (.int i, c)

theorem noInt_error (f : Fault) : NoInt (.error f) := fun _ _ h => nomatch h

theorem noInt_float (x : Float) (c : Cursor) : NoInt (.ok (.float x, c)) := fun _ _ h => nomatch h

theorem NoInt.ite {p : Prop} [Decidable p] {r r' : Except Fault (Number × Cursor)} (h : NoInt r)
    (h' : NoInt r') : NoInt (if p then r else r') := by
  split
  · exact h
  · exact h'

section
variable (positive : Bool) (significand : Nat) (n : Int) (c : Cursor)

theorem noInt_fromParts : NoInt (fromParts positive significand n c) := by
  unfold fromParts
  split
  · exact noInt_error _
  · exact noInt_float _ _

theorem noInt_exponentPart : NoInt (exponentPart positive significand n c) := by
  unfold exponentPart
  dsimp only
  split
  · exact noInt_error _
  · split
    · exact noInt_error _
    · split
      · exact noInt_fromParts _ _ _ _
      · exact .ite (noInt_error _) (noInt_float _ _)

theorem noInt_fractionPart : NoInt (fractionPart positive significand n c) := by
  unfold fractionPart
  have tail (significand : Nat) (n : Int) (c : Cursor) : NoInt (if startsExponent c then
      exponentPart positive significand n c else fromParts positive significand n c) :=
    .ite (noInt_exponentPart _ _ _ _) (noInt_fromParts _ _ _ _)
  exact .ite (tail _ _ _) (.ite (noInt_error _) (tail _ _ _))

theorem noInt_longInteger (fuel : Nat) : NoInt (longInteger positive significand fuel n c) := by
  induction fuel generalizing n c with
  | zero => exact noInt_fromParts _ _ _ _
  | succ fuel ih =>
    rw [longInteger]
    refine .ite (ih _ _) ?_
    split
    · exact noInt_fractionPart _ _ _ _
    · exact .ite (noInt_exponentPart _ _ _ _) (noInt_fromParts _ _ _ _)

end

/-- behind a minus sign there is no integer but a negative one -/
theorem neg_of_afterInteger {sig : Nat} {c k : Cursor} {i : Int}
    (h : afterInteger false sig c = .ok (.int i, k)) : i < 0 := by
  unfold afterInteger at h
  split at h
  · exact absurd h (noInt_fractionPart _ _ _ _ i k)
  · split at h
    · exact absurd h (noInt_exponentPart _ _ _ _ i k)
    · rw [if_neg Bool.false_ne_true] at h
      split at h
      · cases h
      · rename_i hsig
        cases h
        omega

theorem neg_of_integerDigits {fuel sig : Nat} {c k : Cursor} {i : Int}
    (h : integerDigits false fuel sig c = .ok (.int i, k)) : i < 0 := by
  induction fuel generalizing sig c with
  | zero => exact neg_of_afterInteger h
  | succ fuel ih =>
    rw [integerDigits] at h
    split at h
    · exact neg_of_afterInteger h
    · split at h
      · exact absurd h (noInt_longInteger _ _ _ _ _ i k)
      · exact ih h

theorem neg_of_number {c k : Cursor} {i : Int} (h : number false c = .ok (.int i, k)) : i < 0 := by
  unfold number at h
  split at h
  · cases h
  · split at h
    · cases h
    · dsimp only at h
      split at h
      · cases h
      · exact neg_of_afterInteger h
    · exact neg_of_integerDigits h

/-! ## reading an integer -/

theorem decimal_concat (ds : List Char) (c : Char) :
    decimal (ds ++ [c]) = decimal ds * 10 + (c.toNat - 48) := by
  unfold decimal
  rw [List.reverse_concat, List.map_cons, Nat.ofDigits_cons]
  omega

theorem decimal_le_append (a b : List Char) : decimal a ≤ decimal (a ++ b) := by
  unfold decimal
  rw [List.reverse_append, List.map_append, Nat.ofDigits_append]
  exact Nat.le_add_left_of_le (Nat.le_mul_of_pos_left _ (by positivity))

theorem decimal_singleton (c : Char) : decimal [c] = c.toNat - 48 := Nat.ofDigits_singleton ..

section
variable {pre ds more : List Char} {c : Cursor}

theorem integerDigits_cons {positive : Bool} {fuel : Nat} {d : Char} (hd : isDigit d = true)
    (hc : c.rest = d :: (ds ++ more)) : integerDigits positive (fuel + 1) (decimal pre) c =
      if 2 ^ 64 ≤ decimal (pre ++ [d]) then longInteger positive (decimal pre) c.rest.length 0 c
      else integerDigits positive fuel (decimal (pre ++ [d])) c.advance := by
  rw [integerDigits, nextDigit?_cons hc, digit?_of_isDigit hd, decimal_concat]
  rfl

/-- digits are read one after the other as long as what they denote is below 2 ^ 64 -/
theorem integerDigits_eq {positive : Bool} (hd : Digits ds) (hm : NoDigit more) {fuel : Nat}
    (hf : ds.length ≤ fuel) (hc : c.rest = ds ++ more) (hlt : decimal (pre ++ ds) < 2 ^ 64) :
    ∃ k, k.rest = more ∧
      integerDigits positive fuel (decimal pre) c =
        afterInteger positive (decimal (pre ++ ds)) k := by
  induction ds generalizing pre fuel c with
  | nil =>
    refine ⟨c, hc, ?_⟩
    rw [List.append_nil]
    cases fuel with
    | zero => rfl
    | succ fuel => rw [integerDigits, nextDigit?_eq_none (hc ▸ hm)]
  | cons d ds ih =>
    obtain ⟨hfirst, hd⟩ := List.forall_mem_cons.mp hd
    obtain ⟨fuel, rfl, hfuel⟩ := exists_fuel hf
    have happ : pre ++ d :: ds = pre ++ [d] ++ ds := by simp
    rw [happ] at hlt ⊢
    have hle := decimal_le_append (pre ++ [d]) ds
    rw [integerDigits_cons hfirst hc, if_neg (by omega)]
    exact ih hd hfuel (rest_advance_of hc) hlt

theorem lt_of_integerDigits (hd : Digits ds) {fuel : Nat} (hf : ds.length ≤ fuel)
    (hc : c.rest = ds ++ more) (hlt : decimal pre < 2 ^ 64) {i : Int} {k : Cursor}
    (h : integerDigits true fuel (decimal pre) c = .ok (.int i, k)) :
    decimal (pre ++ ds) < 2 ^ 64 := by
  induction ds generalizing pre fuel c with
  | nil => rwa [List.append_nil]
  | cons d ds ih =>
    obtain ⟨hfirst, hd⟩ := List.forall_mem_cons.mp hd
    obtain ⟨fuel, rfl, hfuel⟩ := exists_fuel hf
    rw [integerDigits_cons hfirst hc] at h
    split at h
    · exact absurd h (noInt_longInteger _ _ _ _ _ i k)
    · rename_i hle
      have happ : pre ++ d :: ds = pre ++ [d] ++ ds := by simp
      rw [happ]
      exact ih hd hfuel (rest_advance_of hc) (by omega) h

end

section
variable {w more : List Char} {c : Cursor}

theorem number_zero {positive : Bool} (hm : NoDigit more) (hc : c.rest = '0' :: more) :
    number positive c = afterInteger positive 0 c.advance := by
  have hnone : nextDigit? c.advance = none := nextDigit?_eq_none ((rest_advance_of hc).symm ▸ hm)
  unfold number
  rw [hc]
  show (if (nextDigit? c.advance).isSome then _ else _) = _
  rw [hnone]
  rfl

theorem number_digit {positive : Bool} {d : Char} (hd : isDigit d = true) (hz : d ≠ '0')
    (hc : c.rest = d :: more) :
    number positive c = integerDigits positive c.rest.length (decimal [d]) c.advance := by
  obtain ⟨n, hn⟩ := Nat.exists_eq_succ_of_ne_zero fun h => hz (eq_zero_of_digit hd h)
  unfold number
  rw [hc]
  dsimp only
  rw [digit?_of_isDigit hd, decimal_singleton, hn]
  rfl

/-- a whole number below 2 ^ 64 is read as such, and what is behind it decides -/
theorem number_eq {positive : Bool} (hw : Whole w) (hm : NoDigit more) (hc : c.rest = w ++ more)
    (hlt : decimal w < 2 ^ 64) :
    ∃ k, k.rest = more ∧ number positive c = afterInteger positive (decimal w) k := by
  cases hw with
  | zero => exact ⟨c.advance, rest_advance_of hc, number_zero hm hc⟩
  | @digits d ds hd hz h =>
    have hlen : ds.length ≤ c.rest.length := by
      rw [hc, List.length_append, List.length_cons]
      omega
    rw [number_digit hd hz hc]
    exact integerDigits_eq h hm hlen (rest_advance_of hc) hlt

theorem lt_of_number (hw : Whole w) (hc : c.rest = w ++ more) {i : Int} {k : Cursor}
    (h : number true c = .ok (.int i, k)) : decimal w < 2 ^ 64 := by
  cases hw with
  | zero => decide
  | @digits d ds hd hz hds =>
    have hlen : ds.length ≤ c.rest.length := by
      rw [hc, List.length_append, List.length_cons]
      omega
    have hlt : decimal [d] < 2 ^ 64 := by
      have hle := (toNat_of_isDigit hd).2
      rw [decimal_singleton]
      omega
    rw [number_digit hd hz hc] at h
    exact lt_of_integerDigits hds hlen (rest_advance_of hc) hlt h

variable {f e rest : List Char}

/-- **A whole number below 2 ^ 64** is read as the integer that it denotes. -/
theorem reads_whole (hw : Whole w) (hr : Ends rest) (hc : c.rest = w ++ rest)
    (hlt : decimal w < 2 ^ 64) : Reads (number true c) (.int (decimal w)) rest := by
  obtain ⟨k, hk, hnumber⟩ := number_eq hw (noDigit_of_ends hr) hc hlt
  have hends : Ends k.rest := hk ▸ hr
  refine ⟨k, ?_, hk⟩
  rw [hnumber, afterInteger]
  split
  · rename_i tail hpoint
    exact absurd (List.mem_cons_self) (hends.not_number '.' (hpoint ▸ rfl)).2
  · rw [startsExponent_of_ends hends]
    rfl

/-- **Nothing else** is read as an integer. -/
theorem whole_of_number (hw : Whole w) (hf : Fraction f) (he : Exponent e) (hr : Ends rest)
    (hc : c.rest = w ++ (f ++ (e ++ rest))) {i : Int} {k : Cursor}
    (h : number true c = .ok (.int i, k)) : f = [] ∧ e = [] ∧ decimal w < 2 ^ 64 := by
  have hlt := lt_of_number hw hc h
  obtain ⟨k', hk, hnumber⟩ := number_eq hw (hf.noDigit he hr) hc hlt
  rw [hnumber, afterInteger] at h
  cases hf with
  | @point d ds hd hds =>
    rw [hk] at h
    exact absurd h (noInt_fractionPart _ _ _ _ i k)
  | absent =>
    cases he with
    | absent => exact ⟨rfl, rfl, hlt⟩
    | @power mark sign d ds hm hs hd hds =>
      rw [startsExponent_of_mem hm hk] at h
      split at h
      · exact absurd h (noInt_fractionPart _ _ _ _ i k)
      · exact absurd h (noInt_exponentPart _ _ _ _ i k)

end

/-! ## writing -/

theorem exists_digit : ∀ n < 10, ∃ c : Char, isDigit c = true ∧ c.toNat - 48 = n := by
  intro n hn
  exact ⟨Char.ofNat (48 + n), by revert n; decide⟩

/-- every number is written in one way at least -/
theorem exists_whole (n : Nat) : ∃ w, Whole w ∧ decimal w = n := by
  induction n using Nat.strongRecOn with
  | ind n ih =>
    obtain ⟨c, hc, hlast⟩ := exists_digit (n % 10) (Nat.mod_lt n (by decide))
    by_cases hn : n < 10
    · rw [Nat.mod_eq_of_lt hn] at hlast
      by_cases hz : c = '0'
      · subst hz
        exact ⟨['0'], .zero, (decimal_singleton '0').trans hlast⟩
      · exact ⟨[c], .digits hc hz (by simp [Digits]), (decimal_singleton c).trans hlast⟩
    · obtain ⟨w, hw, hrest⟩ := ih (n / 10) (by omega)
      have hvalue : decimal (w ++ [c]) = n := by
        rw [decimal_concat, hrest, hlast]
        omega
      cases hw with
      | zero =>
        rw [decimal_singleton] at hrest
        have : '0'.toNat - 48 = 0 := rfl
        omega
      | @digits d ds hd hz h =>
        refine ⟨_, .digits hd hz fun x hx => ?_, hvalue⟩
        rcases List.mem_append.mp hx with hx | hx
        · exact h x hx
        · exact List.mem_singleton.mp hx ▸ hc

end Scripting.Json
