import Scripting.Proofs.Script.Identifier
import Scripting.Proofs.Script.Level

/-!
# The tokens of an import statement

* `tokens_enough`   a token takes a character at least, so as many rounds as there are characters
                    left, and one more, do as well as any larger number of them;
* `cuts_statement`  an import statement on a line of its own is cut into five tokens;
* `scan_statement`  and what is behind it is cut as if it stood alone.
-/

namespace Scripting.Script

open Text

namespace Cursor

/-- how many characters there are still -/
def left (k : Cursor) : Nat := k.rest.length

theorem left_advance (k : Cursor) : k.advance.left = k.left - 1 := by
  obtain ⟨rest, pos⟩ := k
  cases rest <;> rfl

theorem left_advance_le (k : Cursor) : k.advance.left ≤ k.left := left_advance k ▸ Nat.sub_le ..

theorem left_skip (n : Nat) (k : Cursor) : (skip n k).left = k.left - n := by
  induction n generalizing k with
  | zero => rfl
  | succ n ih =>
    rw [skip, ih, left_advance]
    omega

theorem rest_takeWhile (p : Char → Bool) (cs : List Char) (pos : Pos) :
    (takeWhile p cs pos).1 = cs.takeWhile p ∧ (takeWhile p cs pos).2.rest = cs.dropWhile p := by
  induction cs generalizing pos with
  | nil => exact ⟨rfl, rfl⟩
  | cons c cs ih =>
    obtain ⟨h1, h2⟩ := ih (after c pos)
    rw [takeWhile_cons, List.takeWhile_cons, List.dropWhile_cons]
    split
    · exact ⟨congrArg (c :: ·) h1, h2⟩
    · exact ⟨rfl, rfl⟩

end Cursor

namespace Lexer

open Cursor

theorem left_skipComment (depth : Nat) (cs : List Char) (pos : Pos) :
    (skipComment depth cs pos).left ≤ cs.length := by
  fun_induction skipComment depth cs pos with
  | case1 => exact Nat.le_refl _
  | case2 depth cs pos ih => exact Nat.le_add_right_of_le (Nat.le_add_right_of_le ih)
  | case3 => exact Nat.le_add_right _ 2
  | case4 depth cs pos _ ih => exact Nat.le_add_right_of_le (Nat.le_add_right_of_le ih)
  | case5 depth c cs pos _ _ ih => exact Nat.le_add_right_of_le ih

theorem left_skipBlanks (n : Nat) (k : Cursor) : (skipBlanks n k).left ≤ k.left := by
  induction n generalizing k with
  | zero => exact Nat.le_refl _
  | succ n ih =>
    unfold skipBlanks
    split
    · exact Nat.le_refl _
    · refine Nat.le_trans (ih _) ?_
      rw [left, (rest_takeWhile ..).2]
      exact (List.dropWhile_suffix _).length_le
    · exact Nat.le_trans (ih _) (left_skipComment ..)
    · split
      · exact Nat.le_trans (ih _) (left_advance_le k)
      · exact Nat.le_refl _

/-- what is left behind a reading that succeeds -/
def Within {α : Type} (n : Nat) (behind : α → Cursor) (r : Scan α) : Prop :=
  ∀ a, r = .ok a → (behind a).left ≤ n

section
variable {α : Type} {m n : Nat} {behind : α → Cursor}

theorem Within.error (fault : LexFault × Pos) : Within n behind (.error fault) := nofun

theorem Within.ok {a : α} (h : (behind a).left ≤ n) : Within n behind (.ok a) := by
  rintro _ ⟨⟩
  exact h

theorem Within.mono {r : Scan α} (h : Within m behind r) (hmn : m ≤ n) : Within n behind r :=
  fun a ha => Nat.le_trans (h a ha) hmn

end

theorem left_codeDigits (n code : Nat) (seen : String) (k : Cursor) :
    Within k.left (·.2.2) (codeDigits n code seen k) := by
  induction n generalizing code seen k with
  | zero => exact .ok (Nat.le_refl _)
  | succ n ih =>
    unfold codeDigits
    split
    · exact .error _
    · split
      · exact .error _
      · exact (ih _ _ _).mono (left_advance_le k)

theorem left_codeEscape (letter : Char) (length : Nat) (k : Cursor) :
    Within k.left (·.2) (codeEscape letter length k) := by
  have hdigits := left_codeDigits length 0 ("\\".push letter) k
  unfold codeEscape
  generalize codeDigits length 0 ("\\".push letter) k = r at hdigits ⊢
  cases r with
  | error fault => exact .error fault
  | ok r =>
    show Within k.left (fun s : Char × Cursor => s.2) (if h : _ then _ else _)
    by_cases hvalid : r.1.isValidChar
    · rw [dif_pos hvalid]
      exact .ok (hdigits r rfl)
    · rw [dif_neg hvalid]
      exact .error _

theorem left_escape (style : TextStyle) (c : Char) (k : Cursor) :
    Within k.left (·.2) (escape style c k) := by
  have hnext := left_advance_le k
  unfold escape
  split
  · exact .ok hnext
  · exact .ok hnext
  · exact .ok hnext
  · exact .ok hnext
  · exact (left_codeEscape _ _ _).mono hnext
  · exact (left_codeEscape _ _ _).mono hnext
  · exact (left_codeEscape _ _ _).mono hnext
  · split
    · exact .ok hnext
    · exact .error _

theorem left_textBody (style : TextStyle) (limit : Nat) (start : Pos) (n indent : Nat) (r : Read)
    (k : Cursor) : Within k.left (·.2.2) (textBody style limit start n indent r k) := by
  induction n generalizing indent r k with
  | zero => exact .error _
  | succ n ih =>
    have hnext := left_advance_le k
    have hafter := Nat.le_trans (left_advance_le k.advance) hnext
    unfold textBody
    split
    · exact .error _
    · split
      · exact .error _
      · split
        · exact .ok hnext
        · split
          · split
            · exact (ih _ _ _).mono hafter
            · exact .ok hnext
          · split
            · exact (ih _ _ _).mono hnext
            · split
              · split
                · split
                  · exact .ok (Nat.zero_le _)
                  · exact .error _
                · split
                  · exact (ih _ _ _).mono hafter
                  · exact .error _
                · split
                  · exact (ih _ _ _).mono (left_skip 3 k ▸ Nat.sub_le ..)
                  · exact .error _
                · split
                  · exact .error _
                  · rename_i d k' hescape
                    exact (ih _ _ _).mono
                      (Nat.le_trans (left_escape style _ _ _ hescape) hnext)
              · split
                · exact .error _
                · split
                  · exact (ih _ _ _).mono hnext
                  · exact (ih _ _ _).mono hnext

theorem left_text (style : TextStyle) (limit : Nat) (start : Pos) (k : Cursor) :
    Within k.left (·.2.2) (text style limit start k) := by
  have hbody := left_textBody style limit start (k.rest.length + 1) 0 {} k
  unfold text
  generalize textBody style limit start (k.rest.length + 1) 0 {} k = r at hbody ⊢
  cases r with
  | error fault => exact .error fault
  | ok r => exact .ok (hbody r rfl)

theorem left_dropLineBreak (k : Cursor) : (dropLineBreak k).left ≤ k.left := by
  obtain ⟨rest, pos⟩ := k
  unfold dropLineBreak
  dsimp only
  split
  · exact Nat.le_add_right _ 2
  · exact Nat.le_add_right _ 1
  · exact Nat.le_add_right _ 1
  · exact Nat.le_refl _

theorem left_numberBody (radix n : Nat) (pointed : Bool) (k : Cursor) :
    (numberBody radix n pointed k).2.left ≤ k.left := by
  induction n generalizing pointed k with
  | zero => exact Nat.le_refl _
  | succ n ih =>
    unfold numberBody
    split
    · exact Nat.le_refl _
    · exact Nat.le_trans (ih _ _) (left_advance_le k)
    · exact Nat.le_trans (ih _ _) (left_advance_le k)
    · exact Nat.le_trans (ih _ _) (left_skip _ k ▸ Nat.sub_le ..)

theorem digitValue?_of_isDigit {c : Char} (h : isDigit c = true) : (digitValue? 10 c).isSome := by
  have hc : c.toNat ≤ 57 := by
    rw [isDigit, Bool.and_eq_true, decide_eq_true_eq, decide_eq_true_eq] at h
    exact h.2
  unfold digitValue?
  dsimp only
  rw [if_pos h, Option.filter_some_pos (by simp; omega)]
  rfl

/-- a digit is part of the number that starts with it -/
theorem numberPart_digit {c : Char} (h : isDigit c = true) (pointed : Bool) (cs : List Char) :
    numberPart 10 pointed (c :: cs) = .take := by
  unfold numberPart
  split
  · rename_i heq
    cases heq
  · rename_i heq
    cases heq
    exact absurd h (by decide)
  · rename_i heq
    cases heq
    rw [if_pos (digitValue?_of_isDigit h)]

theorem left_numberBody_digit {c : Char} (h : isDigit c = true) (cs : List Char) (pos : Pos)
    (n : Nat) : (numberBody 10 (n + 1) false ⟨c :: cs, pos⟩).2.left < (c :: cs).length := by
  unfold numberBody
  rw [numberPart_digit h]
  exact Nat.lt_succ_of_le (left_numberBody ..)

theorem left_number (negative : Bool) (k : Cursor) : (number negative k).2.left ≤ k.left := by
  unfold number
  dsimp only
  split
  · split
    · exact Nat.le_trans (left_numberBody ..) (left_skip 2 k ▸ Nat.sub_le ..)
    · exact left_numberBody ..
  · exact left_numberBody ..

theorem left_number_digit (negative : Bool) {c : Char} (hc : isDigit c = true) (cs : List Char)
    (pos : Pos) : (number negative ⟨c :: cs, pos⟩).2.left < (c :: cs).length := by
  unfold number
  dsimp only
  split
  · split
    · refine Nat.lt_of_le_of_lt (left_numberBody ..) ?_
      rw [left_skip]
      exact Nat.sub_lt (Nat.succ_pos _) Nat.two_pos
    · exact left_numberBody_digit hc cs pos _
  · exact left_numberBody_digit hc cs pos _

theorem length_symbols : ∀ s ∈ Token.symbols, 0 < s.length := by decide

theorem length_reservedSymbols : ∀ s ∈ Token.reservedSymbols, 0 < s.1.length := by decide

/-- a token that ends the text, or a place closer to its end -/
def Ends (n : Nat) (t : Token) (k : Cursor) : Prop :=
  t = .eof ∨ (∃ fault, t = .bad fault) ∨ k.left < n

theorem ends_symbol {k : Cursor} (hk : 0 < k.left) :
    Ends k.left (symbol k).1 (symbol k).2 := by
  unfold symbol
  dsimp only
  split
  · exact .inr (.inl ⟨_, rfl⟩)
  · rename_i s _ h
    have hs := length_reservedSymbols _ (List.mem_of_find?_eq_some h)
    refine .inr (.inr ?_)
    rw [left_skip]
    dsimp only at hs
    omega
  · rename_i s _ h
    have hs := length_symbols _ (List.mem_of_find?_eq_some h)
    refine .inr (.inr ?_)
    rw [left_skip]
    omega
  · exact .inr (.inl ⟨_, rfl⟩)

theorem left_backtick (limit : Nat) (start : Pos) (nesting : Nesting) (k : Cursor) :
    (backtick limit start nesting k).2.1.left ≤ k.left := by
  have htext := left_text .back limit start k
  unfold backtick
  generalize text .back limit start k = r at htext
  match r, htext with
  | .error _, _ => exact Nat.le_refl _
  | .ok (_, .closed, _), h => exact h _ rfl
  | .ok (_, .expression, _), h => exact h _ rfl

theorem left_quoted (style : TextStyle) (limit : Nat) (start : Pos) (k : Cursor)
    (make : String → Token) : (quoted style limit start k make).2.left ≤ k.left := by
  have htext := left_text style limit start k
  unfold quoted
  generalize text style limit start k = r at htext
  match r, htext with
  | .error _, _ => exact Nat.le_refl _
  | .ok (_, _, _), h => exact h _ rfl

theorem isWordChar_of_startsWord {c : Char} (h : startsWord c = true) : isWordChar c = true := by
  rw [startsWord, Bool.or_eq_true] at h
  rcases h with h | h
  · exact isWordChar_of_isLetter h
  · simp [isWordChar, h]

/-- a token is the last one, or takes a character at least -/
theorem ends_token (limit : Nat) (nesting : Nesting) (operand : Bool) (k : Cursor) :
    Ends k.left (token limit nesting operand k).1.token (token limit nesting operand k).2.1 := by
  obtain ⟨rest, pos⟩ := k
  cases rest with
  | nil => exact .inl rfl
  | cons c cs =>
    have hnext : (advance ⟨c :: cs, pos⟩).left < (c :: cs).length := Nat.lt_succ_self _
    unfold token
    dsimp only
    split
    · exact .inr (.inr (Nat.lt_of_le_of_lt (left_number ..) hnext))
    · split
      · rename_i hc
        exact .inr (.inr (left_number_digit false hc cs pos))
      · split
        · rename_i hc
          refine .inr (.inr ?_)
          rw [left, (rest_takeWhile ..).2, List.dropWhile_cons_of_pos (isWordChar_of_startsWord hc)]
          exact Nat.lt_succ_of_le (List.dropWhile_suffix _).length_le
        · split
          · exact .inr (.inr (Nat.lt_of_le_of_lt (left_quoted ..) hnext))
          · split
            · exact .inr (.inl ⟨_, rfl⟩)
            · split
              · exact .inr (.inr (Nat.lt_of_le_of_lt (left_quoted ..) hnext))
              · split
                · exact .inr (.inr (Nat.lt_of_le_of_lt (Nat.le_trans (left_backtick ..)
                    (left_dropLineBreak _)) hnext))
                · exact ends_symbol (Nat.succ_pos _)

/-- reading on from where a token goes on makes the same of it -/
theorem following_congr (limit : Nat) {more more' : Nesting → Bool → Cursor → List Located} {n : Nat}
    (hmore : ∀ nesting operand k, k.left < n → more nesting operand k = more' nesting operand k)
    {r : Located × Cursor × Nesting} (h : Ends n r.1.token r.2.1) :
    following limit more r = following limit more' r := by
  obtain ⟨⟨t, p⟩, k, nesting⟩ := r
  rcases h with rfl | ⟨fault, rfl⟩ | h
  · rfl
  · rfl
  · unfold following
    dsimp only at h ⊢
    split
    · rfl
    · rfl
    · split
      · rw [hmore _ _ _ h]
      · rw [hmore _ _ _ h]
      · rw [hmore _ _ _ (Nat.lt_of_le_of_lt (left_backtick ..) h)]
      · rw [hmore _ _ _ h]
    · rw [hmore _ _ _ h]

theorem tokens_enough (limit : Nat) {m n : Nat} (nesting : Nesting) (operand : Bool) {k : Cursor}
    (hm : k.left < m) (hn : k.left < n) :
    tokens limit m nesting operand k = tokens limit n nesting operand k := by
  induction m generalizing n nesting operand k with
  | zero => exact absurd hm (Nat.not_lt_zero _)
  | succ m ih =>
    obtain ⟨n, rfl⟩ : ∃ i, n = i + 1 := ⟨n - 1, by omega⟩
    have hblanks := left_skipBlanks (k.rest.length + 1) k
    rw [tokens_succ, tokens_succ]
    exact following_congr limit
      (fun nesting operand k hk => ih nesting operand (by omega) (by omega))
      (ends_token limit nesting operand _)

/-! ## an import statement -/

theorem skipBlanks_self {c : Char} (h : isSeparator c = false) (hc : c ≠ '/') (n : Nat)
    (cs : List Char) (pos : Pos) : skipBlanks n ⟨c :: cs, pos⟩ = ⟨c :: cs, pos⟩ := by
  cases n with
  | zero => rfl
  | succ n =>
    unfold skipBlanks
    split
    · rfl
    · rename_i heq
      cases heq
      exact absurd rfl hc
    · rename_i heq
      cases heq
      exact absurd rfl hc
    · rename_i heq
      cases heq
      rw [h]
      rfl

theorem skipBlanks_separator {c : Char} (h : isSeparator c = true) (n : Nat) (cs : List Char)
    (pos : Pos) : skipBlanks (n + 1) ⟨c :: cs, pos⟩ = skipBlanks n ⟨cs, after c pos⟩ := by
  have hc : c ≠ '/' := by
    rintro rfl
    exact absurd h (by decide)
  rw [skipBlanks]
  split
  · rename_i heq
    cases heq
  · rename_i heq
    cases heq
    exact absurd rfl hc
  · rename_i heq
    cases heq
    exact absurd rfl hc
  · rename_i heq
    cases heq
    rw [if_pos h]
    rfl

/-- a token that does not end the text and closes no brace -/
def Inside (t : Token) : Prop := t ≠ .eof ∧ (∀ fault, t ≠ .bad fault) ∧ t ≠ .mark "\x7d"

theorem tokens_cons {limit : Nat} {nesting nesting' : Nesting} {operand : Bool} {k k' : Cursor}
    {t : Token} {p : Pos}
    (h : token limit nesting operand (skipBlanks (k.rest.length + 1) k) = (⟨t, p⟩, k', nesting'))
    (ht : Inside t) (n : Nat) :
    tokens limit (n + 1) nesting operand k =
      ⟨t, p⟩ :: tokens limit n nesting' t.precedesOperand k' := by
  rw [tokens_succ, h]
  unfold following
  dsimp only
  split
  · exact absurd rfl ht.1
  · exact absurd rfl (ht.2.1 _)
  · exact absurd rfl ht.2.2
  · rfl

theorem isSeparator_of_isWordChar {c : Char} (h : isWordChar c = true) : isSeparator c = false := by
  refine Bool.eq_false_iff.mpr fun hs => ?_
  simp only [isSeparator, Bool.or_eq_true, beq_iff_eq] at hs
  rcases hs with (((rfl | rfl) | rfl) | rfl) | rfl <;> exact absurd h (by decide)

theorem ne_slash_of_isWordChar {c : Char} (h : isWordChar c = true) : c ≠ '/' := by
  rintro rfl
  exact absurd h (by decide)

theorem isDigit_of_startsWord {c : Char} (h : startsWord c = true) : isDigit c = false := by
  rw [startsWord, Bool.or_eq_true, beq_iff_eq] at h
  rcases h with h | rfl
  · simp only [isLetter, isDigit, Bool.or_eq_true, Bool.and_eq_true, Bool.and_eq_false_iff,
      decide_eq_true_eq, decide_eq_false_iff_not, Char.le_def, UInt32.le_iff_toNat_le] at h ⊢
    have h0 : 'a'.val.toNat = 97 ∧ 'A'.val.toNat = 65 ∧ '9'.val.toNat = 57 := by decide
    omega
  · decide

/-- a word is cut off at the first character that is not part of it -/
theorem token_word {c : Char} (hc : startsWord c = true) {cs : List Char}
    (hcs : ∀ c ∈ cs, isWordChar c = true) {d : Char} (hd : isWordChar d = false) (limit : Nat)
    (nesting : Nesting) (operand : Bool) (ds : List Char) (pos : Pos) :
    ∃ pos', token limit nesting operand ⟨c :: cs ++ d :: ds, pos⟩ =
      (⟨.ofWord (c :: cs), pos⟩, ⟨d :: ds, pos'⟩, nesting) := by
  have hword : ∀ e ∈ c :: cs, isWordChar e = true :=
    List.forall_mem_cons.mpr ⟨isWordChar_of_startsWord hc, hcs⟩
  have hnegative : seesNegative ⟨c :: cs ++ d :: ds, pos⟩ = false := by
    unfold seesNegative
    dsimp only
    split
    · rename_i heq
      obtain ⟨rfl, -⟩ := List.cons.inj heq
      exact absurd hc (by decide)
    · rfl
  obtain ⟨htaken, hrest⟩ := rest_takeWhile isWordChar (c :: cs ++ d :: ds) pos
  rw [List.takeWhile_append_of_pos hword, List.takeWhile_cons_of_neg (by simp [hd]),
    List.append_nil] at htaken
  rw [List.dropWhile_append_of_pos hword, List.dropWhile_cons_of_neg (by simp [hd])] at hrest
  generalize hk : takeWhile isWordChar (c :: cs ++ d :: ds) pos = r at htaken hrest
  obtain ⟨_, ⟨_, pos'⟩⟩ := r
  dsimp only at htaken hrest
  subst htaken hrest
  refine ⟨pos', ?_⟩
  rw [List.cons_append] at hk hnegative ⊢
  unfold token
  dsimp only
  rw [hnegative, Bool.and_false, if_neg Bool.false_ne_true, if_neg (by simp [isDigit_of_startsWord hc]),
    if_pos hc, hk]

/-- a character that stands for itself in a text between double quotes -/
def Quotable (c : Char) : Prop := c ≠ '"' ∧ c ≠ '\\' ∧ c ≠ '\r' ∧ c ≠ '\n'

/-- how many bytes characters take -/
def bytes : List Char → Nat
  | [] => 0
  | c :: cs => c.utf8Size + bytes cs

theorem textBody_quotable {cs : List Char} (hcs : ∀ c ∈ cs, Quotable c) {d : Char} (hd : d ≠ '"')
    {limit : Nat} (r : Read) (hlimit : limit = 0 ∨ r.bytes + bytes cs ≤ limit) (start : Pos)
    (ds : List Char) (pos : Pos) {n : Nat} (hn : cs.length < n) :
    ∃ bytes pos', textBody .double limit start n 0 r ⟨cs ++ '"' :: d :: ds, pos⟩ =
      .ok (⟨cs.reverse ++ r.reversed, bytes⟩, .closed, ⟨d :: ds, pos'⟩) := by
  induction cs generalizing r pos n with
  | nil =>
    obtain ⟨n, rfl⟩ : ∃ i, n = i + 1 := ⟨n - 1, by omega⟩
    have hover : ¬ (limit ≠ 0 ∧ r.bytes > limit) := by omega
    have hnext : ¬ (d :: ds).head? = some '"' := fun h => hd (Option.some_inj.mp h)
    refine ⟨r.bytes, after '"' pos, ?_⟩
    unfold textBody
    dsimp only [List.nil_append]
    rw [if_neg hover, if_neg (fun h => Bool.false_ne_true h.1),
      if_pos (show '"' = TextStyle.double.quote from rfl), if_neg hnext]
    rfl
  | cons c cs ih =>
    obtain ⟨n, rfl⟩ : ∃ i, n = i + 1 := ⟨n - 1, by omega⟩
    have hover : ¬ (limit ≠ 0 ∧ r.bytes > limit) := by omega
    obtain ⟨⟨hquote, hslash, hreturn, hline⟩, hcs⟩ := List.forall_mem_cons.mp hcs
    have hbytes : bytes (c :: cs) = c.utf8Size + bytes cs := rfl
    obtain ⟨n', pos', h⟩ := ih hcs (r.push c) (by dsimp only [Read.push]; omega) (after c pos)
      (Nat.lt_of_succ_lt_succ hn)
    refine ⟨n', pos', ?_⟩
    unfold textBody
    dsimp only [List.cons_append]
    rw [if_neg hover, if_neg (fun h => Bool.false_ne_true h.1),
      if_neg (show ¬ c = TextStyle.double.quote from hquote), if_neg (fun h => hreturn h.1),
      if_neg (fun h => hslash h.1), if_neg (fun h => hline h.1),
      if_neg (fun h => Nat.not_lt_zero _ h.2)]
    rw [List.reverse_cons, List.append_assoc]
    exact h

theorem token_text {cs : List Char} (hcs : ∀ c ∈ cs, Quotable c) {d : Char} (hd : d ≠ '"')
    {limit : Nat} (hlimit : limit = 0 ∨ bytes cs ≤ limit) (nesting : Nesting) (operand : Bool)
    (ds : List Char) (pos : Pos) :
    ∃ pos', token limit nesting operand ⟨'"' :: (cs ++ '"' :: d :: ds), pos⟩ =
      (⟨.text (String.ofList cs), pos⟩, ⟨d :: ds, pos'⟩, nesting) := by
  have hlength : cs.length < (cs ++ '"' :: d :: ds).length + 1 := by
    rw [List.length_append]
    omega
  obtain ⟨n, pos', h⟩ := textBody_quotable hcs hd {} (by simpa using hlimit) pos ds (after '"' pos)
    hlength
  refine ⟨pos', ?_⟩
  have htext : text .double limit pos ⟨cs ++ '"' :: d :: ds, after '"' pos⟩ =
      .ok (String.ofList cs, .closed, ⟨d :: ds, pos'⟩) := by
    unfold text
    rw [h]
    simp [Except.map, Read.text]
  unfold token
  dsimp only
  have hnegative : seesNegative ⟨'"' :: (cs ++ '"' :: d :: ds), pos⟩ = false := rfl
  rw [hnegative, Bool.and_false, if_neg Bool.false_ne_true, if_neg (by decide), if_neg (by decide),
    if_pos rfl]
  unfold quoted
  rw [show advance ⟨'"' :: (cs ++ '"' :: d :: ds), pos⟩ =
    ⟨cs ++ '"' :: d :: ds, after '"' pos⟩ from rfl, htext]

theorem symbol_semicolon (cs : List Char) (pos : Pos) :
    symbol ⟨';' :: cs, pos⟩ = (.mark ";", ⟨cs, after ';' pos⟩) := rfl

theorem token_semicolon (limit : Nat) (nesting : Nesting) (operand : Bool) (cs : List Char)
    (pos : Pos) : token limit nesting operand ⟨';' :: cs, pos⟩ =
      (⟨.mark ";", pos⟩, ⟨cs, after ';' pos⟩, nesting) := by
  have hnegative : seesNegative ⟨';' :: cs, pos⟩ = false := rfl
  have hquotes : sees ⟨';' :: cs, pos⟩ "''" = false := rfl
  unfold token
  dsimp only
  rw [hnegative, hquotes, Bool.and_false, if_neg Bool.false_ne_true, if_neg (by decide),
    if_neg (by decide), if_neg (by decide), if_neg Bool.false_ne_true, if_neg (by decide),
    if_neg (by decide), symbol_semicolon]
  rfl

/-! ### put together -/

theorem mem_reservedWords_of_keyword : ∀ s ∈ Token.keywords, s ∈ reservedWords := by decide

theorem ofWord_keyword {s : String} (h : s ∈ Token.keywords) : Token.ofWord s.toList = .mark s := by
  unfold Token.ofWord
  dsimp only
  rw [String.ofList_toList, if_pos (List.contains_iff_mem.mpr h)]

theorem ofWord_identifier {cs : List Char} (h : isIdentifier (String.ofList cs) = true) :
    Token.ofWord cs = .name (String.ofList cs) := by
  obtain ⟨hshape, hreserved⟩ := Bool.and_eq_true_iff.mp h
  rw [Bool.not_eq_true'] at hreserved
  rw [String.toList_ofList] at hshape
  have hkeyword : Token.keywords.contains (String.ofList cs) = false := by
    rw [List.contains_eq_mem, decide_eq_false_iff_not] at hreserved ⊢
    exact fun hm => hreserved (mem_reservedWords_of_keyword _ hm)
  unfold Token.ofWord
  dsimp only
  rw [hkeyword, hreserved, hshape]
  rfl

theorem startsWord_identifier {c : Char} {cs : List Char}
    (h : isIdentifier (String.ofList (c :: cs)) = true) : startsWord c = true := by
  obtain ⟨hshape, -⟩ := Bool.and_eq_true_iff.mp h
  rw [String.toList_ofList, hasWordShape, List.dropWhile_cons] at hshape
  rw [startsWord, Bool.or_eq_true]
  by_cases hc : (c == '_') = true
  · exact .inr hc
  · rw [if_neg hc] at hshape
    exact .inl (Bool.and_eq_true_iff.mp hshape).1

/-- Wherever the text stands, it starts with the tokens, and cutting goes on with the rest of it. -/
def Cuts (limit : Nat) (operand : Bool) (cs : List Char) (ts : List Token) (operand' : Bool)
    (rest : List Char) : Prop :=
  ∀ n pos, ∃ cut pos', cut.map (·.token) = ts ∧
    tokens limit (n + ts.length) [] operand ⟨cs, pos⟩ = cut ++ tokens limit n [] operand' ⟨rest, pos'⟩

section
variable {limit : Nat} {operand operand' operand'' : Bool} {as bs cs : List Char}

theorem Cuts.trans {ts us : List Token} (h : Cuts limit operand as ts operand' bs)
    (h' : Cuts limit operand' bs us operand'' cs) : Cuts limit operand as (ts ++ us) operand'' cs := by
  intro n pos
  obtain ⟨cut, p, hts, hcut⟩ := h (n + us.length) pos
  obtain ⟨cut', q, hus, hcut'⟩ := h' n p
  refine ⟨cut ++ cut', q, by rw [List.map_append, hts, hus], ?_⟩
  rw [List.length_append, Nat.add_comm ts.length, ← Nat.add_assoc, hcut, hcut', List.append_assoc]

/-- a blank in front of a token -/
theorem Cuts.blank {c : Char} {t : Token} (h : Cuts limit operand (c :: cs) [t] operand' bs)
    (hc : isSeparator c = false) (hslash : c ≠ '/') :
    Cuts limit operand (' ' :: c :: cs) [t] operand' bs := by
  intro n pos
  obtain ⟨cut, p, ht, hcut⟩ := h n (after ' ' pos)
  refine ⟨cut, p, ht, ?_⟩
  rw [← hcut]
  show tokens limit (n + 1) [] operand _ = tokens limit (n + 1) [] operand _
  rw [tokens_succ, tokens_succ, skipBlanks_separator (by decide), skipBlanks_self hc hslash,
    skipBlanks_self hc hslash]

/-- one token without blanks in front of it -/
theorem cuts_token {c : Char} {t : Token} (ht : Inside t) (hc : isSeparator c = false)
    (hslash : c ≠ '/')
    (h : ∀ pos, ∃ pos', token limit [] operand ⟨c :: cs, pos⟩ = (⟨t, pos⟩, ⟨bs, pos'⟩, [])) :
    Cuts limit operand (c :: cs) [t] t.precedesOperand bs := by
  intro n pos
  obtain ⟨pos', h⟩ := h pos
  refine ⟨[⟨t, pos⟩], pos', rfl, tokens_cons ?_ ht n⟩
  rw [skipBlanks_self hc hslash]
  exact h

theorem cuts_word {c : Char} (hc : startsWord c = true) (hcs : ∀ c ∈ cs, isWordChar c = true)
    {d : Char} (hd : isWordChar d = false) {t : Token} (ht : Inside t)
    (hword : Token.ofWord (c :: cs) = t) (ds : List Char) :
    Cuts limit operand (c :: cs ++ d :: ds) [t] t.precedesOperand (d :: ds) :=
  cuts_token ht (isSeparator_of_isWordChar (isWordChar_of_startsWord hc))
    (ne_slash_of_isWordChar (isWordChar_of_startsWord hc))
    fun pos => hword ▸ token_word hc hcs hd limit [] operand ds pos

/-- **What an import statement is cut into**; an operand may follow it, as at the very start. -/
theorem cuts_statement (hspace : ∀ c ∈ cs, Quotable c) (hlimit : limit = 0 ∨ bytes cs ≤ limit)
    (halias : isIdentifier (String.ofList (Import.shortName cs)) = true) (rest : List Char) :
    Cuts limit true (Import.statement cs ++ rest)
      [.mark "import", .text (String.ofList cs), .mark "as",
        .name (String.ofList (Import.shortName cs)), .mark ";"] true rest := by
  have hword := isWordChar_of_isIdentifier halias
  obtain ⟨c, ds, hshort⟩ := List.exists_cons_of_ne_nil (ne_nil_of_isIdentifier halias)
  rw [String.toList_ofList] at hword hshort
  have hname := ofWord_identifier halias
  rw [hshort] at halias hword hname ⊢
  have hc := startsWord_identifier halias
  have called : Cuts limit false (c :: ds ++ ';' :: rest) [.name (String.ofList (c :: ds))] false
      (';' :: rest) :=
    cuts_word hc (List.forall_mem_cons.mp hword).2 (d := ';') (by decide)
      (t := .name (String.ofList (c :: ds))) ⟨nofun, nofun, nofun⟩ hname rest
  have semicolon : Cuts limit false (';' :: rest) [.mark ";"] true rest :=
    cuts_token ⟨nofun, nofun, by simp⟩ (by decide) (by decide)
      fun pos => ⟨_, token_semicolon limit [] false rest pos⟩
  have keyword : Cuts limit false ('a' :: ['s'] ++ ' ' :: (c :: ds ++ ';' :: rest)) [.mark "as"] false
      (' ' :: (c :: ds ++ ';' :: rest)) :=
    cuts_word (by decide) (List.all_eq_true.mp (by decide)) (by decide) (t := .mark "as")
      ⟨nofun, nofun, by simp⟩ (ofWord_keyword (s := "as") (by decide)) _
  have path : Cuts limit false
      ('"' :: (cs ++ '"' :: ' ' :: ('a' :: ['s'] ++ ' ' :: (c :: ds ++ ';' :: rest))))
      [.text (String.ofList cs)] false (' ' :: ('a' :: ['s'] ++ ' ' :: (c :: ds ++ ';' :: rest))) :=
    cuts_token ⟨nofun, nofun, nofun⟩ (by decide) (by decide)
      fun pos => token_text hspace (by decide) hlimit [] false _ pos
  have start : Cuts limit true ('i' :: ['m', 'p', 'o', 'r', 't'] ++
      ' ' :: '"' :: (cs ++ '"' :: ' ' :: ('a' :: ['s'] ++ ' ' :: (c :: ds ++ ';' :: rest))))
      [.mark "import"] false
      (' ' :: '"' :: (cs ++ '"' :: ' ' :: ('a' :: ['s'] ++ ' ' :: (c :: ds ++ ';' :: rest)))) :=
    cuts_word (by decide) (List.all_eq_true.mp (by decide)) (by decide) (t := .mark "import")
      ⟨nofun, nofun, by simp⟩ (ofWord_keyword (s := "import") (by decide)) _
  have hall := start.trans ((path.blank (by decide) (by decide)).trans
    ((keyword.blank (by decide) (by decide)).trans ((called.blank
      (isSeparator_of_isWordChar (isWordChar_of_startsWord hc))
      (ne_slash_of_isWordChar (isWordChar_of_startsWord hc))).trans semicolon)))
  have hform : Import.statement cs ++ rest = 'i' :: ['m', 'p', 'o', 'r', 't'] ++
      ' ' :: '"' :: (cs ++ '"' :: ' ' :: ('a' :: ['s'] ++ ' ' :: (c :: ds ++ ';' :: rest))) := by
    have hstatement : Import.statement cs = ['i', 'm', 'p', 'o', 'r', 't', ' ', '"'] ++ cs ++
        ['"', ' ', 'a', 's', ' '] ++ (c :: ds) ++ [';'] := by
      rw [← hshort]
      rfl
    rw [hstatement]
    simp only [List.append_assoc, List.cons_append, List.nil_append]
  rw [hform]
  exact hall

end

/-! ## a text behind an import statement -/

theorem length_statement (space : List Char) : 5 ≤ (Import.statement space).length := by
  have hstart : "import \"".toList.length = 8 := rfl
  unfold Import.statement
  simp only [List.length_append]
  omega

/-- the end of a line between tokens -/
theorem tokens_line (limit n : Nat) (nesting : Nesting) (operand : Bool) (cs : List Char)
    (pos : Pos) : tokens limit (n + 1) nesting operand ⟨'\n' :: cs, pos⟩ =
      tokens limit (n + 1) nesting operand ⟨cs, ⟨pos.line + 1, 1⟩⟩ := by
  rw [tokens_succ, tokens_succ]
  dsimp only [List.length_cons]
  rw [skipBlanks_separator (by decide)]
  rfl

theorem scan_eq (limit : Nat) (cs : List Char) :
    scan limit (String.ofList cs) = tokens limit (cs.length + 1) [] true ⟨cs, ⟨1, 1⟩⟩ := by
  rw [scan, start, String.length_ofList, String.toList_ofList]

/-- **A line that imports a namespace** is cut by itself: its tokens come first, and those of the
text behind it are the same as without it. -/
theorem scan_statement {limit : Nat} {space : List Char} (hspace : ∀ c ∈ space, Quotable c)
    (hlimit : limit = 0 ∨ bytes space ≤ limit)
    (halias : isIdentifier (String.ofList (Import.shortName space)) = true) (cs : List Char) :
    (scan limit (String.ofList (Import.statement space ++ '\n' :: cs))).map (·.token) =
      [.mark "import", .text (String.ofList space), .mark "as",
        .name (String.ofList (Import.shortName space)), .mark ";"] ++
      (scan limit (String.ofList cs)).map (·.token) := by
  have hlength : 5 ≤ (Import.statement space).length := length_statement space
  obtain ⟨n, hn⟩ : ∃ n, (Import.statement space ++ '\n' :: cs).length = cs.length + n + 5 :=
    ⟨(Import.statement space).length - 4, by rw [List.length_append, List.length_cons]; omega⟩
  obtain ⟨cut, pos, hcut, h⟩ :=
    cuts_statement hspace hlimit halias ('\n' :: cs) (cs.length + n + 1) ⟨1, 1⟩
  have hbehind : (tokens limit (cs.length + n + 1) [] true ⟨'\n' :: cs, pos⟩).map (·.token) =
      (tokens limit (cs.length + 1) [] true ⟨cs, ⟨1, 1⟩⟩).map (·.token) := by
    have henough : tokens limit (cs.length + n + 1) [] true ⟨cs, ⟨pos.line + 1, 1⟩⟩ =
        tokens limit (cs.length + 1) [] true ⟨cs, ⟨pos.line + 1, 1⟩⟩ :=
      tokens_enough limit [] true (Nat.lt_succ_of_le (Nat.le_add_right ..)) (Nat.lt_succ_self _)
    rw [tokens_line, henough]
    exact level_tokens limit _ [] true (.mk cs rfl)
  rw [scan_eq, scan_eq, hn, show cs.length + n + 5 + 1 = cs.length + n + 1 + 5 by omega]
  refine (congrArg (List.map (·.token)) h).trans ?_
  rw [List.map_append, hcut, hbehind]

end Lexer

end Scripting.Script
