import Scripting.Json.Lexeme
import Scripting.Proofs.Json.Grammar

/-!
# Moving over a document

What a reader does depends on the rest of the document alone; line and column only say where faults
are.  So readers are described by the text that they take and by the rest that they leave.

* `Leaves`, `Reads`   a cursor, or a value and a cursor, with the rest that is left;
* `rest_advance`, `rest_skipBlanks`   the two moves that all readers are made of;
* `leaves_word`       the rest of a word.
-/

namespace Scripting.Json

open Text (isDigit)

/-- passing succeeds, and `rest` is left -/
def Leaves (r : Except Fault Cursor) (rest : List Char) : Prop := ∃ c, r = .ok c ∧ c.rest = rest

/-- reading succeeds with `a`, and `rest` is left -/
def Reads {α : Type} (r : Except Fault (α × Cursor)) (a : α) (rest : List Char) : Prop :=
  ∃ c, r = .ok (a, c) ∧ c.rest = rest

theorem ok_bind {α β : Type} (a : α) (f : α → Except Fault β) : (Except.ok a >>= f) = f a := rfl

theorem bind_eq_ok {α β : Type} {r : Except Fault α} {f : α → Except Fault β} {b : β} :
    (r >>= f) = .ok b ↔ ∃ a, r = .ok a ∧ f a = .ok b := by
  cases r with
  | error e =>
    constructor
    · intro h
      cases h
    · rintro ⟨a, h, -⟩
      cases h
  | ok a =>
    constructor
    · exact fun h => ⟨a, rfl, h⟩
    · rintro ⟨a', ha, h⟩
      exact Except.ok.inj ha ▸ h

/-- fuel for a list is fuel for its first element and for the others -/
theorem exists_fuel {α : Type} {a : α} {as : List α} {fuel : Nat} (h : (a :: as).length ≤ fuel) :
    ∃ n, fuel = n + 1 ∧ as.length ≤ n := by
  rw [List.length_cons] at h
  exact ⟨fuel - 1, by omega, by omega⟩

namespace Cursor

@[simp] theorem rest_advance (c : Cursor) : c.advance.rest = c.rest.tail := by
  obtain ⟨rest, line, col⟩ := c
  unfold advance
  split <;> simp_all

/-- the rest of a cursor is known from the text that it stands before -/
theorem rest_advance_of {c : Cursor} {d : Char} {rest : List Char} (h : c.rest = d :: rest) :
    c.advance.rest = rest := by
  rw [rest_advance, h, List.tail_cons]

theorem rest_skipBlanksFrom (cs : List Char) (line col : Nat) :
    (skipBlanksFrom cs line col).rest = cs.dropWhile isGap := by
  fun_induction skipBlanksFrom cs line col with
  | case1 => rfl
  | case2 cs line col ih => exact ih
  | case3 c cs line col _ hblank ih =>
    have hgap : isGap c = true := by
      simp only [Bool.or_eq_true, decide_eq_true_eq] at hblank
      rcases hblank with (rfl | rfl) | rfl <;> decide
    rw [ih, List.dropWhile_cons_of_pos hgap]
  | case4 c cs line col hlf hblank =>
    have hgap : ¬ isGap c = true := by
      simp only [Bool.or_eq_true, decide_eq_true_eq, not_or] at hblank
      simp only [isGap, Bool.or_eq_true, beq_iff_eq, not_or]
      exact ⟨⟨⟨hblank.1.1, hblank.1.2⟩, hlf⟩, hblank.2⟩
    rw [List.dropWhile_cons_of_neg hgap]

@[simp] theorem rest_skipBlanks (c : Cursor) : c.skipBlanks.rest = c.rest.dropWhile isGap :=
  rest_skipBlanksFrom ..

/-- blanks are passed up to the first character that is none -/
theorem rest_skipBlanks_of {c : Cursor} {gap rest : List Char} {d : Char} (hg : Gap gap)
    (hd : isGap d = false) (h : c.rest = gap ++ d :: rest) : c.skipBlanks.rest = d :: rest := by
  rw [rest_skipBlanks, h, List.dropWhile_append_of_pos hg, List.dropWhile_cons_of_neg]
  simp [hd]

theorem rest_skipBlanks_self {c : Cursor} {d : Char} {rest : List Char} (hd : isGap d = false)
    (h : c.rest = d :: rest) : c.skipBlanks.rest = d :: rest :=
  rest_skipBlanks_of gap_nil hd h

end Cursor

/-! ## what stands behind a value -/

theorem ends_cons {c : Char} {rest : List Char} (h : isGap c = true ∨ c ∈ [',', ']', '\x7d']) :
    Ends (c :: rest) := by
  intro d hd
  obtain rfl := Option.some_inj.mp hd
  exact h

/-- blanks may stand before what ends a value -/
theorem Ends.gap {gap rest : List Char} (hg : Gap gap) (h : Ends rest) : Ends (gap ++ rest) := by
  cases gap with
  | nil => exact h
  | cons c gap => exact ends_cons (.inl (hg c List.mem_cons_self))

/-- the first character, if there is one, is no part of a number -/
theorem Ends.not_number {rest : List Char} (h : Ends rest) :
    ∀ c ∈ rest.head?, isDigit c = false ∧ c ∉ ['.', 'e', 'E'] := by
  intro c hc
  have hend := h c hc
  simp only [isGap, Bool.or_eq_true, beq_iff_eq, List.mem_cons, List.not_mem_nil, or_false] at hend
  rcases hend with (((rfl | rfl) | rfl) | rfl) | rfl | rfl | rfl <;> decide

theorem leaves_word {ws rest : List Char} {c : Cursor} (h : c.rest = ws ++ rest) :
    Reads (word ws c) () rest := by
  induction ws generalizing c with
  | nil => exact ⟨c, rfl, h⟩
  | cons w ws ih =>
    rw [word, h]
    show Reads (if w = w then _ else _) () rest
    rw [if_pos rfl]
    exact ih (Cursor.rest_advance_of h)

end Scripting.Json
