import Scripting.Text.Split

/-!
# Cutting a text and joining it again

`Text.splitOn` is the cut that lists of any kind have (`splitOn_eq`), so it has the laws of that
cut: `splitOn_mid`, `splitOn_eq_singleton` and `splitOn_inj` are three of them.  `length_splitOn`
counts the pieces.  The pieces that are not empty are cut and joined in the same way
(`segmentsOn_mid`, `segmentsOn_intercalate`).

A cut at a word yields two texts which, with the word between them, are the text that was cut
(`eq_of_splitFirst?`); `splitFirst?_append` says where it is cut, and `exists_splitFirst?` that it is
cut wherever the word stands, and not behind that.  So a text is cut exactly at the first occurrence
of the word (`splitFirst?_eq_some_iff`), if there is any (`splitFirst?_eq_none_iff`).
-/

namespace Scripting.Text

section
variable (sep : Char)

theorem splitOn_cons (c : Char) (cs : List Char) :
    splitOn sep (c :: cs) =
      if c = sep then [] :: splitOn sep cs else (splitOn sep cs).modifyHead (c :: ·) := by
  rw [splitOn]
  split
  · rename_i h
    exact absurd h (splitOn_ne_nil sep cs)
  · rename_i h
    rw [h]
    rfl

theorem splitOn_eq (cs : List Char) : splitOn sep cs = cs.splitOn sep := by
  induction cs with
  | nil => rfl
  | cons c cs ih =>
    rw [splitOn_cons, ih, List.splitOn_cons_eq_if_modifyHead]
    simp only [beq_iff_eq]

/-- what stands before and behind a separator is cut by itself -/
theorem splitOn_mid (a b : List Char) :
    splitOn sep (a ++ sep :: b) = splitOn sep a ++ splitOn sep b := by
  simp only [splitOn_eq]
  exact List.splitOn_append_cons_self a b

theorem splitOn_eq_singleton {cs : List Char} (h : sep ∉ cs) : splitOn sep cs = [cs] := by
  rw [splitOn_eq]
  exact List.splitOn_eq_singleton h

theorem splitOn_inj {a b : List Char} (h : splitOn sep a = splitOn sep b) : a = b := by
  have hj := congrArg [sep].intercalate h
  rwa [splitOn_eq, splitOn_eq, List.intercalate_splitOn, List.intercalate_splitOn] at hj

theorem length_splitOn (cs : List Char) : (splitOn sep cs).length = cs.count sep + 1 := by
  induction cs with
  | nil => rfl
  | cons c cs ih =>
    by_cases h : c = sep
    · subst h
      rw [splitOn_cons_self, List.length_cons, ih, List.count_cons_self]
    · rw [splitOn_cons, if_neg h, List.length_modifyHead, ih, List.count_cons_of_ne h]

theorem not_mem_of_mem_splitOn {cs piece : List Char} (h : piece ∈ splitOn sep cs) :
    sep ∉ piece := by
  induction cs generalizing piece with
  | nil =>
    obtain rfl := List.mem_singleton.mp h
    exact List.not_mem_nil
  | cons c cs ih =>
    rw [splitOn_cons] at h
    split at h
    · rcases List.mem_cons.mp h with rfl | h
      · exact List.not_mem_nil
      · exact ih h
    · rename_i hc
      obtain ⟨first, rest, hcut⟩ := List.exists_cons_of_ne_nil (splitOn_ne_nil sep cs)
      rw [hcut] at ih h
      rcases List.mem_cons.mp h with rfl | h
      · rw [List.mem_cons, not_or]
        exact ⟨Ne.symm hc, ih List.mem_cons_self⟩
      · exact ih (List.mem_cons_of_mem first h)

/-! ## pieces that are not empty -/

theorem segmentsOn_mid (a b : List Char) :
    segmentsOn sep (a ++ sep :: b) = segmentsOn sep a ++ segmentsOn sep b := by
  rw [segmentsOn, splitOn_mid, List.filter_append]
  rfl

theorem mem_segmentsOn {cs piece : List Char} (h : piece ∈ segmentsOn sep cs) :
    piece ≠ [] ∧ sep ∉ piece := by
  obtain ⟨hmem, hne⟩ := List.mem_filter.mp h
  exact ⟨by simpa using hne, not_mem_of_mem_splitOn sep hmem⟩

/-- pieces that are not empty and hold no separator come back -/
theorem segmentsOn_intercalate {ws : List (List Char)} (h : ∀ w ∈ ws, w ≠ [] ∧ sep ∉ w) :
    segmentsOn sep ([sep].intercalate ws) = ws := by
  by_cases hne : ws = []
  · rw [hne]
    rfl
  · rw [segmentsOn, splitOn_eq, List.splitOn_intercalate sep (fun w hw => (h w hw).2) hne]
    exact List.filter_eq_self.mpr fun w hw => by simpa using (h w hw).1

end

/-! ## words -/

theorem eq_of_dropWord? {word cs rest : List Char} (h : dropWord? word cs = some rest) :
    cs = word ++ rest := by
  induction word generalizing cs with
  | nil => exact Option.some_inj.mp h
  | cons w ws ih =>
    cases cs with
    | nil => cases h
    | cons c cs =>
      rw [dropWord?] at h
      split at h
      · rename_i hw
        rw [hw, ih h]
        rfl
      · cases h

theorem dropWord?_append (word rest : List Char) : dropWord? word (word ++ rest) = some rest := by
  induction word with
  | nil => rfl
  | cons w ws ih => rw [List.cons_append, dropWord?, if_pos rfl, ih]

theorem eq_of_splitFirst? {word cs a b : List Char} (h : splitFirst? word cs = some (a, b)) :
    cs = a ++ word ++ b := by
  induction cs generalizing a with
  | nil =>
    rw [splitFirst?] at h
    split at h
    · rename_i hw
      cases h
      rw [List.isEmpty_iff.mp hw]
      rfl
    · cases h
  | cons c cs ih =>
    rw [splitFirst?] at h
    split at h
    · rename_i hd
      cases h
      exact eq_of_dropWord? hd
    · obtain ⟨⟨a, b⟩, hs, hp⟩ := Option.map_eq_some_iff.mp h
      cases hp
      rw [ih hs]
      rfl

/-- a text that begins with a word is cut at its front -/
theorem splitFirst?_of_dropWord? {word cs rest : List Char} (h : dropWord? word cs = some rest) :
    splitFirst? word cs = some ([], rest) := by
  cases cs with
  | nil =>
    cases word with
    | nil => rw [← Option.some_inj.mp h]; rfl
    | cons w ws => cases h
  | cons c cs => rw [splitFirst?, h]

theorem exists_splitFirst? (word a b : List Char) :
    ∃ a' b', splitFirst? word (a ++ word ++ b) = some (a', b') ∧ a'.length ≤ a.length := by
  induction a with
  | nil =>
    rw [List.nil_append, splitFirst?_of_dropWord? (dropWord?_append word b)]
    exact ⟨[], b, rfl, Nat.le_refl _⟩
  | cons c a ih =>
    obtain ⟨a', b', hs, hlen⟩ := ih
    rw [List.cons_append, List.cons_append]
    cases hd : dropWord? word (c :: (a ++ word ++ b)) with
    | some rest =>
      rw [splitFirst?_of_dropWord? hd]
      exact ⟨[], rest, rfl, Nat.zero_le _⟩
    | none =>
      rw [splitFirst?, hd, hs]
      exact ⟨c :: a', b', rfl, Nat.succ_le_succ hlen⟩

/-- a text and what stands before and behind the first `word` in it -/
structure CutFirst (word cs a b : List Char) : Prop where
  spelled : cs = a ++ word ++ b
  first : ∀ a' b', cs = a' ++ word ++ b' → a.length ≤ a'.length

theorem splitFirst?_eq_some_iff {word cs a b : List Char} :
    splitFirst? word cs = some (a, b) ↔ CutFirst word cs a b := by
  constructor
  · intro h
    refine ⟨eq_of_splitFirst? h, fun a' b' hcs => ?_⟩
    obtain ⟨c, d, hcut, hlen⟩ := exists_splitFirst? word a' b'
    rw [← hcs, h] at hcut
    obtain ⟨rfl, rfl⟩ := Prod.mk.inj (Option.some_inj.mp hcut)
    exact hlen
  · rintro ⟨rfl, hfirst⟩
    obtain ⟨c, d, hcut, hlen⟩ := exists_splitFirst? word a b
    have hcs := eq_of_splitFirst? hcut
    have hsame : a.length = c.length := Nat.le_antisymm (hfirst c d hcs) hlen
    rw [List.append_assoc, List.append_assoc] at hcs
    obtain ⟨rfl, hrest⟩ := List.append_inj hcs hsame
    rw [hcut, List.append_cancel_left hrest]

theorem splitFirst?_eq_none_iff {word cs : List Char} :
    splitFirst? word cs = none ↔ ¬ word <:+: cs := by
  constructor
  · rintro h ⟨a, b, rfl⟩
    obtain ⟨c, d, hcut, -⟩ := exists_splitFirst? word a b
    rw [h] at hcut
    cases hcut
  · intro h
    cases hcut : splitFirst? word cs with
    | none => rfl
    | some p => exact absurd ⟨p.1, p.2, (eq_of_splitFirst? hcut).symm⟩ h

section
variable {w : Char} {cs : List Char} (h : w ∉ cs)
include h

/-- a text without the first character of a word is not cut at the word -/
theorem splitFirst?_eq_none (ws : List Char) : splitFirst? (w :: ws) cs = none := by
  induction cs with
  | nil => rfl
  | cons c cs ih =>
    rw [List.mem_cons, not_or] at h
    rw [splitFirst?, dropWord?, if_neg h.1, ih h.2]
    rfl

/-- with the word behind it, it is cut there -/
theorem splitFirst?_append (ws rest : List Char) :
    splitFirst? (w :: ws) (cs ++ (w :: ws ++ rest)) = some (cs, rest) := by
  induction cs with
  | nil =>
    rw [List.nil_append, List.cons_append, splitFirst?, ← List.cons_append, dropWord?_append]
  | cons c cs ih =>
    rw [List.mem_cons, not_or] at h
    rw [List.cons_append, splitFirst?, dropWord?, if_neg h.1, ih h.2]
    rfl

end

end Scripting.Text
