import Mathlib.Data.List.DropRight
import Mathlib.Data.List.Induction
import Scripting.Text.Blank
import Scripting.Text.Split

/-!
# Lines, and the blanks around a text

* `chunks_append`   a text that is empty or ends in a line feed is cut by itself, whatever follows;
* `chunks_line`     a line with its line feed is one piece, and so is a last line without one;
* `lines_induction` what is to be shown of all texts may be shown line by line;
* `trimEnd_append`  trimming at the end reaches no further than the last character that is no blank;
* `trim_eq_self`    a text without blanks is trimmed already;
* `exists_trim`     what is trimmed is blank, and `trim_blanks`, blanks around a text do not matter;
* `trim_stripLineEnd`   so a line may be trimmed with its end or without it.
-/

namespace Scripting.Text

/-! ## lines -/

/-- a text that is empty or ends in a line feed -/
def EndsLine (cs : List Char) : Prop := ∀ c ∈ cs.getLast?, c = '\n'

instance (cs : List Char) : Decidable (EndsLine cs) :=
  decidable_of_iff (cs.getLast?.all (· == '\n') = true) (by simp [EndsLine, Option.all_eq_true])

theorem endsLine_nil : EndsLine [] := fun _ h => nomatch h

theorem endsLine_concat (cs : List Char) : EndsLine (cs ++ ['\n']) := by
  intro c h
  rw [List.getLast?_concat] at h
  exact (Option.some_inj.mp h).symm

theorem EndsLine.tail {c : Char} {cs : List Char} (h : EndsLine (c :: cs)) : EndsLine cs := by
  cases cs with
  | nil => exact endsLine_nil
  | cons d ds => exact h

theorem chunks_ne_nil {cs : List Char} (h : cs ≠ []) : chunks cs ≠ [] := by
  intro hn
  have hf := chunks_flatten cs
  rw [hn] at hf
  exact h hf.symm

theorem chunks_cons {c : Char} (hc : c ≠ '\n') {cs : List Char} (hcs : cs ≠ []) :
    chunks (c :: cs) = (chunks cs).modifyHead (c :: ·) := by
  rw [chunks, if_neg hc]
  cases h : chunks cs with
  | nil => exact absurd h (chunks_ne_nil hcs)
  | cons chunk rest => rfl

/-- what follows a line feed is cut by itself -/
theorem chunks_append {a : List Char} (h : EndsLine a) (b : List Char) :
    chunks (a ++ b) = chunks a ++ chunks b := by
  induction a with
  | nil => rfl
  | cons c cs ih =>
    by_cases hc : c = '\n'
    · subst hc
      rw [List.cons_append, chunks_lf, chunks_lf, ih h.tail, List.cons_append]
    · have hcs : cs ≠ [] := by
        rintro rfl
        exact hc (h c rfl)
      rw [List.cons_append, chunks_cons hc (by simp [hcs]), chunks_cons hc hcs, ih h.tail]
      cases hk : chunks cs with
      | nil => exact absurd hk (chunks_ne_nil hcs)
      | cons chunk rest => rfl

theorem chunks_line {line : List Char} (h : '\n' ∉ line) :
    chunks (line ++ ['\n']) = [line ++ ['\n']] := by
  induction line with
  | nil => rfl
  | cons c cs ih =>
    rw [List.mem_cons, not_or] at h
    rw [List.cons_append, chunks_cons (Ne.symm h.1) (by simp), ih h.2]
    rfl

theorem chunks_last {line : List Char} (h : '\n' ∉ line) (hne : line ≠ []) :
    chunks line = [line] := by
  induction line with
  | nil => exact absurd rfl hne
  | cons c cs ih =>
    rw [List.mem_cons, not_or] at h
    cases cs with
    | nil => rw [chunks, if_neg (Ne.symm h.1)]; rfl
    | cons d ds =>
      rw [chunks_cons (Ne.symm h.1) (List.cons_ne_nil d ds), ih h.2 (List.cons_ne_nil d ds)]
      rfl

/-- a text is empty, or a last line, or a line with its line feed and a text behind it -/
theorem lines_induction {P : List Char → Prop} (nil : P [])
    (last : ∀ line, '\n' ∉ line → line ≠ [] → P line)
    (line : ∀ line rest, '\n' ∉ line → P rest → P (line ++ ['\n'] ++ rest)) (cs : List Char) :
    P cs := by
  -- the first line is collected before it is known to be the last one or not
  suffices h : ∀ before, '\n' ∉ before → P (before ++ cs) from h [] List.not_mem_nil
  induction cs with
  | nil =>
    intro before hb
    rw [List.append_nil]
    by_cases hn : before = []
    · rw [hn]
      exact nil
    · exact last before hb hn
  | cons c cs ih =>
    intro before hb
    by_cases hc : c = '\n'
    · subst hc
      have hrest := line before cs hb (ih [] List.not_mem_nil)
      rwa [List.append_assoc] at hrest
    · have hlonger : '\n' ∉ before ++ [c] := by
        rw [List.mem_append, List.mem_singleton, not_or]
        exact ⟨hb, Ne.symm hc⟩
      have hnext := ih (before ++ [c]) hlonger
      rwa [List.append_assoc] at hnext

/-! ## blanks -/

/-- a text of nothing but blanks -/
def Blank (cs : List Char) : Prop := ∀ c ∈ cs, isBlank c = true

-- character by character: a search for an instance may go through all characters there are
instance (cs : List Char) : Decidable (Blank cs) :=
  decidable_of_iff (cs.all isBlank = true) List.all_eq_true

theorem Blank.append {a b : List Char} (ha : Blank a) (hb : Blank b) : Blank (a ++ b) := by
  intro c hc
  rcases List.mem_append.mp hc with h | h
  · exact ha c h
  · exact hb c h

theorem blank_nil : Blank [] := fun _ h => nomatch h

theorem trimEnd_append {b : List Char} (a : List Char) (h : trimEnd b ≠ []) :
    trimEnd (a ++ b) = a ++ trimEnd b := by
  induction a with
  | nil => rfl
  | cons c cs ih =>
    rw [List.cons_append, trimEnd, ih]
    cases hn : cs ++ trimEnd b with
    | nil => exact absurd (List.append_eq_nil_iff.mp hn).2 h
    | cons d ds => rw [List.cons_append, hn]

theorem trimEnd_eq_self {cs : List Char} (h : ∀ c ∈ cs, isBlank c = false) : trimEnd cs = cs := by
  induction cs with
  | nil => rfl
  | cons c cs ih =>
    rw [trimEnd, ih fun d hd => h d (List.mem_cons_of_mem c hd)]
    cases cs with
    | nil => rw [h c List.mem_cons_self]; rfl
    | cons d ds => rfl

theorem trimStart_of_not_isBlank {c : Char} (h : isBlank c = false) (cs : List Char) :
    trimStart (c :: cs) = c :: cs := by
  rw [trimStart_cons, h]
  rfl

theorem trimEnd_eq_nil {cs : List Char} (h : Blank cs) : trimEnd cs = [] := by
  induction cs with
  | nil => rfl
  | cons c cs ih =>
    rw [trimEnd, ih fun d hd => h d (List.mem_cons_of_mem c hd)]
    dsimp only
    rw [if_pos (h c List.mem_cons_self)]

theorem trimEnd_blanks (cs : List Char) {after : List Char} (h : Blank after) :
    trimEnd (cs ++ after) = trimEnd cs := by
  induction cs with
  | nil => exact trimEnd_eq_nil h
  | cons c cs ih => rw [List.cons_append, trimEnd, trimEnd, ih]

/-- trimming at the end drops the blanks there -/
theorem trimEnd_eq (cs : List Char) : trimEnd cs = cs.rdropWhile isBlank := by
  induction cs using List.reverseRecOn with
  | nil => rfl
  | append_singleton cs c ih =>
    by_cases hc : isBlank c = true
    · rw [trimEnd_blanks cs (List.forall_mem_singleton.mpr hc), ih,
        List.rdropWhile_concat_pos isBlank cs c hc]
    · have hlast : trimEnd [c] = [c] := if_neg hc
      have hne : trimEnd [c] ≠ [] := by
        rw [hlast]
        exact List.cons_ne_nil c []
      rw [trimEnd_append cs hne, hlast,
        List.rdropWhile_concat_neg isBlank cs c hc]

theorem trimEnd_ne_nil {cs : List Char} {c : Char} (hc : c ∈ cs) (h : isBlank c = false) :
    trimEnd cs ≠ [] := by
  rw [trimEnd_eq]
  intro hn
  have hblank := List.rdropWhile_eq_nil_iff.mp hn c hc
  rw [h] at hblank
  cases hblank

theorem exists_trim (cs : List Char) :
    ∃ before after, Blank before ∧ Blank after ∧ cs = before ++ trim cs ++ after := by
  refine ⟨cs.takeWhile isBlank, (trimStart cs).rtakeWhile isBlank,
    fun c hc => List.all_eq_true.mp List.all_takeWhile c hc,
    fun c hc => List.mem_rtakeWhile_imp hc, ?_⟩
  rw [List.append_assoc, trim, trimEnd_eq, List.rdropWhile_append_rtakeWhile, trimStart,
    List.takeWhile_append_dropWhile]

theorem trimStart_blanks {before : List Char} (h : Blank before) (cs : List Char) :
    trimStart (before ++ cs) = trimStart cs := by
  induction before with
  | nil => rfl
  | cons c before ih =>
    rw [List.cons_append, trimStart_cons, if_pos (h c List.mem_cons_self),
      ih fun d hd => h d (List.mem_cons_of_mem c hd)]

theorem trim_blanks {before after : List Char} (hb : Blank before) (ha : Blank after)
    (cs : List Char) : trim (before ++ cs ++ after) = trim cs := by
  rw [List.append_assoc, trim, trimStart_blanks hb]
  induction cs with
  | nil =>
    have hnil := trimStart_blanks ha []
    rw [List.append_nil] at hnil
    rw [List.nil_append, hnil]
    rfl
  | cons c cs ih =>
    rw [List.cons_append, trimStart_cons]
    by_cases hc : isBlank c = true
    · rw [if_pos hc, ih, trim, trim, trimStart_cons, if_pos hc]
    · rw [if_neg hc, trim, trimStart_cons, if_neg hc, ← List.cons_append, trimEnd_blanks _ ha]

/-- the end of a line is blank, so it is trimmed with or without it -/
theorem trim_stripLineEnd (chunk : List Char) : trim (stripLineEnd chunk) = trim chunk := by
  have hend : ∃ after, Blank after ∧ chunk = stripLineEnd chunk ++ after := by
    unfold stripLineEnd
    split
    · rename_i cs h
      refine ⟨['\r', '\n'], by decide, ?_⟩
      rw [List.reverse_eq_iff.mp h]
      simp
    · rename_i cs _ h
      refine ⟨['\n'], by decide, ?_⟩
      rw [List.reverse_eq_iff.mp h]
      simp
    · exact ⟨[], blank_nil, (List.append_nil _).symm⟩
  obtain ⟨after, hafter, hchunk⟩ := hend
  have htrim := trim_blanks blank_nil hafter (stripLineEnd chunk)
  rw [List.nil_append, ← hchunk] at htrim
  exact htrim.symm

theorem trim_eq_self {cs : List Char} (h : ∀ c ∈ cs, isBlank c = false) : trim cs = cs := by
  cases cs with
  | nil => rfl
  | cons c cs =>
    rw [trim, trimStart_of_not_isBlank (h c List.mem_cons_self), trimEnd_eq_self h]

end Scripting.Text
