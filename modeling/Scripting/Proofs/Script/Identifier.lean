import Scripting.Library.Space
import Scripting.Proofs.Text.Lines
import Scripting.Proofs.Text.Pieces
import Scripting.Script.Identifier
import Scripting.Script.Import

/-!
# Paths of identifiers

A namespace is spelled as identifiers with dots between them.  It is taken apart twice, and both
times the identifiers come back:

* `segments_dotted`    registered, it goes from node to node along its identifiers;
* `shortName_dotted`   imported, it is called by the last of them.
-/

namespace Scripting

open Text

/-! ## word characters -/

theorem not_isBlank_of_isWordChar {c : Char} (h : isWordChar c = true) : isBlank c = false := by
  simp only [isWordChar, isLetter, isDigit, Bool.or_eq_true, Bool.and_eq_true, decide_eq_true_eq,
    Char.le_def, UInt32.le_iff_toNat_le, beq_iff_eq] at h
  have hn : c.toNat = 95 ∨ 48 ≤ c.toNat ∧ c.toNat ≤ 57 ∨ 65 ≤ c.toNat ∧ c.toNat ≤ 90 ∨
      97 ≤ c.toNat ∧ c.toNat ≤ 122 := by
    rcases h with (h | h) | rfl
    · rcases h with h | h
      · exact .inr (.inr (.inr h))
      · exact .inr (.inr (.inl h))
    · exact .inr (.inl h)
    · exact .inl rfl
  simp only [isBlank, Bool.or_eq_false_iff, Bool.and_eq_false_iff, decide_eq_false_iff_not,
    beq_eq_false_iff_ne]
  omega

theorem dot_not_mem {cs : List Char} (h : ∀ c ∈ cs, isWordChar c = true) : '.' ∉ cs :=
  fun hm => absurd (h _ hm) (by decide)

theorem colon_not_mem {cs : List Char} (h : ∀ c ∈ cs, isWordChar c = true) : ':' ∉ cs :=
  fun hm => absurd (h _ hm) (by decide)

namespace Script

theorem isWordChar_of_isIdentifier {s : String} (h : isIdentifier s = true) :
    ∀ c ∈ s.toList, isWordChar c = true := by
  have hw : hasWordShape s.toList = true := (Bool.and_eq_true_iff.mp h).1
  rw [← List.takeWhile_append_dropWhile (p := (· == '_')) (l := s.toList)]
  unfold hasWordShape at hw
  intro c hc
  rcases List.mem_append.mp hc with hc | hc
  · obtain rfl : c = '_' := by
      simpa using List.all_eq_true.mp List.all_takeWhile c hc
    decide
  · split at hw
    · rename_i hd
      rw [hd] at hc
      cases hc
    · rename_i d rest hd
      rw [hd] at hc
      obtain ⟨hl, hr⟩ := Bool.and_eq_true_iff.mp hw
      rcases List.mem_cons.mp hc with rfl | hc
      · exact isWordChar_of_isLetter hl
      · exact List.all_eq_true.mp hr c hc

theorem ne_nil_of_isIdentifier {s : String} (h : isIdentifier s = true) : s.toList ≠ [] := by
  intro hn
  rw [isIdentifier, hn] at h
  exact absurd h (by simp)

end Script

/-! ## taking a path apart -/

/-- identifiers with dots between them -/
def dotted (ids : List String) : String := ".".intercalate ids

theorem toList_dotted (ids : List String) :
    (dotted ids).toList = ['.'].intercalate (ids.map String.toList) := String.toList_intercalate

theorem mem_intercalate {α : Type} {a : α} {sep : List α} {ws : List (List α)}
    (h : a ∈ sep.intercalate ws) : a ∈ sep ∨ ∃ w ∈ ws, a ∈ w := by
  induction ws with
  | nil => cases h
  | cons w ws ih =>
    cases ws with
    | nil =>
      rw [List.intercalate_singleton] at h
      exact .inr ⟨w, List.mem_cons_self, h⟩
    | cons v ws =>
      rw [List.intercalate_cons_cons, List.mem_append, List.mem_append] at h
      rcases h with (h | h) | h
      · exact .inr ⟨w, List.mem_cons_self, h⟩
      · exact .inl h
      · exact (ih h).imp_right fun ⟨x, hx, hc⟩ => ⟨x, List.mem_cons_of_mem w hx, hc⟩

namespace Library

/-- words with double colons between them -/
theorem colonPath_dotted {ids : List String} (h : ∀ s ∈ ids, '.' ∉ s.toList) :
    colonPath (dotted ids) = [':', ':'].intercalate (ids.map String.toList) := by
  have word : ∀ s ∈ ids, s.toList.flatMap (fun c => if c = '.' then [':', ':'] else [c]) =
      s.toList := by
    intro s hs
    have hd := h s hs
    generalize s.toList = cs at hd ⊢
    induction cs with
    | nil => rfl
    | cons c cs ih =>
      rw [List.mem_cons, not_or] at hd
      rw [List.flatMap_cons, if_neg (Ne.symm hd.1), ih hd.2]
      rfl
  rw [colonPath, toList_dotted]
  clear h
  induction ids with
  | nil => rfl
  | cons s ids ih =>
    have hs := word s List.mem_cons_self
    have hr := ih fun t ht => word t (List.mem_cons_of_mem s ht)
    cases ids with
    | nil => simpa using hs
    | cons t ids =>
      rw [List.map_cons, List.map_cons, List.intercalate_cons_cons, List.flatMap_append,
        List.flatMap_append, hs, ← List.map_cons, hr, List.map_cons, List.intercalate_cons_cons]
      rfl

/-- cutting at double colons gives the words back, if there is leave to cut often enough -/
theorem segmentsWithin_intercalate {ws : List (List Char)} (hne : ws ≠ [])
    (h : ∀ w ∈ ws, ∀ c ∈ w, isWordChar c = true) {n : Nat} (hn : ws.length ≤ n + 1) :
    segmentsWithin n ([':', ':'].intercalate ws) = ws.map String.ofList := by
  induction ws generalizing n with
  | nil => exact absurd rfl hne
  | cons w ws ih =>
    have hw := h w List.mem_cons_self
    cases ws with
    | nil =>
      rw [List.intercalate_singleton]
      cases n with
      | zero => rfl
      | succ n => rw [segmentsWithin, splitFirst?_eq_none (colon_not_mem hw)]; rfl
    | cons v ws =>
      have hv := fun x hx => h x (List.mem_cons_of_mem w hx)
      cases n with
      | zero => simp at hn
      | succ n =>
        have blank : ∀ c ∈ [':', ':'].intercalate (v :: ws), isBlank c = false := by
          intro c hc
          rcases mem_intercalate hc with hc | ⟨x, hx, hc⟩
          · simp only [List.mem_cons, List.not_mem_nil, or_false, or_self] at hc
            rw [hc]
            decide
          · exact not_isBlank_of_isWordChar (hv x hx c hc)
        rw [List.intercalate_cons_cons, List.append_assoc, segmentsWithin,
          splitFirst?_append (colon_not_mem hw)]
        dsimp only
        rw [trim_eq_self fun c hc => not_isBlank_of_isWordChar (hw c hc), trim_eq_self blank,
          ih (List.cons_ne_nil v ws) hv (Nat.le_of_succ_le_succ hn)]
        rfl

theorem length_le_length_intercalate (ws : List (List Char)) :
    ws.length ≤ ([':', ':'].intercalate ws).length + 1 := by
  induction ws with
  | nil => exact Nat.zero_le _
  | cons w ws ih =>
    cases ws with
    | nil => exact Nat.le_add_left 1 _
    | cons v ws =>
      rw [List.intercalate_cons_cons, List.length_append, List.length_append, List.length_cons]
      simp only [List.length_cons, List.length_nil] at ih ⊢
      omega

/-- **A registered path goes along its identifiers**, be they spelled with dots or colons. -/
theorem segments_of_colonPath {space : String} {ids : List String} (hne : ids ≠ [])
    (h : ∀ s ∈ ids, Script.isIdentifier s = true)
    (hp : colonPath space = [':', ':'].intercalate (ids.map String.toList)) :
    segments space = ids := by
  have word : ∀ s ∈ ids, ∀ c ∈ s.toList, isWordChar c = true :=
    fun s hs => Script.isWordChar_of_isIdentifier (h s hs)
  unfold segments
  rw [hp]
  refine (segmentsWithin_intercalate (by simpa using hne) ?_
    (length_le_length_intercalate _)).trans ?_
  · intro w hw
    obtain ⟨s, hs, rfl⟩ := List.mem_map.mp hw
    exact word s hs
  · rw [List.map_map]
    exact (List.map_congr_left fun s _ => String.ofList_toList).trans (List.map_id ids)

theorem segments_dotted {ids : List String} (hne : ids ≠ [])
    (h : ∀ s ∈ ids, Script.isIdentifier s = true) : segments (dotted ids) = ids := by
  have word : ∀ s ∈ ids, '.' ∉ s.toList :=
    fun s hs => dot_not_mem (Script.isWordChar_of_isIdentifier (h s hs))
  exact segments_of_colonPath hne h (colonPath_dotted word)

end Library

namespace Script.Import

theorem dropWhile_eq_self {p : Char → Bool} {c : Char} {cs : List Char} (h : p c = false) :
    (c :: cs).dropWhile p = c :: cs := by
  rw [List.dropWhile_cons, h]
  rfl

/-- the last segment, whatever it is made of -/
theorem shortName_last (ids : List String) {short : String} (hne : short.toList ≠ [])
    (hsep : ∀ c ∈ short.toList, isSeparator c = false) :
    shortName (dotted (ids ++ [short])).toList = short.toList := by
  have word : ∀ c ∈ short.toList.reverse, isSeparator c = false :=
    fun c hc => hsep c (List.mem_reverse.mp hc)
  -- what comes before the last segment is nothing or ends with a dot
  obtain ⟨rest, hrest, hsep⟩ : ∃ rest, (dotted (ids ++ [short])).toList.reverse =
      short.toList.reverse ++ rest ∧ ∀ c ∈ rest.head?, isSeparator c = true := by
    by_cases hids : ids = []
    · exact ⟨[], by simp [hids, dotted], by simp⟩
    · refine ⟨'.' :: (dotted ids).toList.reverse, ?_, by simp [isSeparator]⟩
      rw [dotted, String.intercalate_append_of_ne_nil hids (List.cons_ne_nil _ _),
        String.intercalate_singleton, String.toList_append, String.toList_append]
      simp [dotted]
  have hdrop : (short.toList.reverse ++ rest).dropWhile isSeparator =
      short.toList.reverse ++ rest := by
    cases hr : short.toList.reverse with
    | nil => exact absurd (List.reverse_eq_nil_iff.mp hr) hne
    | cons c cs =>
      rw [hr] at word
      exact dropWhile_eq_self (word c List.mem_cons_self)
  have htake : (short.toList.reverse ++ rest).takeWhile (fun c => !isSeparator c) =
      short.toList.reverse := by
    rw [List.takeWhile_append_of_pos fun c hc => by rw [word c hc]; rfl]
    cases rest with
    | nil => simp
    | cons c cs => simp [hsep c rfl]
  have hempty : (short.toList.reverse ++ rest).isEmpty = false := by simp [hne]
  rw [shortName, hrest, hdrop, hempty, htake, List.reverse_reverse]
  rfl

/-- **An imported path is called by its last identifier.** -/
theorem shortName_dotted (ids : List String) {short : String}
    (h : isIdentifier short = true) :
    shortName (dotted (ids ++ [short])).toList = short.toList := by
  refine shortName_last ids (ne_nil_of_isIdentifier h) fun c hc => ?_
  have hw := isWordChar_of_isIdentifier h c hc
  simp only [isSeparator, Bool.or_eq_false_iff, beq_eq_false_iff_ne]
  exact ⟨fun e => absurd hw (e ▸ by decide), fun e => absurd hw (e ▸ by decide)⟩

end Script.Import

end Scripting
