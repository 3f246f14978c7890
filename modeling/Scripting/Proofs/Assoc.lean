import Scripting.Assoc

/-!
# Lists of named values in ascending order, and what they answer

* `Ordered`        the keys ascend, and `ordered_update` keeps them so;
* `get?_update`    what a list answers behind `update`;
* `get?_eq_some_iff`   what it answers is what stands in it;
* `get?_erase`     and behind `erase`, which keeps the keys ascending as well.
-/

namespace Scripting.Assoc

variable {α : Type}

/-- the keys are strictly ascending -/
def Ordered (l : List (String × α)) : Prop := l.Pairwise fun a b => a.1 < b.1

@[simp] theorem ordered_nil : Ordered ([] : List (String × α)) := List.Pairwise.nil
theorem ordered_cons {e : String × α} {l : List (String × α)} :
    Ordered (e :: l) ↔ (∀ d ∈ l, e.1 < d.1) ∧ Ordered l := List.pairwise_cons

theorem lt_of_not {a b : String} (hne : ¬ a = b) (hlt : ¬ a < b) : b < a := by
  rcases Decidable.em (b < a) with h | h
  · exact h
  · exact absurd (String.le_antisymm (String.not_lt.mp h) (String.not_lt.mp hlt)) hne

theorem get?_eq_none {key : String} {l : List (String × α)} (h : ∀ e ∈ l, key ≠ e.1) :
    get? key l = none := by
  induction l with
  | nil => rfl
  | cons e l ih =>
    rw [get?, if_neg (h e List.mem_cons_self)]
    exact ih fun d hd => h d (List.mem_cons_of_mem e hd)

theorem get?_of_lt {key : String} {e : String × α} {l : List (String × α)}
    (ho : Ordered (e :: l)) (h : key < e.1) : get? key (e :: l) = none := by
  apply get?_eq_none
  intro d hd he
  rcases List.mem_cons.mp hd with rfl | hd
  · exact String.lt_irrefl key (he ▸ h)
  · exact String.lt_irrefl key (String.lt_trans h (he ▸ (ordered_cons.mp ho).1 d hd))

/-- a list answers what stands in it -/
theorem get?_eq_some_iff {l : List (String × α)} (ho : Ordered l) {key : String} {v : α} :
    get? key l = some v ↔ (key, v) ∈ l := by
  induction l with
  | nil => exact iff_of_false (Option.some_ne_none v).symm List.not_mem_nil
  | cons e l ih =>
    obtain ⟨hlt, hl⟩ := ordered_cons.mp ho
    rw [get?, List.mem_cons, ← ih hl]
    split
    · rename_i hk
      subst hk
      -- the same key again would have to be greater than itself
      have hn : get? e.1 l = none := get?_eq_none fun d hd => (String.ne_of_lt (hlt d hd))
      simp [hn, Prod.ext_iff, eq_comm]
    · rename_i hk
      simp [Prod.ext_iff, hk]

theorem mem_update {key : String} {f : Option α → α} {l : List (String × α)} {e : String × α}
    (h : e ∈ update key f l) : e.1 = key ∨ e ∈ l := by
  induction l with
  | nil => exact .inl (List.mem_singleton.mp h ▸ rfl)
  | cons d l ih =>
    rw [update] at h
    split at h
    · rcases List.mem_cons.mp h with rfl | h
      · exact .inl rfl
      · exact .inr (List.mem_cons_of_mem d h)
    · split at h
      · rcases List.mem_cons.mp h with rfl | h
        · exact .inl rfl
        · exact .inr h
      · rcases List.mem_cons.mp h with rfl | h
        · exact .inr List.mem_cons_self
        · exact (ih h).imp_right (List.mem_cons_of_mem d)

theorem ordered_update {l : List (String × α)} (ho : Ordered l) (key : String)
    (f : Option α → α) : Ordered (update key f l) := by
  induction l with
  | nil => exact List.pairwise_singleton _ _
  | cons e l ih =>
    obtain ⟨hlt, hl⟩ := ordered_cons.mp ho
    rw [update]
    split
    · rename_i hk
      exact ordered_cons.mpr ⟨fun d hd => hk ▸ hlt d hd, hl⟩
    · split
      · rename_i hk
        refine ordered_cons.mpr ⟨fun d hd => ?_, ho⟩
        rcases List.mem_cons.mp hd with rfl | hd
        · exact hk
        · exact String.lt_trans hk (hlt d hd)
      · rename_i hne hk
        refine ordered_cons.mpr ⟨fun d hd => ?_, ih hl⟩
        rcases mem_update hd with he | hd
        · exact he ▸ lt_of_not hne hk
        · exact hlt d hd

/-- **Looking up behind an update.** -/
theorem get?_update {l : List (String × α)} (ho : Ordered l) (key other : String)
    (f : Option α → α) :
    get? other (update key f l) = if other = key then some (f (get? key l)) else get? other l := by
  induction l with
  | nil => simp [update, get?]
  | cons e l ih =>
    rw [update]
    split
    · rename_i hk
      by_cases h : other = key
      · simp [get?, h, ← hk]
      · simp [get?, h, ← hk]
    · split
      · rename_i hk
        rw [get?_of_lt ho hk, get?]
      · rename_i hne hk
        by_cases h : other = key
        · subst h
          simp [get?, hne, ih (ordered_cons.mp ho).2]
        · simp [get?, h, ih (ordered_cons.mp ho).2]

/-- a key behind all others goes to the end -/
theorem insert_of_forall_lt {key : String} {v : α} {l : List (String × α)}
    (h : ∀ e ∈ l, e.1 < key) : insert key v l = l ++ [(key, v)] := by
  induction l with
  | nil => rfl
  | cons e l ih =>
    have he := h e List.mem_cons_self
    have hne : ¬ key = e.1 := fun hk => String.lt_irrefl key (hk ▸ he)
    have hlt : ¬ key < e.1 := fun hk => String.lt_irrefl key (String.lt_trans hk he)
    rw [insert, if_neg hne, if_neg hlt, ih fun d hd => h d (List.mem_cons_of_mem e hd)]
    rfl

theorem erase_sublist (key : String) (l : List (String × α)) : (erase key l).Sublist l := by
  induction l with
  | nil => exact List.Sublist.refl []
  | cons e l ih =>
    rw [erase]
    split
    · exact List.sublist_cons_self e l
    · exact ih.cons_cons e

end Scripting.Assoc
