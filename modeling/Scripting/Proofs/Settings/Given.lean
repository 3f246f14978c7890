import Mathlib.Algebra.Group.Nat.Defs
import Mathlib.Data.List.Nodup
import Scripting.Settings

/-!
# Settings of which some are given

What is given for a setting takes the place of its default, and the other settings keep theirs.
This names one record of settings, in whatever order the values are given.

* `InRange`       what a setting of a kind may hold;
* `Gives`         settings that hold what is given, and the defaults besides;
* `replaced`      the values put in one after the other;
* `gives_replaced`, `Gives.unique`   these are the same, if no setting is given twice.
-/

namespace Scripting.Settings

/-- the values of a kind: a number has 64 bits -/
inductive InRange : Kind → Value → Prop
  | number (word : String) {n : Nat} (h : n < 2 ^ 64) : InRange (.number word) (.number n)
  | switch (b : Bool) : InRange .switch (.switch b)
  | text (s : String) : InRange .text (.text s)

/-- the settings that hold what is given, and the defaults besides -/
structure Gives (given : List (Key × Value)) (s : Settings) : Prop where
  values : ∀ g ∈ given, s.get g.1 = g.2
  defaults : ∀ k ∉ given.map Prod.fst, s.get k = get {} k

/-- settings with values put in, one after the other -/
def replaced (s : Settings) (given : List (Key × Value)) : Settings :=
  given.foldl (fun s g => s.put g.1 g.2) s

theorem get_put_self (s : Settings) {k : Key} {v : Value} (h : InRange k.kind v) :
    (s.put k v).get k = v := by
  cases k <;> cases h <;> rfl

theorem eq_of_get {s t : Settings} (h : ∀ k, s.get k = t.get k) : s = t := by
  have hall : ∀ k ∈ Key.all, s.get k = t.get k := fun k _ => h k
  cases s
  cases t
  simpa [Key.all, get] using hall

theorem get_replaced_of_not_mem {given : List (Key × Value)} {s : Settings} {k : Key}
    (h : k ∉ given.map Prod.fst) : (replaced s given).get k = s.get k := by
  induction given generalizing s with
  | nil => rfl
  | cons g given ih =>
    rw [List.map_cons, List.mem_cons, not_or] at h
    calc (replaced (s.put g.1 g.2) given).get k
        = (s.put g.1 g.2).get k := ih h.2
      _ = s.get k := get_put_of_ne s h.1 g.2

theorem get_replaced_of_mem {given : List (Key × Value)} (hn : (given.map Prod.fst).Nodup)
    (hv : ∀ g ∈ given, InRange g.1.kind g.2) {s : Settings} {g : Key × Value} (hg : g ∈ given) :
    (replaced s given).get g.1 = g.2 := by
  induction given generalizing s with
  | nil => cases hg
  | cons first given ih =>
    rw [List.map_cons, List.nodup_cons] at hn
    obtain ⟨hfirst, hv⟩ := List.forall_mem_cons.mp hv
    rcases List.mem_cons.mp hg with rfl | hg
    · exact (get_replaced_of_not_mem hn.1).trans (get_put_self s hfirst)
    · exact ih hn.2 hv hg

theorem gives_replaced {given : List (Key × Value)} (hn : (given.map Prod.fst).Nodup)
    (hv : ∀ g ∈ given, InRange g.1.kind g.2) : Gives given (replaced {} given) :=
  ⟨fun _ hg => get_replaced_of_mem hn hv hg, fun _ hk => get_replaced_of_not_mem hk⟩

theorem Gives.perm {given given' : List (Key × Value)} {s : Settings} (h : Gives given s)
    (hp : given.Perm given') : Gives given' s :=
  ⟨fun g hg => h.values g (hp.mem_iff.mpr hg),
    fun k hk => h.defaults k fun hmem => hk ((hp.map Prod.fst).mem_iff.mp hmem)⟩

theorem Gives.unique {given : List (Key × Value)} {s t : Settings} (hs : Gives given s)
    (ht : Gives given t) : s = t := by
  refine eq_of_get fun k => ?_
  by_cases hk : k ∈ given.map Prod.fst
  · obtain ⟨g, hg, rfl⟩ := List.mem_map.mp hk
    exact (hs.values g hg).trans (ht.values g hg).symm
  · exact (hs.defaults k hk).trans (ht.defaults k hk).symm

end Scripting.Settings
