import Mathlib.Data.List.Induction
import Scripting.Library.Space

/-!
# What is at the roots of a tree of namespaces

Namespaces are registered one after the other.  A root belongs to the namespaces whose first segment
it is; here all of these have one name.

* `root_of_none`      a root that no namespace starts with is not there;
* `root_of_single`    a namespace of one segment is at its root, the one registered last;
* `root_of_longer`    the root of a longer one holds nothing;
* `mem_roots_ofList`  the roots are the first segments of what is registered;
* `isSome_get?_assoc_ofList`   by its full name a namespace is found if it is registered.
-/

namespace Scripting.Library.Tree

/-- registering a path leaves every other root alone -/
theorem get?_put_of_ne {x s : String} (h : x ≠ s) (path : List String) (space : Space) (t : Tree) :
    Assoc.get? x (put (s :: path) space t) = Assoc.get? x t := by
  cases path with
  | nil => exact Assoc.get?_insert_of_ne h _ t
  | cons b path => exact Assoc.get?_insert_of_ne h _ t

theorem get?_put_single (s : String) (space : Space) (t : Tree) :
    Assoc.get? s (put [s] space t) = some (.mk space []) := Assoc.get?_insert_self _ _ _

/-- a longer path passes through its root, and leaves there what was there -/
theorem space_put_longer (s b : String) (path : List String) (space : Space) (t : Tree) :
    (Assoc.get? s (put (s :: b :: path) space t)).map Node.space =
      some ((Assoc.get? s t).getD (.mk {} [])).space := by
  rw [put, Assoc.get?_insert_self]
  · rfl
  · intro h
    cases h

theorem register_of_ne {x : String} {q : String × Space} (h : (segments q.1).head? ≠ some x)
    (t : Tree) : Assoc.get? x (register t q) = Assoc.get? x t := by
  rw [register]
  cases hs : segments q.1 with
  | nil => rfl
  | cons s path =>
    rw [hs] at h
    exact get?_put_of_ne (fun e => h (congrArg some e.symm)) path q.2 t

theorem ofList_concat (spaces : List (String × Space)) (q : String × Space) :
    ofList (spaces ++ [q]) = register (ofList spaces) q := by
  rw [ofList, List.foldl_append]
  rfl

theorem assoc_ofList_concat (spaces : List (String × Space)) (q : String × Space) :
    Assoc.ofList (spaces ++ [q]) = Assoc.insert q.1 q.2 (Assoc.ofList spaces) := by
  rw [Assoc.ofList, List.foldl_append]
  rfl

section
variable {x name : String} {spaces : List (String × Space)}

/-- a name is found exactly if it is registered, whatever else is -/
theorem isSome_get?_assoc_ofList :
    (Assoc.get? name (Assoc.ofList spaces)).isSome = true ↔ name ∈ spaces.map Prod.fst := by
  induction spaces using List.reverseRecOn with
  | nil => exact iff_of_false Bool.false_ne_true List.not_mem_nil
  | append_singleton spaces q ih =>
    rw [assoc_ofList_concat, List.map_append, List.mem_append, ← ih, List.map_singleton,
      List.mem_singleton]
    by_cases h : name = q.1
    · rw [h, Assoc.get?_insert_self]
      exact iff_of_true rfl (.inr rfl)
    · rw [Assoc.get?_insert_of_ne h]
      exact (or_iff_left h).symm

theorem root_of_none (h : ∀ q ∈ spaces, (segments q.1).head? ≠ some x) :
    Assoc.get? x (ofList spaces) = none := by
  induction spaces using List.reverseRecOn with
  | nil => rfl
  | append_singleton spaces q ih =>
    rw [ofList_concat, register_of_ne (h q (List.mem_append_right _ List.mem_cons_self))]
    exact ih fun r hr => h r (List.mem_append_left _ hr)

variable (others : ∀ q ∈ spaces, q.1 ≠ name → (segments q.1).head? ≠ some x)
include others

/-- what the root of a name holds, by what registering that name leaves there -/
theorem root_of_register {f : Space → Space}
    (h : ∀ (t : Tree) (space : Space),
      (∀ n ∈ Assoc.get? x t, ∃ s, n.space = f s) →
      (Assoc.get? x (register t (name, space))).map Node.space = some (f space)) :
    (Assoc.get? x (ofList spaces)).map Node.space =
      (Assoc.get? name (Assoc.ofList spaces)).map f := by
  induction spaces using List.reverseRecOn with
  | nil => rfl
  | append_singleton spaces q ih =>
    have ih := ih fun r hr => others r (List.mem_append_left _ hr)
    have hq := others q (List.mem_append_right _ List.mem_cons_self)
    rw [ofList_concat, assoc_ofList_concat]
    -- what was registered last decides the root if it has the name, and leaves it alone otherwise
    by_cases hn : q.1 = name
    · subst hn
      rw [Assoc.get?_insert_self]
      refine h _ q.2 fun n hm => ?_
      rw [show Assoc.get? x (ofList spaces) = some n from hm] at ih
      obtain ⟨s, -, hs⟩ := Option.map_eq_some_iff.mp ih.symm
      exact ⟨s, hs.symm⟩
    · rw [register_of_ne (hq hn), Assoc.get?_insert_of_ne (Ne.symm hn), ih]

/-- **The root of a namespace of one segment** holds the one that was registered last. -/
theorem root_of_single (hname : segments name = [x]) :
    (Assoc.get? x (ofList spaces)).map Node.space = Assoc.get? name (Assoc.ofList spaces) := by
  refine (root_of_register (f := id) others fun t space _ => ?_).trans Option.map_id_apply
  rw [register, hname, get?_put_single]
  rfl

/-- **The root of a longer namespace** holds nothing. -/
theorem root_of_longer {b : String} {path : List String} (hname : segments name = x :: b :: path) :
    (Assoc.get? x (ofList spaces)).map Node.space =
      (Assoc.get? name (Assoc.ofList spaces)).map fun _ => {} := by
  refine root_of_register others fun t space h => ?_
  rw [register, hname, space_put_longer]
  cases ht : Assoc.get? x t with
  | none => rfl
  | some n =>
    obtain ⟨s, hs⟩ := h n ht
    exact congrArg some hs

end

/-! ## which roots there are -/

theorem mem_roots {x : String} {t : Tree} : x ∈ roots t ↔ (Assoc.get? x t).isSome = true := by
  induction t with
  | nil => exact iff_of_false List.not_mem_nil Bool.false_ne_true
  | cons e t ih =>
    obtain ⟨k, n⟩ := e
    rw [roots, List.map_cons, List.mem_cons, Assoc.get?]
    by_cases h : x = k
    · rw [if_pos h]
      exact iff_of_true (.inl h) rfl
    · rw [if_neg h, ← ih]
      exact or_iff_right h

theorem mem_roots_register {x : String} {q : String × Space} {t : Tree} :
    x ∈ roots (register t q) ↔ (segments q.1).head? = some x ∨ x ∈ roots t := by
  rw [mem_roots, mem_roots]
  by_cases h : (segments q.1).head? = some x
  · refine iff_of_true ?_ (.inl h)
    obtain ⟨path, hs⟩ : ∃ path, segments q.1 = x :: path := by
      cases hs : segments q.1 with
      | nil => rw [hs] at h; cases h
      | cons s path => rw [hs] at h; cases h; exact ⟨path, rfl⟩
    rw [register, hs]
    cases path with
    | nil => rw [get?_put_single]; rfl
    | cons b path => rw [← Option.isSome_map, space_put_longer]; rfl
  · rw [register_of_ne h]
    exact (or_iff_right h).symm

/-- **The roots** are the first segments of the namespaces that are registered. -/
theorem mem_roots_ofList {x : String} {spaces : List (String × Space)} :
    x ∈ roots (ofList spaces) ↔ ∃ q ∈ spaces, (segments q.1).head? = some x := by
  induction spaces using List.reverseRecOn with
  | nil => exact iff_of_false List.not_mem_nil nofun
  | append_singleton spaces q ih =>
    rw [ofList_concat, mem_roots_register, ih]
    simp only [List.mem_append, List.mem_singleton, or_and_right, exists_or, exists_eq_left]
    exact or_comm

theorem roots_subset {spaces spaces' : List (String × Space)} (h : spaces ⊆ spaces') :
    roots (ofList spaces) ⊆ roots (ofList spaces') := by
  intro x hx
  obtain ⟨q, hq, hs⟩ := mem_roots_ofList.mp hx
  exact mem_roots_ofList.mpr ⟨q, h hq, hs⟩

end Scripting.Library.Tree
