import Mathlib.Data.List.Induction
import Scripting.Proofs.Library.Tree

/-!
# What is at a path in a tree of namespaces

Namespaces are registered one after the other.  One that is registered at a path puts a fresh node
there: what was at a longer path is gone, and what was at a shorter one stays.

* `space?_put`       what one registration does to what is read at a path;
* `settled`          so a path belongs to the last registration at it or at a beginning of it;
* `space?_ofList`    what is read at a path is what that registration left there;
* `settled_eq`       a namespace is there unless a beginning of its path was registered behind it;
* `same_iff`         two orders of different paths read the same exactly if they hide the same.
-/

namespace Scripting.Library.Tree

theorem space?_cons_cons (a b : String) (path : List String) (t : Tree) :
    space? (a :: b :: path) t = (Assoc.get? a t).bind fun n => space? (b :: path) n.children :=
  Option.map_bind ..

theorem space?_singleton (a : String) (t : Tree) :
    space? [a] t = (Assoc.get? a t).map Node.space := rfl

/-- a path is looked up from its root -/
theorem space?_of_root {a : String} {t t' : Tree} (h : Assoc.get? a t = Assoc.get? a t')
    (path : List String) : space? (a :: path) t = space? (a :: path) t' := by
  cases path with
  | nil => rw [space?_singleton, space?_singleton, h]
  | cons b path => rw [space?_cons_cons, space?_cons_cons, h]

theorem put_longer (a b : String) (s : List String) (space : Space) (t : Tree) :
    put (a :: b :: s) space t =
      Assoc.insert a (.mk ((Assoc.get? a t).getD (.mk {} [])).space
        (put (b :: s) space ((Assoc.get? a t).getD (.mk {} [])).children)) t := by
  rw [put]
  intro h
  cases h

section
variable {β : Type} {f : Space → Option β} (hf : f {} = none)
include hf

/-- **One registration.**  `f` reads something of a namespace, and nothing of an empty one. -/
theorem space?_put {s path : List String} (hs : s ≠ []) (hpath : path ≠ []) (space : Space)
    (t : Tree) : (space? path (put s space t)).bind f =
      if s = path then f space else if s <+: path then none else (space? path t).bind f := by
  induction s generalizing path t with
  | nil => exact absurd rfl hs
  | cons a s ih =>
    obtain ⟨x, path, rfl⟩ := List.exists_cons_of_ne_nil hpath
    by_cases hx : x = a
    · subst hx
      cases s with
      | nil =>
        have hroot := get?_put_single x space t
        cases path with
        | nil => rw [space?_singleton, hroot, if_pos rfl]; rfl
        | cons b path =>
          have hp : [x] <+: x :: b :: path := List.prefix_append [x] (b :: path)
          rw [space?_cons_cons, hroot, if_neg (by simp), if_pos hp]
          cases path <;> rfl
      | cons b s =>
        rw [put_longer]
        cases path with
        | nil =>
          -- the node is passed through
          have hp : ¬ x :: b :: s <+: [x] := fun h => by simpa using h.length_le
          rw [space?_singleton, space?_singleton, Assoc.get?_insert_self, if_neg (by simp),
            if_neg hp]
          cases Assoc.get? x t with
          | none => exact hf
          | some n => rfl
        | cons c path =>
          have below : (Assoc.get? x t).bind (fun n => space? (c :: path) n.children) =
              space? (c :: path) ((Assoc.get? x t).getD (.mk {} [])).children := by
            cases Assoc.get? x t with
            | none => cases path <;> rfl
            | some n => rfl
          rw [space?_cons_cons, space?_cons_cons, Assoc.get?_insert_self, below]
          refine (ih (List.cons_ne_nil b s) (List.cons_ne_nil c path) _).trans ?_
          simp only [List.cons.injEq, true_and, List.cons_prefix_cons]
    · have hroot : Assoc.get? x (put (a :: s) space t) = Assoc.get? x t :=
        get?_put_of_ne hx s space t
      have hp : ¬ a :: s <+: x :: path := fun h => hx (List.cons_prefix_cons.mp h).1.symm
      have he : ¬ a :: s = x :: path := fun h => hx (List.cons.inj h).1.symm
      rw [space?_of_root hroot, if_neg he, if_neg hp]

end

theorem segmentsWithin_ne_nil (n : Nat) (cs : List Char) : segmentsWithin n cs ≠ [] := by
  cases n with
  | zero => exact List.cons_ne_nil _ _
  | succ n =>
    rw [segmentsWithin]
    split <;> exact List.cons_ne_nil _ _

theorem segments_ne_nil (space : String) : segments space ≠ [] := segmentsWithin_ne_nil _ _

/-- what is at a path in the end: the namespace that was registered last at the path or at a
beginning of it, unless it was a beginning -/
def settled (path : List String) (spaces : List (String × Space)) : Option Space :=
  ((spaces.filter fun q => segments q.1 <+: path).getLast?).bind fun q =>
    if segments q.1 = path then some q.2 else none

theorem settled_concat (path : List String) (spaces : List (String × Space))
    (q : String × Space) : settled path (spaces ++ [q]) =
      if segments q.1 = path then some q.2
      else if segments q.1 <+: path then none else settled path spaces := by
  unfold settled
  rw [List.filter_append]
  by_cases hp : segments q.1 <+: path
  · have hq : [q].filter (fun q => decide (segments q.1 <+: path)) = [q] :=
      List.filter_cons_of_pos (decide_eq_true hp)
    rw [hq, List.getLast?_concat, if_pos hp]
    rfl
  · have hq : [q].filter (fun q => decide (segments q.1 <+: path)) = [] :=
      List.filter_cons_of_neg (by simpa using hp)
    have he : ¬ segments q.1 = path := fun h => hp (h ▸ List.prefix_rfl)
    rw [hq, List.append_nil, if_neg he, if_neg hp]

/-- **All registrations.** -/
theorem space?_ofList {β : Type} {f : Space → Option β} (hf : f {} = none) {path : List String}
    (hpath : path ≠ []) (spaces : List (String × Space)) :
    (space? path (ofList spaces)).bind f = (settled path spaces).bind f := by
  induction spaces using List.reverseRecOn with
  | nil =>
    obtain ⟨a, path, rfl⟩ := List.exists_cons_of_ne_nil hpath
    cases path <;> rfl
  | append_singleton spaces q ih =>
    rw [ofList_concat, register, space?_put hf (segments_ne_nil q.1) hpath, ih, settled_concat]
    split
    · rfl
    · split <;> rfl

/-! ## who is in whose way -/

/-- a namespace that was registered last at its path is there, unless a beginning of its path was
registered behind it -/
theorem settled_eq {q : String × Space} (before : List (String × Space))
    {behind : List (String × Space)} (hlast : ∀ r ∈ behind, segments r.1 ≠ segments q.1) :
    settled (segments q.1) (before ++ q :: behind) =
      if ∃ r ∈ behind, segments r.1 <+: segments q.1 then none else some q.2 := by
  induction behind using List.reverseRecOn with
  | nil =>
    rw [settled_concat, if_pos rfl, if_neg]
    rintro ⟨r, hr, -⟩
    cases hr
  | append_singleton behind r ih =>
    have ih := ih fun t ht => hlast t (List.mem_append_left _ ht)
    have hr := hlast r (List.mem_append_right _ List.mem_cons_self)
    rw [← List.cons_append, ← List.append_assoc, settled_concat, if_neg hr, ih]
    by_cases hp : segments r.1 <+: segments q.1
    · rw [if_pos hp, if_pos ⟨r, List.mem_append_right _ List.mem_cons_self, hp⟩]
    · have same : (∃ t ∈ behind ++ [r], segments t.1 <+: segments q.1) ↔
          ∃ t ∈ behind, segments t.1 <+: segments q.1 := by
        constructor
        · rintro ⟨t, ht, h⟩
          rcases List.mem_append.mp ht with ht | ht
          · exact ⟨t, ht, h⟩
          · exact absurd (List.mem_singleton.mp ht ▸ h) hp
        · rintro ⟨t, ht, h⟩
          exact ⟨t, List.mem_append_left _ ht, h⟩
      rw [if_neg hp]
      exact if_congr same.symm rfl rfl

theorem settled_eq_none {path : List String} {spaces : List (String × Space)}
    (h : ∀ q ∈ spaces, segments q.1 ≠ path) : settled path spaces = none := by
  induction spaces using List.reverseRecOn with
  | nil => rfl
  | append_singleton spaces q ih =>
    rw [settled_concat, if_neg (h q (List.mem_append_right _ List.mem_cons_self)),
      ih fun r hr => h r (List.mem_append_left _ hr)]
    split <;> rfl

/-- a beginning of the path is registered behind the path -/
def Hidden (path : List String) (spaces : List (String × Space)) : Prop :=
  ∃ before q behind, spaces = before ++ q :: behind ∧ segments q.1 = path ∧
    ∃ r ∈ behind, segments r.1 <+: path

section
variable {spaces : List (String × Space)} (hd : (spaces.map fun q => segments q.1).Nodup)
include hd

/-- behind a path no other one is the same -/
theorem ne_of_behind {before behind : List (String × Space)} {q : String × Space}
    (h : spaces = before ++ q :: behind) : ∀ r ∈ behind, segments r.1 ≠ segments q.1 := by
  intro r hr he
  rw [h, List.map_append, List.map_cons] at hd
  have hq := (List.nodup_cons.mp (List.nodup_append.mp hd).2.1).1
  exact hq (List.mem_map.mpr ⟨r, hr, he⟩)

theorem settled_of_mem {q : String × Space} (hq : q ∈ spaces)
    [Decidable (Hidden (segments q.1) spaces)] : settled (segments q.1) spaces =
      if Hidden (segments q.1) spaces then none else some q.2 := by
  split
  · rename_i h
    obtain ⟨before, t, behind, he, ht, r, hr, hp⟩ := h
    rw [← ht, he, settled_eq before (ne_of_behind hd he), if_pos ⟨r, hr, ht ▸ hp⟩]
  · rename_i h
    obtain ⟨before, behind, he⟩ := List.append_of_mem hq
    have clear : ¬ ∃ r ∈ behind, segments r.1 <+: segments q.1 :=
      fun hr => h ⟨before, q, behind, he, rfl, hr⟩
    rw [he, settled_eq before (ne_of_behind hd he), if_neg clear]

/-- **Two orders of different paths** make the same constants known exactly if they hide the same
namespaces, those without constants aside. -/
theorem same_iff {spaces' : List (String × Space)} (hp : spaces.Perm spaces') :
    (∀ path name, (space? path (ofList spaces)).bind (·.constant? name) =
      (space? path (ofList spaces')).bind (·.constant? name)) ↔
      ∀ q ∈ spaces, q.2.constants ≠ [] →
        (Hidden (segments q.1) spaces ↔ Hidden (segments q.1) spaces') := by
  classical
  have hd' : (spaces'.map fun q => segments q.1).Nodup := (hp.map _).nodup_iff.mp hd
  have empty (name : String) : (fun s : Space => s.constant? name) {} = none := rfl
  constructor
  · intro same q hq hne
    obtain ⟨⟨name, v⟩, rest, hc⟩ := List.exists_cons_of_ne_nil hne
    have hv : q.2.constant? name = some v := by rw [Space.constant?, hc]; exact if_pos rfl
    have hs := same (segments q.1) name
    rw [space?_ofList (empty name) (segments_ne_nil q.1),
      space?_ofList (empty name) (segments_ne_nil q.1), settled_of_mem hd hq,
      settled_of_mem hd' (hp.mem_iff.mp hq)] at hs
    by_cases h : Hidden (segments q.1) spaces
    · by_cases h' : Hidden (segments q.1) spaces'
      · exact iff_of_true h h'
      · simp [h, h', hv] at hs
    · by_cases h' : Hidden (segments q.1) spaces'
      · simp [h, h', hv] at hs
      · exact iff_of_false h h'
  · intro same path name
    by_cases hpath : path = []
    · rw [hpath]
      rfl
    rw [space?_ofList (empty name) hpath, space?_ofList (empty name) hpath]
    by_cases hq : ∃ q ∈ spaces, segments q.1 = path
    · obtain ⟨q, hq, rfl⟩ := hq
      rw [settled_of_mem hd hq, settled_of_mem hd' (hp.mem_iff.mp hq)]
      by_cases hne : q.2.constants = []
      · -- nothing is read of it, whether it is there or not
        have hn : q.2.constant? name = none := by rw [Space.constant?, hne]; rfl
        split <;> split <;> simp [hn]
      · rw [if_congr (same q hq hne) rfl rfl]
    · have hn : ∀ q ∈ spaces, segments q.1 ≠ path := fun q hm he => hq ⟨q, hm, he⟩
      rw [settled_eq_none hn, settled_eq_none fun q hm => hn q (hp.mem_iff.mpr hm)]

end

end Scripting.Library.Tree
