import Scripting.Json.Writer
import Scripting.Proofs.Dialect.Alias
import Scripting.Proofs.Library.Path

/-!
# What a script reaches under a qualified name

Every namespace of a referenced library is registered at its path, in the order of the references.
A script reads a constant of it by the whole path, as in `My::Tools::K`.  A namespace stays where it
was put unless a beginning of its path is registered behind it: then its node is gone.

* `constant_eq_ok_iff`    a path is read among the registered namespaces;
* `spaces_perm`           references in another order register the same, in another order;
* `qualified_run`         which constants a script reaches, and when the order does not matter;
* `call_hidden`           a library with `My.Tools` before `My` hides the constants of `My.Tools`.
-/

namespace Scripting.Script.Eval

/-- a qualified constant is that of the namespace at its path -/
theorem constant_eq_ok_iff (p : Program) {path : List Ident} {m : Machine}
    (hm : ∀ root ∈ path.head?, Free root.name m) (id : Ident) (v : Value) :
    (constant p path id m).1 = .ok v ↔
      (p.tree.space? (path.map (·.name))).bind (·.constant? id.name) = some v := by
  rw [constant, bind_apply]
  cases path with
  | nil => exact iff_of_false (fun h => by cases h) (fun h => by cases h)
  | cons root rest =>
    rw [space?_of_free p (hm root rfl)]
    by_cases hroot : (Assoc.get? root.name p.tree).isSome = true
    · rw [if_pos hroot]
      dsimp only
      cases (p.tree.space? ((root :: rest).map (·.name))).bind (·.constant? id.name) with
      | none => exact iff_of_false (fun h => by cases h) (Option.some_ne_none v).symm
      | some w =>
        show (Except.ok w : Except Signal Value) = .ok v ↔ _
        rw [Except.ok.injEq, Option.some.injEq]
    · have hnone : Assoc.get? root.name p.tree = none := Option.not_isSome_iff_eq_none.mp hroot
      have hpath : p.tree.space? ((root :: rest).map (·.name)) = none := by
        rw [List.map_cons, Library.Tree.space?_of_root (show _ = Assoc.get? root.name [] from hnone)]
        cases rest <;> rfl
      rw [if_neg hroot, hpath]
      exact iff_of_false (fun h => by cases h) (fun h => by cases h)

end Scripting.Script.Eval

namespace Scripting.Dialect.Scripted

open Host (lastSuccess tried)
open Library (Bundle Catalog Space Surroundings Tree colonPath segments)
open Library.Tree (Hidden)
open Script (Ident Machine Program isIdentifier)
open Script.Eval (Free constant)

theorem spaces_perm (d : Scripted) {libraries libraries' : List String}
    (h : libraries.Perm libraries') :
    (spaces (d.known libraries)).Perm (spaces (d.known libraries')) :=
  (h.filterMap _).flatMap_right _

/-- **What a script reaches under a qualified name**, in every script that a host over the standard
engine runs.  Take a namespace that was registered last at its path `ids`, spelled with dots or
double colons.  Wherever no import is called like the root, `ids::NAME` reads its constant, unless
a beginning of the path was registered behind it; then it reads nothing.  Where the same namespaces
are registered in another order, all at different paths, scripts reach the same constants exactly
if the two orders hide the same namespaces, those without constants aside. -/
theorem qualified_run (around : Surroundings) (catalog : Catalog) (settings : Settings)
    (style : Script.Import.Style) (id space : String) (cs : List Command) :
    let d : Scripted := ⟨Engine.standard around, catalog, settings, style⟩
    let h := ((Host.create d.language id space).1.run cs).1
    ∀ r ∈ h.running?, ∃ a ∈ lastSuccess (tried d.language id space cs), ∃ p : Program,
      let libraries := a.environment.libraries
      let registered := spaces (d.known libraries)
      Program.compile around settings a.environment.flags registered
        (d.expanded a.environment.text) = .ok p ∧
      r.unit = unitOf settings.moduleSeparator space (Engine.ofProgram p) ∧
      (∀ before q behind ids, registered = before ++ q :: behind →
        ids ≠ [] → (∀ i ∈ ids, isIdentifier i = true) →
        colonPath q.1 = [':', ':'].intercalate (ids.map String.toList) →
        (∀ r ∈ behind, segments r.1 ≠ ids) →
        ∀ (path : List Ident) (id : Ident) (m : Machine) v, path.map (·.name) = ids →
          (∀ root ∈ path.head?, Free root.name m) →
          ((constant p path id m).1 = .ok v ↔
            q.2.constant? id.name = some v ∧ ∀ r ∈ behind, ¬ segments r.1 <+: ids)) ∧
      (∀ libraries', libraries.Perm libraries' →
        registered.Perm (spaces (d.known libraries'))) ∧
      ∀ settings' flags' registered' text' p',
        Program.compile around settings' flags' registered' text' = .ok p' →
        registered.Perm registered' → (registered.map fun q => segments q.1).Nodup →
        ((∀ (path : List Ident) (id : Ident) (m : Machine),
            (∀ root ∈ path.head?, Free root.name m) →
            ∀ v, (constant p path id m).1 = .ok v ↔ (constant p' path id m).1 = .ok v) ↔
          ∀ q ∈ registered, q.2.constants ≠ [] →
            (Hidden (segments q.1) registered ↔ Hidden (segments q.1) registered')) := by
  intro d h r hr
  obtain ⟨a, ha, c, hc, -, rfl⟩ := running_scripted d id space cs r hr
  obtain ⟨p, hp, rfl⟩ := Engine.standard_eq_ok.mp hc
  have htree := Program.tree_of_compile hp
  refine ⟨a, ha, p, hp, rfl, ?_, fun _ hperm => spaces_perm d hperm, ?_⟩
  · intro before q behind ids he hne hids hspell hlast path id m v hpath hfree
    have hseg : segments q.1 = ids := Library.segments_of_colonPath hne hids hspell
    subst hseg
    have empty : (fun s : Space => s.constant? id.name) {} = none := rfl
    rw [Script.Eval.constant_eq_ok_iff p hfree, hpath, htree, Tree.space?_ofList empty hne, he,
      Tree.settled_eq before hlast]
    by_cases hh : ∃ r ∈ behind, segments r.1 <+: segments q.1
    · rw [if_pos hh]
      obtain ⟨r, hr, hb⟩ := hh
      exact iff_of_false (fun h => by cases h) fun hc => hc.2 r hr hb
    · rw [if_neg hh]
      exact (and_iff_left fun r hr hb => hh ⟨r, hr, hb⟩).symm
  · intro settings' flags' registered' text' p' hp' hperm hd
    have htree' := Program.tree_of_compile hp'
    rw [← Tree.same_iff hd hperm, ← htree, ← htree']
    constructor
    · intro same path name
      -- a path of names is that of identifiers, wherever they stand
      let at0 (s : String) : Ident := ⟨s, default⟩
      have named : (path.map at0).map (·.name) = path := by
        rw [List.map_map]
        exact List.map_id path
      have fresh : ∀ root ∈ (path.map at0).head?, Free root.name {} :=
        fun _ _ i hi => absurd hi List.not_mem_nil
      apply Option.ext
      intro v
      have hv := same (path.map at0) (at0 name) {} fresh v
      rw [Script.Eval.constant_eq_ok_iff p fresh, Script.Eval.constant_eq_ok_iff p' fresh,
        named] at hv
      exact hv
    · intro same path id m hfree v
      rw [Script.Eval.constant_eq_ok_iff p hfree, Script.Eval.constant_eq_ok_iff p' hfree, same]

/-- the libraries of a host and one more, with the namespaces given -/
def extended (spaces : List (String × Space)) : Catalog :=
  (Catalog.standard.insert ⟨"tools", spaces⟩).1

def longer : String × Space := ("My.Tools", Space.ofConstants [("K", .int 7)])

/-- at a beginning of the path of `longer` -/
def shorter : String × Space := ("My", Space.ofConstants [("J", .int 1)])

/-- a script that reads the constant of `longer` -/
def readsQualified : List Command :=
  [.addReference "T" "tools", .setSource "fn M__F() \x7b My::Tools::K \x7d", .compile]

/-- what the one more library has is registered behind what is referenced before it -/
theorem spaces_extended (engine : Engine) (libraries : List String)
    (added : List (String × Space)) :
    let d : Scripted := ⟨engine, extended added, {}, .plain⟩
    spaces (d.known (libraries ++ ["tools"])) = spaces (d.known libraries) ++ added := by
  intro d
  have found : d.catalog.get? "tools" = some ⟨"tools", added⟩ := by
    show (extended added).get? "tools" = _
    unfold extended Catalog.insert Catalog.get?
    dsimp only
    exact Assoc.get?_insert_self ..
  have hk : d.known ["tools"] = [⟨"tools", added⟩] := by
    rw [known, List.filterMap_cons_some found]
    rfl
  have happ : d.known (libraries ++ ["tools"]) = d.known libraries ++ d.known ["tools"] :=
    List.filterMap_append
  rw [happ, hk, spaces, List.flatMap_append]
  exact congrArg (_ ++ ·) (List.append_nil added)

theorem qualified_run_shorter :
    let d : Scripted := ⟨Engine.standard {}, extended [shorter, longer], {}, .plain⟩
    let h := ((Host.create d.language "Rhai" "N").1.run readsQualified).1
    h.running?.isSome = true ∧
      ∀ r ∈ h.running?, ∃ p : Program, r.unit = unitOf "__" "N" (Engine.ofProgram p) ∧
        (constant p [⟨"My", default⟩, ⟨"Tools", default⟩] ⟨"K", default⟩ {}).1 = .ok (.int 7) := by
  intro d h
  refine ⟨by decide +kernel, fun r hr => ?_⟩
  simp only [d, h] at hr
  obtain ⟨a, ha, p, hp, hu, reached, -⟩ :=
    qualified_run {} (extended [shorter, longer]) {} .plain "Rhai" "N" readsQualified r hr
  have referenced : ∀ a ∈ lastSuccess (tried d.language "Rhai" "N" readsQualified),
      a.environment.libraries = ["system", "forms", "drawing", "xml"] ++ ["tools"] := by
    decide +kernel
  have registered : spaces (d.known a.environment.libraries) =
      (spaces (d.known ["system", "forms", "drawing", "xml"]) ++ [shorter]) ++ longer :: [] := by
    rw [referenced a ha, spaces_extended, List.append_assoc]
    rfl
  refine ⟨p, hu, ?_⟩
  refine (reached _ longer [] ["My", "Tools"] registered (by simp) (by decide) (by decide) (by simp)
    _ _ {} (.int 7) rfl ?_).mpr ⟨rfl, by simp⟩
  intro _ _ i hi
  exact absurd hi List.not_mem_nil

/-- the same two namespaces, and the script reads the constant in one order only -/
theorem call_hidden :
    let host (added : List (String × Space)) :=
      ((Host.create (⟨Engine.standard {}, extended added, {}, .plain⟩ : Scripted).language
        "Rhai" "N").1.run readsQualified).1
    ((host [shorter, longer]).call "M" "F" []).1.toOption.map Json.write = some "7" ∧
      (host [longer, shorter]).running?.isSome = true ∧
      ((host [longer, shorter]).call "M" "F" []).1.toOption.map Json.write = none ∧
      ¬ ((host [longer, shorter]).call "M" "F" []).1 = .ok (.int 7) := by
  intro host
  have failed : ((host [longer, shorter]).call "M" "F" []).1.toOption.map Json.write = none := by
    decide +kernel
  refine ⟨by decide +kernel, by decide +kernel, failed, fun hok => ?_⟩
  rw [hok] at failed
  cases failed

end Scripting.Dialect.Scripted
