import Scripting.Proofs.Dialect.Running
import Scripting.Proofs.Library.Tree
import Scripting.Proofs.Script.Identifier
import Scripting.Proofs.Script.Reading

/-!
# What the alias of an imported namespace stands for

An import statement of a host gives a namespace its last segment for an alias, and stands outside
all functions.  A call runs the body of a function and nothing else, so no function sees the alias;
a path that starts with it is looked up among the namespaces that are there from the start.

* `same_constants`, `same_noModule`   what such a path comes to where no import is called like it;
* `alias_run`                         the alias stands for its namespace if that has one segment,
                                      and for nothing if it has more: a script that reads
                                      `Tools::K` runs with a library `Tools` and fails with
                                      a library `My.Tools`.
-/

namespace Scripting.Script.Eval

open Library (Node Space)

/-- the constants of a namespace -/
def constants (s : Space) (root id : Ident) : Eval Value :=
  match s.constant? id.name with
  | some v => pure v
  | none => raise (.noVariable (root.name ++ "::" ++ id.name)) (some root.pos)

/-- no namespace -/
def noModule (root _ : Ident) : Eval Value := raise (.noModule root.name) (some root.pos)

theorem pathText_singleton (root : Ident) : pathText [root] = root.name := by
  rw [pathText, List.map_cons, List.map_nil, String.intercalate_singleton]

section
variable {p : Program} {short : String} (root id : Ident) (hroot : root.name = short)
include hroot

theorem space?_root {m : Machine} (hm : Free short m) : space? p [root] m =
    if (Assoc.get? short p.tree).isSome then (.ok ((Assoc.get? short p.tree).map Node.space), m)
    else (.error (.fault (.raised (.noModule short) (some root.pos))), m) := by
  subst hroot
  rw [space?_of_free p hm, pathText_singleton]
  rfl

theorem same_constants {s : Space} (h : (Assoc.get? short p.tree).map Node.space = some s) :
    Same short (constant p [root] id) (constants s root id) := by
  intro m hm
  have hs := space?_root (p := p) root hroot hm
  rw [h, if_pos (by rw [← Option.isSome_map, h]; rfl)] at hs
  have hc : constant p [root] id m = constants s root id m := by
    rw [constant, bind_apply, hs, pathText_singleton]
    rfl
  refine ⟨hc, ?_⟩
  rw [hc, constants]
  cases s.constant? id.name with
  | none => exact hm
  | some v => exact hm

theorem same_noModule (h : Assoc.get? short p.tree = none) :
    Same short (constant p [root] id) (noModule root id) := by
  intro m hm
  have hs := space?_root (p := p) root hroot hm
  rw [h, if_neg (by simp)] at hs
  have hc : constant p [root] id m = noModule root id m := by
    rw [constant, bind_apply, hs, ← hroot]
    rfl
  refine ⟨hc, ?_⟩
  rw [hc]
  exact hm

end

end Scripting.Script.Eval

namespace Scripting

open Library (Space Surroundings Tree)

theorem Script.Program.tree_of_compile {around : Surroundings} {settings : Settings}
    {flags : Flags} {spaces : List (String × Space)} {text : String} {p : Program}
    (h : Program.compile around settings flags spaces text = .ok p) :
    p.tree = Tree.ofList spaces := by
  unfold compile at h
  dsimp only at h
  cases hp : Parsed.ofText settings (Tree.ofList spaces).roots text with
  | error fault =>
    rw [hp] at h
    cases h
  | ok parsed =>
    rw [hp] at h
    simp only [bind, Except.bind] at h
    split at h
    · cases h
    · cases h
      rfl

theorem Dialect.Engine.standard_eq_ok {around : Surroundings} {settings : Settings}
    {flags : Flags} {spaces : List (String × Space)} {text : String} {c : Compiled} :
    standard around settings flags spaces text = .ok c ↔
      ∃ p, Script.Program.compile around settings flags spaces text = .ok p ∧ ofProgram p = c := by
  unfold standard
  cases Script.Program.compile around settings flags spaces text with
  | error fault => simp [Except.map]
  | ok p => simp [Except.map]

end Scripting

namespace Scripting.Dialect.Scripted

open Host (lastSuccess tried)
open Library (Bundle Catalog Space Surroundings Tree)
open Script (Program isIdentifier spares)
open Script.Eval (bound constants noModule reading)

/-- what a path of the alias alone stands for, where a namespace has `ids` before its alias: the
namespace itself, the root that it was registered below, or nothing -/
def aliased (ids : List String) (short : String) (s : Space) :
    Script.Ident → Script.Ident → Script.Eval Script.Value :=
  if ids = [] then constants s else if ids.head? = some short then constants {} else noModule

/-- among registered namespaces, of which no other one starts with the alias -/
theorem same_aliased {p : Program} {spaces : List (String × Space)} {ids : List String}
    {short : String} {s : Space} (hp : p.tree = Tree.ofList spaces)
    (hids : ∀ i ∈ ids ++ [short], isIdentifier i = true)
    (hs : Assoc.get? (dotted (ids ++ [short])) (Assoc.ofList spaces) = some s)
    (others : ∀ q ∈ spaces, q.1 ≠ dotted (ids ++ [short]) →
      (Library.segments q.1).head? ≠ some short)
    (root id : Script.Ident) (hroot : root.name = short) :
    Script.Eval.Same short (Script.Eval.constant p [root] id) (aliased ids short s root id) := by
  have hseg := Library.segments_dotted (by simp) hids
  unfold aliased
  cases ids with
  | nil =>
    rw [if_pos rfl]
    exact Script.Eval.same_constants root id hroot (hp ▸ (Tree.root_of_single others hseg).trans hs)
  | cons first rest =>
    rw [if_neg (List.cons_ne_nil first rest)]
    split
    · -- the alias is the root that its own namespace passes through
      rename_i h
      obtain rfl : first = short := Option.some_inj.mp h
      obtain ⟨b, path, hb⟩ : ∃ b path, rest ++ [first] = b :: path :=
        List.exists_cons_of_ne_nil (by simp)
      have hroots := Tree.root_of_longer others (hseg.trans (congrArg (first :: ·) hb))
      rw [hs] at hroots
      exact Script.Eval.same_constants root id hroot (hp ▸ hroots)
    · rename_i h
      refine Script.Eval.same_noModule root id hroot (hp ▸ Tree.root_of_none fun q hq => ?_)
      by_cases hn : q.1 = dotted (first :: rest ++ [short])
      · rw [hn, hseg]
        exact h
      · exact others q hq hn

/-- **What the alias of a namespace stands for**, in every function of every script that a host
over the standard engine runs.  Let the namespace be identifiers with dots between them, imported
or not, let no other registered one start with its last identifier, and let no function import
anything under that.  Then every call ends as if the alias were read as the namespace itself, if
that has one segment, and as if it were read as a namespace without constants or as no namespace
at all, if it has more. -/
theorem alias_run (around : Surroundings) (catalog : Catalog) (settings : Settings)
    (style : Script.Import.Style) (id space : String) (cs : List Command) :
    let d : Scripted := ⟨Engine.standard around, catalog, settings, style⟩
    let h := ((Host.create d.language id space).1.run cs).1
    ∀ r ∈ h.running?, ∃ a ∈ lastSuccess (tried d.language id space cs), ∃ p : Program,
      let registered := spaces (d.known a.environment.libraries)
      Program.compile around settings a.environment.flags registered
        (d.expanded a.environment.text) = .ok p ∧
      r.unit = unitOf settings.moduleSeparator space (Engine.ofProgram p) ∧
      ∀ (ids : List String) (short : String) (s : Space),
        (∀ i ∈ ids ++ [short], isIdentifier i = true) →
        Assoc.get? (dotted (ids ++ [short])) (Assoc.ofList registered) = some s →
        (∀ q ∈ registered, q.1 ≠ dotted (ids ++ [short]) →
          (Library.segments q.1).head? ≠ some short) →
        (∀ f ∈ p.functions, spares short f.body = true) →
        Script.Import.shortName (dotted (ids ++ [short])).toList = short.toList ∧
        ∀ f ∈ p.functions, ∀ args,
          p.call f args = p.callBy (reading p short (aliased ids short s) bound) f args := by
  intro d h r hr
  obtain ⟨a, ha, c, hc, -, rfl⟩ := running_scripted d id space cs r hr
  obtain ⟨p, hp, rfl⟩ := Engine.standard_eq_ok.mp hc
  refine ⟨a, ha, p, hp, rfl, fun ids short s hids hs others hspares => ⟨?_, ?_⟩⟩
  · exact Script.Import.shortName_dotted ids (hids short (List.mem_append_right _ List.mem_cons_self))
  · intro f hf args
    have htree := Program.tree_of_compile hp
    exact Script.call_reading hspares (same_aliased htree hids hs others) hf args

/-- the libraries of a host and one more, whose only namespace has the constant `K` -/
def tools (space : String) : Catalog :=
  (Catalog.standard.insert ⟨"tools", [(space, Space.ofConstants [("K", .int 7)])]⟩).1

/-- a script that reads the constant under the alias of the namespace -/
def reads (space : String) : List Command :=
  [.addReference "T" "tools", .addImport space,
    .setSource "fn M__F() \x7b Tools::K \x7d", .compile]

theorem alias_run_tools :
    let d : Scripted := ⟨Engine.standard {}, tools "Tools", {}, .plain⟩
    let h := ((Host.create d.language "Rhai" "N").1.run (reads "Tools")).1
    h.running?.isSome = true ∧
      ∀ r ∈ h.running?, ∃ p : Program, r.unit = unitOf "__" "N" (Engine.ofProgram p) ∧
        ∃ s : Space, (s.constant? "K").isSome = true ∧ ∀ f ∈ p.functions, ∀ args,
          p.call f args = p.callBy (reading p "Tools" (constants s) bound) f args := by
  intro d h
  refine ⟨by decide +kernel, fun r hr => ?_⟩
  simp only [d, h] at hr
  obtain ⟨a, ha, p, hp, hu, hall⟩ :=
    alias_run {} (tools "Tools") {} .plain "Rhai" "N" (reads "Tools") r hr
  have holds : ∀ a ∈ lastSuccess (tried d.language "Rhai" "N" (reads "Tools")),
      let registered := spaces (d.known a.environment.libraries)
      (∃ s ∈ Assoc.get? (dotted ["Tools"]) (Assoc.ofList registered),
        (s.constant? "K").isSome = true) ∧
      (∀ q ∈ registered, q.1 ≠ dotted ["Tools"] →
        (Library.segments q.1).head? ≠ some "Tools") ∧
      ∀ p ∈ (Program.compile {} {} a.environment.flags registered
          (d.expanded a.environment.text)).toOption,
        ∀ f ∈ p.functions, spares "Tools" f.body = true := by
    decide +kernel
  obtain ⟨⟨s, hs, hk⟩, others, spared⟩ := holds a ha
  refine ⟨p, hu, s, hk, ?_⟩
  exact (hall [] "Tools" s (by decide +kernel) hs others
    (spared p (congrArg Except.toOption hp))).2

/-- the alias of a namespace of two segments is of no use -/
theorem call_longer_alias :
    let d : Scripted := ⟨Engine.standard {}, tools "My.Tools", {}, .plain⟩
    let h := ((Host.create d.language "Rhai" "N").1.run (reads "My.Tools")).1
    let registered := spaces (d.known h.environment.libraries)
    h.running?.isSome = true ∧
      "My.Tools" ∈ h.environment.imports ∧
      (∃ s ∈ Assoc.get? "My.Tools" (Assoc.ofList registered), (s.constant? "K").isSome = true) ∧
      (∀ q ∈ registered, q.1 ≠ "My.Tools" → (Library.segments q.1).head? ≠ some "Tools") ∧
      ¬ (h.call "M" "F" []).1 = .ok (.int 7) := by
  intro d h registered
  have failed : (h.call "M" "F" []).1.toBool = false := by decide +kernel
  refine ⟨by decide +kernel, by decide +kernel, by decide +kernel, by decide +kernel,
    fun hok => ?_⟩
  rw [hok] at failed
  cases failed

end Scripting.Dialect.Scripted
