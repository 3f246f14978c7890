import Scripting.Proofs.Dialect.Source

/-!
# Event sources whose namespace a library declares

What a path says of its type is what the catalog knows the namespace of the type by: the import of
an event source names the namespace as the library declares it, so the import is found.

* `resolves_iff`      an import is found exactly if a library among the references declares it;
* `mem_of_first?`     so the import that a compile fails for is one that no such library declares;
* `libraries_source`  an event source brings one reference, wherever in a run it is added;
* `source_declared`   all of it, for every path, its type arguments, and every run.
-/

namespace Scripting

open Script

namespace TypePath

theorem isWord_dotted {ids : List String} (hne : ids ≠ []) (hn : ∀ s ∈ ids, IsName s) :
    Import.IsWord (dotted ids).toList := by
  constructor
  · obtain ⟨s, rest, rfl⟩ := List.exists_cons_of_ne_nil hne
    obtain ⟨c, cs, hs⟩ := List.exists_cons_of_ne_nil (hn s List.mem_cons_self).ne_nil
    rw [toList_dotted, List.map_cons, hs]
    cases rest with
    | nil =>
      rw [List.map_nil, List.intercalate_singleton]
      exact List.cons_ne_nil c cs
    | cons t rest =>
      rw [List.map_cons, List.intercalate_cons_cons]
      exact List.cons_ne_nil c _
  · intro c hc
    rcases mem_dotted hn hc with rfl | hname
    · decide
    · exact not_isBlank_of_isNameChar hname

/-- the last segment is what a namespace is called by -/
theorem shortName_dotted {ids : List String} (hne : ids ≠ []) (hn : ∀ s ∈ ids, IsName s) :
    Import.shortName (dotted ids).toList = (ids.getLast hne).toList := by
  obtain ⟨front, last, rfl⟩ := List.eq_nil_or_concat' ids |>.resolve_left hne
  rw [shortName_of_proper hn, List.getLast_concat]

end TypePath

/-! ## imports that are not found -/

namespace Script.Import

theorem first?_concat (texts : List String) (s : String) : first? (texts ++ [s]) =
    some (match first? texts with
      | none => s
      | some t => if s < t then s else t) := by
  unfold first?
  rw [List.foldl_concat]
  cases texts.foldl _ none <;> rfl

theorem mem_of_first? {texts : List String} {s : String} (h : first? texts = some s) :
    s ∈ texts := by
  induction texts using List.reverseRecOn generalizing s with
  | nil => cases h
  | append_singleton texts t ih =>
    rw [first?_concat] at h
    obtain rfl := Option.some_inj.mp h
    cases hfirst : first? texts with
    | none => exact List.mem_append_right _ List.mem_cons_self
    | some u =>
      -- the least of both is one of them
      dsimp only
      split
      · exact List.mem_append_right _ List.mem_cons_self
      · exact List.mem_append_left _ (ih hfirst)

theorem get?_of_unresolved? {resolver : List (String × Library.Space)} {script : Parsed}
    {path : String} (h : unresolved? resolver script = some path) :
    (Assoc.get? path resolver).isSome = false := by
  have hnone := (List.mem_filter.mp (mem_of_first? h)).2
  rwa [← Option.not_isSome, Bool.not_eq_true'] at hnone

end Script.Import

namespace Dialect.Scripted

open Library (Catalog Surroundings Tree)

section
variable (d : Scripted)

/-- whether an import of `path` is found: a namespace of a referenced library has that name -/
def Resolves (e : Environment) (path : String) : Prop :=
  (Assoc.get? path (Assoc.ofList (spaces (d.known e.libraries)))).isSome = true

theorem resolves_iff {e : Environment} {path : String} : d.Resolves e path ↔
    ∃ l ∈ e.libraries, ∃ b, d.catalog.get? l = some b ∧ path ∈ b.spaces.map Prod.fst := by
  rw [Resolves, Tree.isSome_get?_assoc_ofList, spaces, known, List.map_flatMap, List.mem_flatMap]
  simp only [List.mem_filterMap]
  constructor
  · rintro ⟨b, ⟨l, hl, hget⟩, hpath⟩
    exact ⟨l, hl, b, hget, hpath⟩
  · rintro ⟨l, hl, b, hget, hpath⟩
    exact ⟨b, ⟨l, hl, hget⟩, hpath⟩

theorem Resolves.mono {d : Scripted} {e e' : Environment} (h : e.libraries ⊆ e'.libraries)
    {path : String} (hpath : d.Resolves e path) : d.Resolves e' path := by
  obtain ⟨l, hl, hfound⟩ := d.resolves_iff.mp hpath
  exact d.resolves_iff.mpr ⟨l, h hl, hfound⟩

/-- how the engine reads the text of an environment -/
def parsed (e : Environment) : Except CompileFault Parsed :=
  Parsed.ofText d.settings (Tree.ofList (spaces (d.known e.libraries))).roots (d.expanded e.text)

/-- a compile fails for a syntax error, or for an import that is not found -/
theorem made_error {around : Surroundings} (hengine : d.engine = Engine.standard around)
    {e : Environment} {space : String} {f : CompileFault}
    (h : d.made (Host.requestOf e space) = .error f) :
    d.parsed e = .error f ∨ ∃ path, f = ⟨.moduleNotFound path, none⟩ ∧ ¬ d.Resolves e path := by
  rw [made_eq hengine, compile_eq] at h
  unfold parsed
  cases hp : Parsed.ofText d.settings (Tree.ofList (spaces (d.known e.libraries))).roots
      (d.expanded e.text) with
  | error g =>
    rw [hp] at h
    exact .inl (congrArg Except.error (Except.error.inj h))
  | ok script =>
    rw [hp] at h
    dsimp only [Except.bind] at h
    split at h
    · rename_i path hunresolved
      have hmissing := Import.get?_of_unresolved? hunresolved
      refine .inr ⟨path, (Except.error.inj h).symm, fun hfound => ?_⟩
      rw [Resolves, hmissing] at hfound
      cases hfound
    · cases h

end

/-! ## event sources -/

section
variable {d : Scripted} {source : String} (haccepts : d.language.accepts source = true)
  (id home type : String) (before later : List Command)
include haccepts

/-- an event source brings a reference to the library of its type -/
theorem libraries_source :
    ∃ front behind,
      ((Host.create d.language id home).1.run (before ++ later)).1.environment.libraries =
        front ++ behind ∧
      ((Host.create d.language id home).1.run
          (before ++ .addSource source type :: later)).1.environment.libraries =
        front ++ (TypePath.describe type).library :: behind := by
  have hreference : Command.reference? d.language (.addSource source type) =
      some ⟨Environment.referenceName source, (TypePath.describe type).library⟩ := by
    simp [haccepts]
  refine ⟨((Host.setup ++ before).filterMap (Command.reference? d.language)).map (·.library),
    (later.filterMap (Command.reference? d.language)).map (·.library), ?_, ?_⟩
  · rw [Environment.libraries, Host.references_run, ← List.append_assoc, List.filterMap_append,
      List.map_append]
  · rw [Environment.libraries, Host.references_run, ← List.append_assoc, List.filterMap_append,
      List.map_append, List.filterMap_cons_some hreference, List.map_cons]

/-- a reference to a library that is there leaves the libraries that are not as they are -/
theorem absent_source (hthere : (d.catalog.get? (TypePath.describe type).library).isSome = true) :
    d.absent ((Host.create d.language id home).1.run
        (before ++ .addSource source type :: later)).1.environment.libraries =
      d.absent ((Host.create d.language id home).1.run (before ++ later)).1.environment.libraries := by
  obtain ⟨front, behind, hwithout, hsourced⟩ :=
    libraries_source haccepts id home type before later
  have hkept : ¬ (d.catalog.get? (TypePath.describe type).library).isNone = true := by
    rw [← Option.not_isSome, hthere]
    exact Bool.false_ne_true
  rw [hwithout, hsourced, absent, absent, List.filter_append, List.filter_append,
    List.filter_cons_of_neg (p := fun l => (d.catalog.get? l).isNone) hkept]

theorem space_mem_imports {space : String} (hs : (TypePath.describe type).space = some space) :
    space ∈ ((Host.create d.language id home).1.run
      (before ++ .addSource source type :: later)).1.environment.imports := by
  have himport : Command.import? d.language (.addSource source type) = some space := by
    simp [haccepts, hs]
  rw [Host.imports_run]
  exact List.mem_append_right _ (List.mem_filterMap.mpr ⟨.addSource source type, by simp, himport⟩)

end

/-- **Event sources whose namespace is declared.**  A type in a crate is described by the last segment
of its path, the first one, and all but the last, whatever its type arguments; a single segment
belongs to `std`.  In both styles the import of the namespace is read as a statement that names the
namespace as it is and calls it by its last segment.  If a library called like the crate is in the
catalog and declares the namespace, the event source is the reason of no report: no library is
missing that is not missing without it, its namespace is found, and an import that a compile fails
for was not found without it either. -/
theorem source_declared (around : Surroundings) (catalog : Catalog) (settings : Settings)
    (style : Import.Style) :
    let d : Scripted := ⟨Engine.standard around, catalog, settings, style⟩
    (∀ name args, IsName name → TypePath.Arguments args →
      TypePath.describe (String.ofList (name.toList ++ args)) = ⟨name, "std", none⟩) ∧
    ∀ crate modules name args, (∀ s ∈ crate :: modules ++ [name], IsName s) →
      TypePath.Arguments args →
      let type := String.ofList
        ([':', ':'].intercalate ((crate :: modules ++ [name]).map String.toList) ++ args)
      let space := dotted (crate :: modules)
      let short := (crate :: modules).getLast (List.cons_ne_nil crate modules)
      TypePath.describe type = ⟨name, crate, some space⟩ ∧
      (∀ text, d.expanded (d.language.importStatement space ++ text) =
        "import \"" ++ space ++ "\" as " ++ short ++ ";\n" ++ d.expanded text) ∧
      ∀ b, catalog.get? crate = some b → space ∈ b.spaces.map Prod.fst →
      ∀ (id home source : String) (before later : List Command), d.language.accepts source = true →
        let start := (Host.create d.language id home).1
        let without := (start.run (before ++ later)).1
        let sourced := (start.run (before ++ .addSource source type :: later)).1
        crate ∈ sourced.environment.libraries ∧ space ∈ sourced.environment.imports ∧
        d.Resolves sourced.environment space ∧
        (∀ path, d.Resolves without.environment path → d.Resolves sourced.environment path) ∧
        (∃ absent : List String, crate ∉ absent ∧
          (without.step .compile).1.report = absent.map notFound ++
            faults (d.made (Host.requestOf without.environment home)) ∧
          (sourced.step .compile).1.report = absent.map notFound ++
            faults (d.made (Host.requestOf sourced.environment home))) ∧
        ∀ f, d.made (Host.requestOf sourced.environment home) = .error f →
          d.parsed sourced.environment = .error f ∨
          ∃ path, f = ⟨.moduleNotFound path, none⟩ ∧ path ≠ space ∧
            ¬ d.Resolves without.environment path := by
  intro d
  refine ⟨fun name args hn hargs => TypePath.describe_name hn hargs, ?_⟩
  intro crate modules name args hn hargs type space short
  have hdescribe : TypePath.describe type = ⟨name, crate, some space⟩ :=
    TypePath.describe_declared hn hargs
  have hnames : ∀ s ∈ crate :: modules, IsName s := fun s hs => hn s (List.mem_append_left _ hs)
  refine ⟨hdescribe, fun text => ?_, ?_⟩
  · have hne := List.cons_ne_nil crate modules
    rw [expanded_import_append d (TypePath.isWord_dotted hne hnames),
      TypePath.shortName_dotted hne hnames, String.ofList_toList]
  intro b hget hdeclares id home source before later haccepts start without sourced
  obtain ⟨front, behind, hwithout, hsourced⟩ :=
    libraries_source haccepts id home type before later
  rw [hdescribe] at hsourced
  have hlibrary : crate ∈ sourced.environment.libraries := by
    rw [hsourced]
    exact List.mem_append_right _ List.mem_cons_self
  have hmore : without.environment.libraries ⊆ sourced.environment.libraries := by
    rw [hwithout, hsourced]
    exact List.append_subset.mpr ⟨List.subset_append_left _ _,
      List.subset_append_of_subset_right _ (List.subset_cons_self crate behind)⟩
  have hresolves : d.Resolves sourced.environment space :=
    d.resolves_iff.mpr ⟨crate, hlibrary, b, hget, hdeclares⟩
  have hthere : (d.catalog.get? crate).isSome = true := Option.isSome_iff_exists.mpr ⟨b, hget⟩
  have habsent : d.absent sourced.environment.libraries = d.absent without.environment.libraries :=
    absent_source haccepts id home type before later (by rw [hdescribe]; exact hthere)
  have hpresent : crate ∉ d.absent without.environment.libraries := by
    intro hm
    have hnone := (List.mem_filter.mp hm).2
    rw [← Option.not_isSome, hthere] at hnone
    cases hnone
  obtain ⟨-, hreport⟩ := step_compile_run d id home (before ++ later)
  obtain ⟨-, hreport'⟩ := step_compile_run d id home (before ++ .addSource source type :: later)
  have himported : space ∈ sourced.environment.imports :=
    space_mem_imports haccepts id home type before later (by rw [hdescribe])
  refine ⟨hlibrary, himported, hresolves, fun path => Resolves.mono hmore, ⟨_, hpresent, ?_, ?_⟩,
    fun f hf => ?_⟩
  · rw [hreport, answer_report]
    rfl
  · rw [hreport', answer_report, ← habsent]
    rfl
  · refine (d.made_error rfl hf).imp_right ?_
    rintro ⟨path, rfl, hunresolved⟩
    refine ⟨path, rfl, ?_, fun h => hunresolved (h.mono hmore)⟩
    rintro rfl
    exact hunresolved hresolves

/-- a library of one namespace without anything in it -/
def events : Library.Bundle := ⟨"my_app", [("my_app.events", {})]⟩

/-- a generic type whose namespace is declared, and one that stands in no path -/
theorem source_declared_clicker :
    let d : Scripted := ⟨Engine.standard {}, (Catalog.standard.insert events).1, {}, .keyword⟩
    let h := ((Host.create d.language "Rhai" "N").1.run
      [seven, .addSource "clicks" "my_app::events::Clicker<Vec<std::cell::Cell<u32>>>"]).1
    TypePath.describe "Clicker<u8>" = ⟨"Clicker", "std", none⟩ ∧
      TypePath.describe "my_app::events::Clicker<Vec<std::cell::Cell<u32>>>" =
        ⟨"Clicker", "my_app", some "my_app.events"⟩ ∧
      d.expanded ("imports my_app.events\n" ++ "7") =
        "import \"my_app.events\" as events;\n" ++ "7" ∧
      d.Resolves h.environment "my_app.events" ∧ (h.step .compile).1.report = [] := by
  obtain ⟨halone, hall⟩ := source_declared {} (Catalog.standard.insert events).1 {} .keyword
  have hvec := halone "Clicker" "<u8>".toList (by decide) (by decide)
  obtain ⟨hdescribe, htext, hfound⟩ := hall "my_app" ["events"] "Clicker"
    "<Vec<std::cell::Cell<u32>>>".toList (by decide) (by decide)
  obtain ⟨-, -, hresolves, -⟩ := hfound events rfl (by decide) "Rhai" "N" "clicks" [seven] []
    (by decide +kernel)
  exact ⟨hvec, hdescribe, htext "7", hresolves, by decide +kernel⟩

end Dialect.Scripted
end Scripting
