import Scripting.Dialect.Standard
import Scripting.Proofs.Dialect.Answer
import Scripting.Proofs.Dialect.Keyword
import Scripting.Proofs.Host.Replay
import Scripting.Proofs.Library.Tree
import Scripting.Proofs.Script.Imported
import Scripting.Proofs.TypePath.Text

/-!
# Event sources of any type

An event source brings a reference to the library of its type and an import of its namespace, and
the import stands before every body from then on.

* `expanded_header`   the engine reads imports as lines of their own, whatever their style;
* `reads_line`        one more of them, among others, brings no syntax error;
* `report_of_reads`   a text without syntax errors fails for what is not there at most;
* `reads_sourced`     so an event source that was added on the way brings no syntax error;
* `source_usable`     all of it, for every type and every run;
* `source_reference`  a reference to a type in a crate names a library that is not there, and may
                      bring one.
-/

namespace Scripting

open Script Text

namespace TypePath

/-- whether the import of its namespace, if it has one, can be spelled: the alias is an identifier,
and the path no longer than a text may be -/
def Spelled (limit : Nat) (p : TypePath) : Prop :=
  ∀ space ∈ p.space, isIdentifier (String.ofList (Import.shortName space.toList)) = true ∧
    (limit = 0 ∨ Lexer.bytes space.toList ≤ limit)

theorem isName_of_proper {p : TypePath} (h : p.Proper) {space : String} (hs : space ∈ p.space) :
    ∃ ids short, space = dotted (ids ++ [short]) ∧ ∀ s ∈ ids ++ [short], IsName s := by
  obtain ⟨modules, rfl, hm⟩ := h.2 space hs
  obtain ⟨ids, short, hids⟩ := List.eq_nil_or_concat' (p.library :: modules) |>.resolve_left
    (List.cons_ne_nil _ _)
  refine ⟨ids, short, by rw [hids], ?_⟩
  rw [← hids]
  exact List.forall_mem_cons.mpr ⟨h.1, hm⟩

/-- the characters of a dotted path of names -/
theorem mem_dotted {ids : List String} (h : ∀ s ∈ ids, IsName s) {c : Char}
    (hc : c ∈ (dotted ids).toList) : c = '.' ∨ isNameChar c = true := by
  rw [toList_dotted] at hc
  rcases mem_intercalate hc with hc | ⟨w, hw, hc⟩
  · exact .inl (by simpa using hc)
  · obtain ⟨s, hs, rfl⟩ := List.mem_map.mp hw
    exact .inr ((h s hs).chars c hc)

theorem not_isBlank_of_isNameChar {c : Char} (h : isNameChar c = true) : isBlank c = false := by
  rw [isNameChar, Bool.or_eq_true, Bool.and_eq_true, Bool.not_eq_true'] at h
  rcases h with h | h
  · exact not_isBlank_of_isWordChar h
  · exact h.2

/-- **The namespace of a type that is understood can be imported.** -/
theorem importable_of_proper {p : TypePath} (h : p.Proper) {limit : Nat} (hspelled : p.Spelled limit)
    {space : String} (hs : space ∈ p.space) : Importable limit space := by
  obtain ⟨ids, short, hdotted, hnames⟩ := isName_of_proper h hs
  obtain ⟨hcalled, hfits⟩ := hspelled space hs
  subst hdotted
  refine ⟨⟨fun hn => ?_, fun c hc => ?_⟩, fun c hc => ?_, hfits, hcalled⟩
  · rw [hn] at hcalled
    exact absurd hcalled (by decide)
  · rcases mem_dotted hnames hc with rfl | hc
    · decide
    · exact not_isBlank_of_isNameChar hc
  · rcases mem_dotted hnames hc with rfl | hc
    · decide
    · exact ⟨ne_of_isNameChar hc (by decide), ne_of_isNameChar hc (by decide)⟩

theorem shortName_of_proper {ids : List String} {short : String}
    (hnames : ∀ s ∈ ids ++ [short], IsName s) :
    Import.shortName (dotted (ids ++ [short])).toList = short.toList := by
  have hshort := hnames short (List.mem_append_right _ List.mem_cons_self)
  refine Import.shortName_last ids hshort.ne_nil fun c hc => ?_
  have hname := hshort.chars c hc
  rw [Import.isSeparator, Bool.or_eq_false_iff, beq_eq_false_iff_ne, beq_eq_false_iff_ne]
  exact ⟨ne_of_isNameChar hname (by decide), ne_of_isNameChar hname (by decide)⟩

end TypePath

namespace Dialect.Scripted

open Environment (headerOf)
open Library (Catalog Space Surroundings Tree)

/-! ## texts with import lines -/

section
variable (d : Scripted)

theorem expanded_line {space : String} (h : Import.IsWord space.toList) (t : String) :
    d.expanded (d.language.importStatement space ++ t) =
      String.ofList (importLine space ++ (d.expanded t).toList) := by
  have plain : Import.header .plain space = String.ofList (importLine space) := rfl
  obtain ⟨engine, catalog, settings, style⟩ := d
  cases style with
  | plain =>
    show Import.header .plain space ++ t = String.ofList (importLine space ++ t.toList)
    rw [plain, String.ofList_append, String.ofList_toList]
  | keyword =>
    show Import.written (Import.header .keyword space ++ t) =
      String.ofList (importLine space ++ (Import.written t).toList)
    rw [Import.written_append (Import.endsLine_header .keyword space), Import.written_header h, plain,
      String.ofList_append, String.ofList_toList]

theorem expanded_empty : d.expanded "" = "" := by
  obtain ⟨engine, catalog, settings, style⟩ := d
  cases style <;> rfl

theorem importLine_eq (space : String) : importLine space =
    "import \"".toList ++ space.toList ++ "\" as ".toList ++ Import.shortName space.toList ++
      ";\n".toList := by
  have hend : [';'] ++ ['\n'] = ";\n".toList := rfl
  unfold importLine Import.statement
  rw [List.append_assoc _ [';']]
  exact congrArg _ hend

/-- an import statement in front of any text -/
theorem expanded_import_append {space : String} (h : Import.IsWord space.toList) (t : String) :
    d.expanded (d.language.importStatement space ++ t) =
      "import \"" ++ space ++ "\" as " ++ String.ofList (Import.shortName space.toList) ++ ";\n" ++
        d.expanded t := by
  rw [expanded_line d h, importLine_eq]
  apply String.toList_inj.mp
  simp only [String.toList_ofList, String.toList_append]

/-- an import statement alone -/
theorem expanded_import {space : String} (h : Import.IsWord space.toList) :
    d.expanded (d.language.importStatement space) =
      "import \"" ++ space ++ "\" as " ++ String.ofList (Import.shortName space.toList) ++ ";\n" := by
  have halone := expanded_import_append d h ""
  rwa [String.append_empty, expanded_empty, String.append_empty] at halone

theorem expanded_header {imports : List String} (h : ∀ s ∈ imports, Import.IsWord s.toList)
    (t : String) : d.expanded (headerOf d.language imports ++ t) =
      String.ofList (imports.reverse.flatMap importLine ++ (d.expanded t).toList) := by
  induction imports using List.reverseRecOn with
  | nil =>
    show d.expanded ("" ++ t) = String.ofList (d.expanded t).toList
    rw [String.empty_append, String.ofList_toList]
  | append_singleton imports s ih =>
    obtain ⟨h, hs⟩ := List.forall_mem_append.mp h
    have hword := hs s List.mem_cons_self
    rw [Environment.headerOf_concat, String.append_assoc, expanded_line d hword, ih h,
      String.toList_ofList, List.reverse_concat, List.flatMap_cons, List.append_assoc]

/-- whether the text of an environment is free of syntax errors -/
def Reads (e : Environment) : Prop :=
  Readable d.settings (Tree.ofList (spaces (d.known e.libraries))).roots (d.expanded e.text)

theorem known_subset {libraries libraries' : List String} (h : libraries ⊆ libraries') :
    d.known libraries ⊆ d.known libraries' := by
  intro b hb
  obtain ⟨l, hl, hget⟩ := List.mem_filterMap.mp hb
  exact List.mem_filterMap.mpr ⟨l, h hl, hget⟩

theorem roots_known {libraries libraries' : List String} (h : libraries ⊆ libraries') :
    (Tree.ofList (spaces (d.known libraries))).roots ⊆
      (Tree.ofList (spaces (d.known libraries'))).roots := by
  refine Tree.roots_subset fun q hq => ?_
  obtain ⟨b, hb, hq⟩ := List.mem_flatMap.mp hq
  exact List.mem_flatMap.mpr ⟨b, known_subset d h hb, hq⟩

/-- **One more import** and more libraries bring no syntax error. -/
theorem reads_line {e e' : Environment} (libraries : e.libraries ⊆ e'.libraries)
    (hlimit : Parser.Allows d.settings.maxExprDepth) {imports : List String} {added : Option String}
    {rest : String} (text : e.text = headerOf d.language imports ++ rest)
    (text' : e'.text =
      headerOf d.language imports ++ (headerOf d.language added.toList ++ rest))
    (himports : ∀ s ∈ imports, Importable d.settings.maxStringSize s)
    (hadded : ∀ s ∈ added, Importable d.settings.maxStringSize s) (h : d.Reads e) : d.Reads e' := by
  have words : ∀ s ∈ imports, Import.IsWord s.toList := fun s hs => (himports s hs).word
  have hroots := roots_known d libraries
  unfold Reads at h ⊢
  rw [text, expanded_header d words] at h
  rw [text', expanded_header d words]
  cases added with
  | none => exact h.mono hroots
  | some space =>
    have hspace := hadded space rfl
    have alone : headerOf d.language (some space).toList = d.language.importStatement space :=
      String.append_empty
    rw [alone, expanded_line d hspace.word, String.toList_ofList]
    exact readable_line (fun s hs => himports s (List.mem_reverse.mp hs)) hroots hlimit hspace h

end

/-! ## what the standard engine makes of a text -/

section
variable {around : Surroundings} {settings : Settings} {flags : Flags}
  {registered : List (String × Space)} {text : String}

theorem compile_eq : Program.compile around settings flags registered text =
    (Parsed.ofText settings (Tree.ofList registered).roots text).bind fun parsed =>
      let script := if flags.debugInfo then parsed else parsed.fold settings.maxStringSize
      match Import.unresolved? (Assoc.ofList registered) script with
      | some path => .error ⟨.moduleNotFound path, none⟩
      | none => .ok ⟨script.functions, Tree.ofList registered, Assoc.ofList registered, settings,
          around⟩ := rfl

theorem readable_of_compile {p : Program}
    (h : Program.compile around settings flags registered text = .ok p) :
    Readable settings (Tree.ofList registered).roots text := by
  rw [compile_eq] at h
  cases hp : Parsed.ofText settings (Tree.ofList registered).roots text with
  | error f =>
    rw [hp] at h
    cases h
  | ok parsed => exact ⟨parsed, hp⟩

/-- a text without syntax errors fails for a namespace that is not there at most -/
theorem compile_error (hr : Readable settings (Tree.ofList registered).roots text) {f : CompileFault}
    (h : Program.compile around settings flags registered text = .error f) :
    ∃ path, f = ⟨.moduleNotFound path, none⟩ := by
  obtain ⟨parsed, hp⟩ := hr
  rw [compile_eq, hp] at h
  dsimp only [Except.bind] at h
  split at h
  · rename_i path _
    exact ⟨path, (Except.error.inj h).symm⟩
  · cases h

end

/-- the diagnostic of a namespace that is not there -/
def moduleNotFound (path : String) : Diagnostic :=
  Diagnostic.errorAt "script" 0 0 ("Module not found: " ++ path)

section
variable {d : Scripted} {around : Surroundings} (hengine : d.engine = Engine.standard around)
  {e : Environment} {space : String}
include hengine

theorem made_eq : d.made (Host.requestOf e space) =
    (Program.compile around d.settings Flags.standard (spaces (d.known e.libraries))
      (d.expanded e.text)).map Engine.ofProgram := by
  unfold made
  rw [hengine]
  rfl

theorem reads_of_unit (h : (d.answer (Host.requestOf e space)).unit?.isSome = true) :
    d.Reads e := by
  have hmade := answer_report d (r := Host.requestOf e space)
  rw [(answer_unit_iff d).mp h, made_eq hengine] at hmade
  cases hc : Program.compile around d.settings Flags.standard (spaces (d.known e.libraries))
      (d.expanded e.text) with
  | ok p => exact readable_of_compile hc
  | error f =>
    rw [hc] at hmade
    exact absurd hmade.symm (List.append_ne_nil_of_right_ne_nil _ (List.cons_ne_nil _ _))

/-- what is reported of a text without syntax errors -/
theorem report_of_reads (h : d.Reads e) : ∀ x ∈ (d.answer (Host.requestOf e space)).report,
    (∃ library, x = notFound library) ∨ ∃ path, x = moduleNotFound path := by
  intro x hx
  rw [answer_report, made_eq hengine] at hx
  rcases List.mem_append.mp hx with hx | hx
  · obtain ⟨library, -, rfl⟩ := List.mem_map.mp hx
    exact .inl ⟨library, rfl⟩
  · cases hc : Program.compile around d.settings Flags.standard (spaces (d.known e.libraries))
        (d.expanded e.text) with
    | ok p =>
      rw [hc] at hx
      cases hx
    | error f =>
      obtain ⟨path, rfl⟩ := compile_error h hc
      rw [hc] at hx
      exact .inr ⟨path, List.mem_singleton.mp hx⟩

end

end Dialect.Scripted

/-! ## runs -/

namespace Host

open Environment

section
variable (l : Language) (id space : String)

theorem imports_run (cs : List Command) :
    ((create l id space).1.run cs).1.environment.imports =
      defaultImports ++ cs.filterMap (Command.import? l) := by
  rw [environment_run, listed_after (·.imports) Command.import? (fun e c => by rw [change_eq]),
    List.filterMap_append]
  rfl

theorem references_run (cs : List Command) :
    ((create l id space).1.run cs).1.environment.references =
      (setup ++ cs).filterMap (Command.reference? l) := by
  rw [environment_run, listed_after (·.references) Command.reference? fun e c => by rw [change_eq]]
  rfl

theorem body_run (cs : List Command) :
    ((create l id space).1.run cs).1.environment.body = lastBody cs := by
  rw [environment_run, latest_after (P := fun _ => True) (fun _ _ _ => trivial) (·.body)
    (fun _ => Command.body?) (fun e c _ => by rw [change_eq]) trivial, List.filterMap_append]
  rfl

theorem headerOf_append (imports later : List String) :
    headerOf l (imports ++ later) = headerOf l later ++ headerOf l imports := by
  rw [headerOf_eq_join, headerOf_eq_join, headerOf_eq_join, List.reverse_append, List.map_append,
    String.join_append]

theorem text_run (cs : List Command) :
    ((create l id space).1.run cs).1.environment.text =
      headerOf l (defaultImports ++ cs.filterMap (Command.import? l)) ++ lastBody cs := by
  have hregular := regular_run l id space cs
  rw [Regular, imports_run, run_environment, run_language] at hregular
  rw [Environment.text, body_run, run_environment, hregular]

/-- what was imported later stands before, and what was imported earlier behind -/
theorem text_run_append (before later : List Command) :
    ((create l id space).1.run (before ++ later)).1.environment.text =
      headerOf l (later.filterMap (Command.import? l)) ++
        (headerOf l (defaultImports ++ before.filterMap (Command.import? l)) ++
          lastBody (before ++ later)) := by
  rw [text_run, List.filterMap_append, ← List.append_assoc, headerOf_append, String.append_assoc]

end

end Host

namespace Dialect.Scripted

open Library (Catalog Surroundings)

/-- **An event source that was added on the way.** -/
theorem reads_sourced {d : Scripted} {id space name type : String} {before later : List Command}
    (haccepts : d.language.accepts name = true)
    (hlimit : Parser.Allows d.settings.maxExprDepth)
    (hsource : ∀ s ∈ (TypePath.describe type).space, Importable d.settings.maxStringSize s)
    (hlater : ∀ s ∈ later.filterMap (Command.import? d.language),
      Importable d.settings.maxStringSize s)
    (h : d.Reads ((Host.create d.language id space).1.run (before ++ later)).1.environment) :
    d.Reads ((Host.create d.language id space).1.run
      (before ++ .addSource name type :: later)).1.environment := by
  have himports : (Command.addSource name type :: later).filterMap (Command.import? d.language) =
      (TypePath.describe type).space.toList ++ later.filterMap (Command.import? d.language) := by
    have himport : Command.import? d.language (.addSource name type) =
        (TypePath.describe type).space := by
      simp [haccepts]
    cases hs : (TypePath.describe type).space with
    | none => exact List.filterMap_cons_none (himport.trans hs)
    | some space => exact List.filterMap_cons_some (himport.trans hs)
  have hbody : lastBody (before ++ .addSource name type :: later) = lastBody (before ++ later) := by
    rw [lastBody, List.filterMap_append, List.filterMap_cons_none rfl, ← List.filterMap_append]
    rfl
  have text' := Host.text_run_append d.language id space before (.addSource name type :: later)
  rw [himports, hbody, Host.headerOf_append, String.append_assoc] at text'
  have libraries : ((Host.create d.language id space).1.run (before ++ later)).1.environment.libraries ⊆
      ((Host.create d.language id space).1.run
        (before ++ .addSource name type :: later)).1.environment.libraries := by
    unfold Environment.libraries
    rw [Host.references_run, Host.references_run]
    exact List.map_subset _ (List.filterMap_subset _
      (((List.sublist_cons_self _ later).append_left before).append_left Host.setup).subset)
  exact reads_line d libraries hlimit (Host.text_run_append d.language id space before later) text'
    hlater hsource h

/-- **An event source of any type.**  The type is understood exactly if it is a path, which gives its
crate and its modules, or has none in it, which gives the library `std`.  If it is understood, and its
namespace can be spelled in an import, then behind every run the host refers to the library and has
the namespace among its imports, the engine reads the import as a statement with the last segment for
an alias, and the event source is the reason of no syntax error: a body that can be read without it
can be read with it, and what its compile reports are libraries and namespaces that are not there. -/
theorem source_usable (around : Surroundings) (catalog : Catalog) (settings : Settings)
    (style : Import.Style) (t : TypeText) (hn : t.Named) :
    let d : Scripted := ⟨Engine.standard around, catalog, settings, style⟩
    let p := TypePath.describe (String.ofList t.text)
    (p.Proper ↔ t.isPath = true ∨ t.hasPath = false) ∧
    (∀ crate modules name args, t = .path crate modules name args →
      p = ⟨name, crate, some (dotted (crate :: modules))⟩) ∧
    (t.hasPath = false → p = ⟨String.ofList t.text, "std", none⟩) ∧
    ∀ (id space name : String) (before later : List Command), d.language.accepts name = true →
      p.Proper → p.Spelled settings.maxStringSize → Parser.Allows settings.maxExprDepth →
      (∀ s ∈ later.filterMap (Command.import? d.language), Importable settings.maxStringSize s) →
      let start := (Host.create d.language id space).1
      let without := (start.run (before ++ later)).1
      let sourced := (start.run (before ++ .addSource name (String.ofList t.text) :: later)).1
      ⟨name ++ "Ref", p.library⟩ ∈ sourced.environment.references ∧
      (∀ s ∈ p.space, s ∈ sourced.environment.imports ∧
        ∃ ids short, s = dotted (ids ++ [short]) ∧ isIdentifier short = true ∧
          d.expanded (d.language.importStatement s) =
            "import \"" ++ s ++ "\" as " ++ short ++ ";\n") ∧
      ((without.step .compile).2.1 = .flag true → d.Reads without.environment) ∧
      (d.Reads without.environment → d.Reads sourced.environment ∧
        ∀ x ∈ (sourced.step .compile).1.report,
          (∃ library, x = notFound library) ∨ ∃ path, x = moduleNotFound path) := by
  intro d p
  refine ⟨TypePath.proper_iff t hn, ?_, fun h => TypePath.describe_uncut (t.uncut_text hn h), ?_⟩
  · rintro crate modules name args rfl
    exact TypePath.describe_path hn.1 args
  intro id space name before later haccepts hproper hspelled hlimit hlater start without sourced
  have importable : ∀ s ∈ p.space, Importable settings.maxStringSize s := fun s hs =>
    TypePath.importable_of_proper hproper hspelled hs
  refine ⟨?_, ?_, ?_, ?_⟩
  · rw [Host.references_run]
    refine List.mem_filterMap.mpr ⟨.addSource name (String.ofList t.text), by simp, ?_⟩
    simp [haccepts, p, Environment.referenceName]
  · intro s hs
    constructor
    · rw [Host.imports_run]
      refine List.mem_append_right _
        (List.mem_filterMap.mpr ⟨.addSource name (String.ofList t.text), by simp, ?_⟩)
      simpa [haccepts] using hs
    · obtain ⟨ids, short, rfl, hnames⟩ := TypePath.isName_of_proper hproper hs
      have hshort := TypePath.shortName_of_proper hnames
      have hcalled := (importable _ hs).called
      have hstatement := expanded_import d (importable _ hs).word
      rw [hshort, String.ofList_toList] at hcalled hstatement
      exact ⟨ids, short, rfl, hcalled, hstatement⟩
  · intro h
    obtain ⟨hflag, -⟩ := step_compile_run d id space (before ++ later)
    exact reads_of_unit rfl (Reply.flag.inj (hflag.symm.trans h))
  · intro h
    have hreads := reads_sourced haccepts hlimit importable hlater h
    refine ⟨hreads, ?_⟩
    obtain ⟨-, hreport⟩ := step_compile_run d id space
      (before ++ .addSource name (String.ofList t.text) :: later)
    rw [hreport]
    exact report_of_reads rfl hreads

/-- a body that compiles -/
def seven : Command := .setSource "fn M__F() \x7b 7 \x7d"

/-- a generic type in a module of a crate, in the text `my_app::events::Clicker<u32>` -/
def clicker : TypeText := .path "my_app" ["events"] "Clicker" [.plain "u32"]

theorem source_usable_clicker :
    let d : Scripted := { engine := Engine.standard {} }
    let type := String.ofList clicker.text
    let h := ((Host.create d.language "Rhai" "N").1.run [seven, .addSource "clicks" type]).1
    TypePath.describe type = ⟨"Clicker", "my_app", some (dotted ["my_app", "events"])⟩ ∧
      ⟨"clicks" ++ "Ref", "my_app"⟩ ∈ h.environment.references ∧
      dotted ["my_app", "events"] ∈ h.environment.imports ∧
      ∀ x ∈ (h.step .compile).1.report,
        (∃ library, x = notFound library) ∨ ∃ path, x = moduleNotFound path := by
  have harg : (TypeText.plain "u32").Named := List.all_eq_true.mp (by decide)
  have hn : clicker.Named := ⟨by decide, harg, trivial⟩
  have usable := source_usable {} .standard {} .plain clicker hn
  -- with the host written out on both sides, it is not run to compare them
  dsimp only at usable ⊢
  obtain ⟨hproper, hpath, -, hall⟩ := usable
  have hdescribe := hpath "my_app" ["events"] "Clicker" [.plain "u32"] rfl
  rw [hdescribe] at hproper hall ⊢
  obtain ⟨href, himports, hwithout, hsourced⟩ := hall "Rhai" "N" "clicks" [seven] [] (by decide)
    (hproper.mpr (.inl rfl)) (by rintro _ ⟨⟩; exact ⟨by decide, .inr (by decide)⟩)
    (.inr (by decide)) (by simp)
  simp only [List.cons_append, List.nil_append] at href himports hwithout hsourced
  exact ⟨rfl, href, (himports _ rfl).1, (hsourced (hwithout (by decide +kernel))).2⟩

/-- a catalog with the crates `std` and `my_app`, of which the second has a namespace -/
def crates : Catalog :=
  Catalog.standard.insertAll [⟨"std", []⟩, ⟨"my_app", [("my_app.events", {})]⟩]

/-- **A reference to a type in a crate** names `&` and the crate as its library.  The body compiles
next to an event source of the type itself.  Next to one of the reference, the library and the
namespace are missing, and where the crate is all of the namespace, its import is a syntax error. -/
theorem source_reference :
    let d : Scripted := { engine := Engine.standard {}, catalog := crates }
    let start := (Host.create d.language "Rhai" "N").1
    let sourced (t : TypeText) := (start.run [seven, .addSource "clicks" (String.ofList t.text)]).1
    let t : TypeText := .path "my_app" ["events"] "Clicker" []
    let root : TypeText := .path "my_app" [] "Root" []
    (TypeText.reference false t).Named ∧
      TypePath.describe (String.ofList (TypeText.reference false t).text) =
        ⟨"Clicker", "&my_app", some "&my_app.events"⟩ ∧
      ¬ (TypePath.describe (String.ofList (TypeText.reference false t).text)).Proper ∧
      ((sourced t).step .compile).2.1 = .flag true ∧
      ((sourced (.reference false t)).step .compile).2.1 = .flag false ∧
      ((sourced (.reference false t)).step .compile).1.report =
        [notFound "&my_app", moduleNotFound "&my_app.events"] ∧
      Diagnostic.errorAt "script" 1 21 "Expecting name of a variable" ∈
        ((sourced (.reference false root)).step .compile).1.report := by
  intro d start sourced t root
  have hn : (TypeText.reference false t).Named := ⟨by decide, trivial⟩
  refine ⟨hn, by decide +kernel, fun h => ?_, by decide +kernel, by decide +kernel,
    by decide +kernel, by decide +kernel⟩
  rcases (TypePath.proper_iff _ hn).mp h with hpath | hpath <;> cases hpath

end Dialect.Scripted

end Scripting
