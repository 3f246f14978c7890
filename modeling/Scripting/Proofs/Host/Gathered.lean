import Scripting.Proofs.Host.Running

/-!
# What hosts over two languages gather

Two languages that take the same names for identifiers may spell imports in two ways.  Hosts over
them that are given the same commands gather the same, but for the headers.

* `Environment.Regular`      the header is made of the imports, and of nothing else;
* `Environment.translated`   what is gathered over another language, with the texts in other words;
* `after_translated`         so commands in other words gather what is translated;
* `imports_change`           no command takes an import back.
-/

namespace Scripting

/-- a command with its text, if it has one, put into other words -/
def Command.mapText (f : String → String) : Command → Command
  | .setSource text => .setSource (f text)
  | c => c

theorem Command.map_mapText_self (cs : List Command) :
    cs.map (Command.mapText fun s => s) = cs :=
  (List.map_congr_left fun c _ => by cases c <;> rfl).trans (List.map_id cs)

namespace Environment

/-! ## headers -/

/-- the header of imports, each before the ones added earlier -/
def headerOf (l : Language) (imports : List String) : String :=
  imports.foldl (fun header space => l.importStatement space ++ header) ""

theorem headerOf_concat (l : Language) (imports : List String) (space : String) :
    headerOf l (imports ++ [space]) = l.importStatement space ++ headerOf l imports := by
  rw [headerOf, List.foldl_append]
  rfl

/-- the header is that of the imports -/
def Regular (e : Environment) : Prop := e.header = headerOf e.language e.imports

theorem regular_new (l : Language) (flags : Flags) :
    ({ language := l, flags } : Environment).Regular := rfl

theorem Regular.addImport {e : Environment} (h : e.Regular) (space : String) :
    (e.addImport space).1.Regular := by
  unfold Regular Environment.addImport
  dsimp only
  rw [headerOf_concat, h]

theorem Regular.declareSource {e : Environment} (h : e.Regular) (name : String) (path : TypePath) :
    (e.declareSource name path).1.Regular := by
  unfold Environment.declareSource
  cases path.space with
  | none => exact h
  | some space => exact Regular.addImport (e := e.refer _ _) h space

theorem Regular.change {e : Environment} (h : e.Regular) (c : Command) : (c.change e).Regular := by
  cases c with
  | addImport space => exact h.addImport space
  | addReference name library => exact guarded_induction h h _ _
  | addGlobal name object => exact guarded_induction h h _ _
  | addSource name type => exact guarded_induction h (h.declareSource name _) _ _
  | _ => exact h

theorem Regular.after {e : Environment} (h : e.Regular) (cs : List Command) :
    (e.after cs).Regular := by
  induction cs generalizing e with
  | nil => exact h
  | cons c cs ih => exact ih (h.change c)

/-! ## imports stay -/

theorem imports_declareSource (e : Environment) (name : String) (path : TypePath) :
    e.imports <+: (e.declareSource name path).1.imports := by
  unfold declareSource
  cases path.space with
  | none => exact List.prefix_rfl
  | some space => exact List.prefix_append ..

theorem imports_change (e : Environment) (c : Command) : e.imports <+: (c.change e).imports := by
  have guarded {change : Environment × List Event} (hc : e.imports <+: change.1.imports) :=
    guarded_induction (P := fun e' => e.imports <+: e'.imports) List.prefix_rfl hc
  cases c with
  | addImport space => exact List.prefix_append ..
  | addReference name library => exact guarded List.prefix_rfl _ _
  | addGlobal name object => exact guarded List.prefix_rfl _ _
  | addSource name type => exact guarded (imports_declareSource e name _) _ _
  | _ => exact List.prefix_rfl

/-! ## the same environment over another language -/

/-- what the same commands gather over `l`, where the body is put into other words -/
def translated (l : Language) (f : String → String) (e : Environment) : Environment :=
  { e with language := l, header := headerOf l e.imports, body := f e.body }

section
variable {l : Language} (f : String → String)

theorem guarded_translated {e : Environment} (hl : l.accepts = e.language.accepts)
    (operation name : String) {change change' : Environment × List Event}
    (h : change'.1 = change.1.translated l f) :
    ((e.translated l f).guarded operation name change').1 =
      (e.guarded operation name change).1.translated l f := by
  cases ha : e.language.accepts name with
  | true =>
    rw [guarded_accepted ha, guarded_accepted (show l.accepts name = true by rw [hl, ha])]
    exact h
  | false =>
    rw [guarded_rejected ha, guarded_rejected (show l.accepts name = false by rw [hl, ha])]

theorem addImport_translated (e : Environment) (space : String) :
    ((e.translated l f).addImport space).1 = (e.addImport space).1.translated l f := by
  unfold addImport translated
  dsimp only
  rw [headerOf_concat]

theorem declareSource_translated (e : Environment) (name : String) (path : TypePath) :
    ((e.translated l f).declareSource name path).1 =
      (e.declareSource name path).1.translated l f := by
  unfold declareSource
  cases path.space with
  | none => rfl
  | some space =>
    have h := addImport_translated (l := l) f (e.refer (referenceName name) path.library) space
    exact congrArg
      (fun g : Environment => { g with sources := e.sources ++ [EventSource.mk name path] }) h

theorem change_translated {e : Environment} (hl : l.accepts = e.language.accepts) (c : Command) :
    (c.mapText f).change (e.translated l f) = (c.change e).translated l f := by
  cases c with
  | addImport space => exact addImport_translated f e space
  | addReference name library => exact guarded_translated f hl _ _ rfl
  | addGlobal name object => exact guarded_translated f hl _ _ rfl
  | addSource name type =>
    exact guarded_translated f hl _ _ (declareSource_translated f e name _)
  | _ => rfl

theorem after_translated {e : Environment} (hl : l.accepts = e.language.accepts)
    (cs : List Command) :
    (e.translated l f).after (cs.map (Command.mapText f)) = (e.after cs).translated l f := by
  induction cs generalizing e with
  | nil => rfl
  | cons c cs ih =>
    have hc : (c.change e).language = e.language := congrArg Prod.fst (e.fixed_change c)
    rw [List.map_cons, after_cons, change_translated f hl, ih (hc ▸ hl), after_cons]

end

end Environment

namespace Host

open Environment

/-- what every new host does -/
def setup : List Command :=
  defaultReferences.map (fun r => .addReference r.name r.library) ++
    defaultImports.map .addImport

theorem create_environment (l : Language) (id space : String) :
    (create l id space).1.environment =
      ({ language := l, flags := Flags.standard } : Environment).after setup := rfl

theorem regular_run (l : Language) (id space : String) (cs : List Command) :
    ((create l id space).1.run cs).1.environment.Regular := by
  rw [run_environment, create_environment]
  exact Regular.after (Regular.after (regular_new l _) setup) cs

/-- new hosts over two languages have gathered the same -/
theorem create_translated {l l' : Language} (hl : l'.accepts = l.accepts) {f : String → String}
    (hf : f "" = "") (id id' space : String) :
    (create l' id' space).1.environment = (create l id space).1.environment.translated l' f := by
  have h := after_translated (e := { language := l, flags := Flags.standard }) f hl setup
  rw [show translated l' f { language := l, flags := Flags.standard } =
    { language := l', flags := Flags.standard } by rw [translated, hf]; rfl] at h
  exact h

end Host

end Scripting
