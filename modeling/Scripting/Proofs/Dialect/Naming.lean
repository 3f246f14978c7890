import Mathlib.Data.List.Forall2
import Scripting.Proofs.Dialect.Running

/-!
# The names of exports

A function whose name is a module, the separator and a method is meant to be exported as that method
of that module, and any other function as a method of the module of such functions.

* `Divides`          what a name is to be divided into, and `Named`, what it is to be exported as;
* `splitName_divides`   a name that can be divided is, if it does not begin with the separator;
* `plain_of_leads`   one that begins with the separator is not divided;
* `named_iff`        so these, if they can be divided, are the ones that are not named as meant;
* `exports_run`      all of it, for the unit of every host over a script dialect;
* `exports_leading`  a function that is not named as meant.
-/

namespace Scripting.Dialect.Scripted

open Host (lastSuccess tried)

section
variable (separator : String)

/-- `name` is `owner` and `method` with the separator between them, and none of the two is empty -/
structure Divides (name owner method : String) : Prop where
  owner_ne : owner ≠ ""
  method_ne : method ≠ ""
  spelled : owner ++ separator ++ method = name

/-- there is a separator, and the name can be divided by it -/
def Divisible (name : String) : Prop :=
  separator ≠ "" ∧ ∃ owner method, Divides separator name owner method

/-- what a function is to be exported as -/
def Named (name owner method : String) : Prop :=
  (Divisible separator name → Divides separator name owner method) ∧
    (¬ Divisible separator name → owner = defaultModule ∧ method = name)

/-- the separator stands at the front of a name -/
def Leads (name : String) : Prop := separator.toList <+: name.toList

variable {separator} {name : String}

theorem divides_ofList {a b : List Char} (ha : a ≠ []) (hb : b ≠ [])
    (h : name.toList = a ++ separator.toList ++ b) :
    Divides separator name (String.ofList a) (String.ofList b) where
  owner_ne := fun e => ha (by rw [← String.toList_ofList (l := a), e]; rfl)
  method_ne := fun e => hb (by rw [← String.toList_ofList (l := b), e]; rfl)
  spelled := by
    apply String.toList_injective
    rw [String.toList_append, String.toList_append, String.toList_ofList, String.toList_ofList, h]

/-- no name is what it would be divided into when it is a method of the module of such functions -/
theorem not_divides_default : ¬ Divides separator name defaultModule name := by
  intro h
  have hlen := congrArg String.length h.spelled
  rw [String.length_append, String.length_append] at hlen
  have hdefault : defaultModule.length = 6 := rfl
  omega

theorem splitName_divides (hd : Divisible separator name) (hl : ¬ Leads separator name) :
    Divides separator name (splitName separator name).1 (splitName separator name).2 := by
  obtain ⟨hs, owner, method, hdiv⟩ := hd
  have hname : name.toList = owner.toList ++ separator.toList ++ method.toList := by
    rw [← hdiv.spelled, String.toList_append, String.toList_append]
  obtain ⟨a, b, hcut, hlen⟩ :=
    Text.exists_splitFirst? separator.toList owner.toList method.toList
  rw [← hname] at hcut
  have hab : name.toList = a ++ separator.toList ++ b := Text.eq_of_splitFirst? hcut
  have ha : a ≠ [] := by
    rintro rfl
    exact hl ⟨b, hab.symm⟩
  -- the first cut leaves as much behind it as any other
  have hb : b ≠ [] := by
    rintro rfl
    have hsizes := congrArg List.length (hname.symm.trans hab)
    simp only [List.length_append, List.length_nil] at hsizes
    have hm : method.toList.length ≠ 0 := fun hz =>
      hdiv.method_ne (String.toList_injective (List.eq_nil_of_length_eq_zero hz))
    omega
  have hsep : separator.isEmpty = false := by
    simpa using hs
  have hsplit : splitName separator name = (String.ofList a, String.ofList b) := by
    unfold splitName
    rw [hsep, hcut]
    simp [ha, hb]
  rw [hsplit]
  exact divides_ofList ha hb hab

theorem plain_of_leads (h : Leads separator name) : Plain separator name := by
  obtain ⟨rest, hrest⟩ := h
  have hcut : Text.splitFirst? separator.toList name.toList = some ([], rest) := by
    rw [← hrest]
    exact Text.splitFirst?_of_dropWord? (Text.dropWord?_append separator.toList rest)
  unfold Plain splitName
  rw [hcut]
  simp

theorem plain_of_not_divisible (h : ¬ Divisible separator name) : Plain separator name := by
  cases hcut : Text.splitFirst? separator.toList name.toList with
  | none => simp [Plain, splitName, hcut]
  | some p =>
    obtain ⟨a, b⟩ := p
    by_cases hs : separator = ""
    · simp [Plain, splitName, hs]
    by_cases ha : a = []
    · simp [Plain, splitName, hcut, ha]
    by_cases hb : b = []
    · simp [Plain, splitName, hcut, hb]
    · exact absurd ⟨hs, _, _, divides_ofList ha hb (Text.eq_of_splitFirst? hcut)⟩ h

theorem named_iff : Named separator name (splitName separator name).1 (splitName separator name).2 ↔
    ¬ (Divisible separator name ∧ Leads separator name) := by
  by_cases hd : Divisible separator name
  · by_cases hl : Leads separator name
    · refine iff_of_false (fun h => ?_) (not_not_intro ⟨hd, hl⟩)
      have hdiv := h.1 hd
      rw [plain_of_leads hl] at hdiv
      exact not_divides_default hdiv
    · exact iff_of_true ⟨fun _ => splitName_divides hd hl, fun h => absurd hd h⟩ fun h => hl h.2
  · refine iff_of_true ⟨fun h => absurd h hd, fun _ => ?_⟩ fun h => hd h.1
    rw [plain_of_not_divisible hd]
    exact ⟨rfl, rfl⟩

end

/-! ## exports -/

section
variable (separator space : String)

/-- the export of a function: it is named as meant, unless the separator leads a name that can be
divided -/
structure Exports (e : Entrance) (x : Export) : Prop where
  symbol : x.symbol = e.name
  arity : x.arity = e.arity
  qualified : x.home = QualifiedName.inNamespace space x.home.name
  named : Named separator e.name x.home.name x.name ↔
    ¬ (Divisible separator e.name ∧ Leads separator e.name)
  led : Leads separator e.name → x.home.name = defaultModule ∧ x.name = e.name

theorem exports_exported (e : Entrance) :
    Exports separator space e (exported separator space e) where
  symbol := rfl
  arity := rfl
  qualified := rfl
  named := named_iff
  led := fun h => by
    rw [exported_home, exported_name, plain_of_leads h]
    exact ⟨rfl, rfl⟩

theorem forall₂_exports (c : Compiled) :
    (c.entrances.filter isPublic).Forall₂ (Exports separator space)
      (unitOf separator space c).exports := by
  show List.Forall₂ _ _ ((c.entrances.filter isPublic).map (exported separator space))
  rw [List.forall₂_map_right_iff]
  exact List.forall₂_same.mpr fun e _ => exports_exported separator space e

end

/-- **The exports of a unit**, for every host over a script dialect and whatever its separator.
There is one export for each public function without a dollar in its name, in the order of the
functions, under its full name and with its number of parameters, in a module of the namespace of
the host.  If the name can be divided into a module, the separator and a method, none of them
empty, then the export has a module and a method of which that is so, and else it has the whole
name in the module of such functions; but a name that the separator leads is never divided. -/
theorem exports_run (d : Scripted) (id space : String) (cs : List Command) :
    let h := ((Host.create d.language id space).1.run cs).1
    ∀ r ∈ h.running?, ∃ a ∈ lastSuccess (tried d.language id space cs), ∃ c,
      d.makes a.environment (d.expanded a.environment.text) = .ok c ∧
      (c.entrances.filter fun e => !e.isPrivate && !e.name.toList.contains '$').Forall₂
        (Exports d.settings.moduleSeparator space) r.unit.exports := by
  intro h r hr
  obtain ⟨a, ha, c, hc, -, rfl⟩ := running_scripted d id space cs r hr
  exact ⟨a, ha, c, hc, forall₂_exports d.settings.moduleSeparator space c⟩

/-- a function of each kind: one that is divided at the first of two separators, one without a
separator, one that ends in it, one that the separator leads, and a private one -/
def kinds : List Command :=
  [.setSource ("fn Checks__Run__Twice(list) \x7b 1 \x7d fn helper() \x7b 2 \x7d " ++
      "fn half__() \x7b 3 \x7d fn __half() \x7b 4 \x7d private fn Checks__Hidden() \x7b 5 \x7d"),
    .compile]

theorem exports_run_kinds :
    let d : Scripted := { engine := Engine.standard {} }
    let h := ((Host.create d.language "Rhai" "N").1.run kinds).1
    h.running?.isSome = true ∧
      ∀ r ∈ h.running?,
        (r.unit.exports.map fun x => (x.home.name, x.name)) =
          [("Checks", "Run__Twice"), ("Script", "helper"), ("Script", "half__"),
            ("Script", "__half")] ∧
        ∃ functions : List Entrance, functions.Forall₂ (Exports "__" "N") r.unit.exports := by
  -- decided before the host has a name: behind a name, it would be run a second time
  have named : (((Host.create (language { engine := Engine.standard {} }) "Rhai" "N").1.run
      kinds).1.running?.map fun r => r.unit.exports.map fun x => (x.home.name, x.name)) =
        some [("Checks", "Run__Twice"), ("Script", "helper"), ("Script", "half__"),
          ("Script", "__half")] := by
    decide +kernel
  have run := exports_run { engine := Engine.standard {} } "Rhai" "N" kinds
  dsimp only at run ⊢
  obtain ⟨r', hrunning, hnames⟩ := Option.map_eq_some_iff.mp named
  refine ⟨Option.isSome_of_mem hrunning, fun r hr => ?_⟩
  obtain rfl : r = r' := Option.mem_unique hr hrunning
  obtain ⟨a, -, c, -, exported⟩ := run r hr
  exact ⟨hnames, _, exported⟩

/-- a function whose name has a module, the separator and a method, and begins with the separator -/
def leading : List Command :=
  [.setSource "fn __Checks__Run() \x7b 7 \x7d", .compile]

/-- it is exported as if it had no module -/
theorem exports_leading :
    let h := ((Host.create (Dialect.standard {} .plain) "Rhai" "N").1.run leading).1
    Divides "__" "__Checks__Run" "__Checks" "Run" ∧
      h.running?.isSome = true ∧
      ∀ r ∈ h.running?,
        (r.unit.exports.map fun x => (x.symbol, x.home.name, x.name)) =
          [("__Checks__Run", "Script", "__Checks__Run")] ∧
        ¬ ∀ x ∈ r.unit.exports, Named "__" x.symbol x.home.name x.name := by
  have divides : Divides "__" "__Checks__Run" "__Checks" "Run" := ⟨by decide, by decide, by decide⟩
  have exported : (((Host.create (Dialect.standard {} .plain) "Rhai" "N").1.run
      leading).1.running?.map fun r => r.unit.exports.map fun x => (x.symbol, x.home.name, x.name)) =
        some [("__Checks__Run", "Script", "__Checks__Run")] := by
    decide +kernel
  dsimp only
  obtain ⟨r', hrunning, hexports⟩ := Option.map_eq_some_iff.mp exported
  refine ⟨divides, Option.isSome_of_mem hrunning, fun r hr => ?_⟩
  obtain rfl : r = r' := Option.mem_unique hr hrunning
  refine ⟨hexports, fun all => ?_⟩
  have listed : ("__Checks__Run", "Script", "__Checks__Run") ∈
      r.unit.exports.map fun x => (x.symbol, x.home.name, x.name) := by
    rw [hexports]
    exact List.mem_cons_self
  obtain ⟨x, hx, he⟩ := List.mem_map.mp listed
  obtain ⟨hs, ho, hm⟩ : x.symbol = "__Checks__Run" ∧ x.home.name = "Script" ∧
      x.name = "__Checks__Run" := by simpa using he
  have named := all x hx
  rw [hs, ho, hm] at named
  exact not_divides_default (named.1 ⟨by decide, "__Checks", "Run", divides⟩)

end Scripting.Dialect.Scripted
