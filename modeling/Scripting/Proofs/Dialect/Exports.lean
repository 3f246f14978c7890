import Scripting.Dialect.Scripted
import Scripting.Proofs.EntryPoint.Table
import Scripting.Proofs.Text.Pieces

/-!
# The places of exported functions

Callers reach a function by the place that its name tells: a module, of whose name the case does
not count, a method name and an arity.

* `splitName_cases`     a name is module, separator and method, or tells nothing but itself;
* `Rivals`              the two ways in which the names of two functions tell one place;
* `samePlace_iff`       there is no third;
* `exists_first`        of the exports with one place a caller reaches the first;
* `exists_callAmong`    and reaching it runs the function that it is of;
* `callAmong_refused`   unless an argument does not cross the border.
-/

namespace Scripting.Dialect.Scripted

open Script (Border Value)

/-! ## names -/

section
variable (separator : String)

/-- `name` is a module and a method with the separator between them -/
structure Tells (name owner method : String) : Prop where
  split : splitName separator name = (owner, method)
  spelled : name = owner ++ separator ++ method

/-- `name` is a method of the module of names that tell none -/
def Plain (name : String) : Prop := splitName separator name = (defaultModule, name)

theorem splitName_cases (name : String) :
    Plain separator name ∨ ∃ owner method, Tells separator name owner method := by
  cases h : Text.splitFirst? separator.toList name.toList with
  | none => exact .inl (by simp [Plain, splitName, h])
  | some p =>
    obtain ⟨owner, method⟩ := p
    by_cases hc : separator.isEmpty ∨ owner.isEmpty ∨ method.isEmpty
    · left
      rcases hc with hc | hc | hc <;> simp [Plain, splitName, h, hc]
    · simp only [not_or, Bool.not_eq_true] at hc
      obtain ⟨hs, ho, hm⟩ := hc
      refine .inr ⟨String.ofList owner, String.ofList method, ?_, ?_⟩
      · simp [splitName, h, hs, ho, hm]
      · apply String.toList_injective
        simpa using Text.eq_of_splitFirst? h

variable (space : String)

/-- two texts that callers in a namespace may use for one module -/
def SameModule (owner owner' : String) : Prop :=
  (QualifiedName.inNamespace space owner).key = (QualifiedName.inNamespace space owner').key

/-- the names of two functions, different ones, that callers reach as one method -/
inductive Rivals (name name' : String) : Prop
  /-- under two spellings of one module -/
  | spellings (owner owner' method : String) (tells : Tells separator name owner method)
      (tells' : Tells separator name' owner' method) (differ : owner ≠ owner')
      (same : SameModule space owner owner')
  /-- the first tells no module, the second the module of such names -/
  | left (owner : String) (plain : Plain separator name)
      (tells : Tells separator name' owner name) (same : SameModule space defaultModule owner)
  /-- the other way round -/
  | right (owner : String) (tells : Tells separator name owner name')
      (plain : Plain separator name') (same : SameModule space owner defaultModule)

/-- two exports that callers reach in one place -/
structure SamePlace (x x' : Export) : Prop where
  home : x.home.key = x'.home.key
  name : x.name = x'.name
  arity : x.arity = x'.arity

theorem exported_home (e : Entrance) : (exported separator space e).home =
    QualifiedName.inNamespace space (splitName separator e.name).1 := rfl

theorem exported_name (e : Entrance) :
    (exported separator space e).name = (splitName separator e.name).2 := rfl

theorem rivals_of_samePlace {e e' : Entrance} (hne : e.name ≠ e'.name)
    (h : SamePlace (exported separator space e) (exported separator space e')) :
    Rivals separator space e.name e'.name := by
  obtain ⟨home, name, -⟩ := h
  rw [exported_home, exported_home] at home
  rw [exported_name, exported_name] at name
  rcases splitName_cases separator e.name with p | ⟨owner, method, t⟩
  · rcases splitName_cases separator e'.name with p' | ⟨owner', method', t'⟩
    · rw [p, p'] at name
      exact absurd name hne
    · rw [p, t'.split] at home name
      obtain rfl : e.name = method' := name
      exact .left owner' p t' home
  · rcases splitName_cases separator e'.name with p' | ⟨owner', method', t'⟩
    · rw [t.split, p'] at home name
      obtain rfl : method = e'.name := name
      exact .right owner t p' home
    · rw [t.split, t'.split] at home name
      obtain rfl : method = method' := name
      refine .spellings owner owner' method t t' ?_ home
      rintro rfl
      exact hne (t.spelled.trans t'.spelled.symm)

theorem samePlace_of_rivals {e e' : Entrance} (arity : e.arity = e'.arity)
    (rivals : Rivals separator space e.name e'.name) :
    SamePlace (exported separator space e) (exported separator space e') := by
  have place : SameModule space (splitName separator e.name).1 (splitName separator e'.name).1 ∧
      (splitName separator e.name).2 = (splitName separator e'.name).2 := by
    cases rivals with
    | spellings owner owner' method t t' _ same => rw [t.split, t'.split]; exact ⟨same, rfl⟩
    | left owner p t same => rw [p, t.split]; exact ⟨same, rfl⟩
    | right owner t p same => rw [t.split, p]; exact ⟨same, rfl⟩
  exact ⟨place.1, place.2, arity⟩

/-- **Two different exports share a place exactly if they have one arity and are of rivals.** -/
theorem samePlace_iff {e e' : Entrance}
    (hne : exported separator space e ≠ exported separator space e') :
    SamePlace (exported separator space e) (exported separator space e') ↔
      e.arity = e'.arity ∧ Rivals separator space e.name e'.name := by
  refine ⟨fun h => ?_, fun h => samePlace_of_rivals separator space h.1 h.2⟩
  have name : e.name ≠ e'.name := by
    intro name
    obtain ⟨_, _, _⟩ := e
    obtain ⟨_, _, _⟩ := e'
    obtain rfl := name
    obtain rfl := h.arity
    exact hne rfl
  exact ⟨h.arity, rivals_of_samePlace separator space name h⟩

end

/-! ## units -/

section
variable (separator space : String) (c : Compiled) {x x' : Export}

theorem mem_exports : x ∈ (unitOf separator space c).exports ↔
    ∃ e ∈ c.entrances, isPublic e = true ∧ exported separator space e = x := by
  simp only [unitOf, List.mem_map, List.mem_filter, and_assoc]

theorem samePlace_exports (hx : x ∈ (unitOf separator space c).exports)
    (hx' : x' ∈ (unitOf separator space c).exports) (hne : x ≠ x') :
    SamePlace x x' ↔ x.arity = x'.arity ∧ Rivals separator space x.symbol x'.symbol := by
  obtain ⟨e, -, -, rfl⟩ := (mem_exports separator space c).mp hx
  obtain ⟨e', -, -, rfl⟩ := (mem_exports separator space c).mp hx'
  exact samePlace_iff separator space hne

/-- **The export that a caller reaches in the place of another**: the first with that place, which
is of a rival if it is another one. -/
theorem exists_first (hx : x ∈ (unitOf separator space c).exports) :
    ∃ first ∈ (unitOf separator space c).exports,
      Export.first? (unitOf separator space c).exports x.home x.name x.arity = some first ∧
      (first = x ∨ first.arity = x.arity ∧ Rivals separator space first.symbol x.symbol) := by
  cases h : Export.first? (unitOf separator space c).exports x.home x.name x.arity with
  | none =>
    -- the export itself has the place, so the search ends somewhere
    rw [Export.first?_eq_find?] at h
    have := List.find?_eq_none.mp h x hx
    simp at this
  | some first =>
    rw [Export.first?_eq_find?] at h
    have hf := List.mem_of_find?_eq_some h
    have hs := List.find?_some h
    simp only [Bool.and_eq_true, beq_iff_eq] at hs
    refine ⟨first, hf, rfl, ?_⟩
    by_cases hne : first = x
    · exact .inl hne
    · exact .inr ((samePlace_exports separator space c hf hx hne).mp ⟨hs.1, hs.2.1, hs.2.2⟩)

/-- the function that an export is of, the first with its name and arity if there are several -/
def entrance? (x : Export) : Option Entrance :=
  c.entrances.find? fun e => e.name == x.symbol && e.arity == x.arity

variable {separator space c} {args : List Data} {why : String}

/-- a call of an export with as many arguments as it takes runs the function that it is of, on what
crosses the border for them -/
theorem exists_callAmong (hx : x ∈ (unitOf separator space c).exports)
    (ha : args.length = x.arity) : ∃ e, entrance? c x = some e ∧
      ∀ values, c.border.inwardAll args = .ok values → callAmong c x args =
        ⟨conclude c.border x.symbol (c.call e values).result,
          .calling x.symbol args.length :: (c.call e values).events⟩ := by
  cases h : entrance? c x with
  | none =>
    obtain ⟨e, he, -, rfl⟩ := (mem_exports separator space c).mp hx
    have := List.find?_eq_none.mp h e he
    simp [exported] at this
  | some e =>
    refine ⟨e, rfl, fun values hv => ?_⟩
    have hlength := Border.length_inwardAll hv
    rw [callAmong, hv]
    dsimp only
    rw [hlength, ha, show c.entrances.find? _ = some e from h]

/-- an argument that does not cross the border ends the call before the script is looked at -/
theorem callAmong_refused (x : Export)
    (h : c.border.inwardAll args = .error why) :
    callAmong c x args = ⟨.error (.other ("argument conversion failed: " ++ why)), []⟩ := by
  rw [callAmong, h]

end

end Scripting.Dialect.Scripted
