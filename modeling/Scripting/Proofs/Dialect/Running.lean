import Scripting.Dialect.Standard
import Scripting.Proofs.Dialect.Exports
import Scripting.Proofs.Host.Running

/-!
# What a host over a script dialect runs

* `running_scripted`    the unit of the host is made of what the engine answered to the text and the
                        libraries of the last compile that succeeded;
* `call_exported_run`   a call by name runs the first public function in the place that is asked
                        for, and the functions in one place are rivals.
-/

namespace Scripting.Dialect.Scripted

open Host (lastSuccess tried)
open Script (CompileFault Value)

/-- what the engine makes of a text with the libraries and flags of an environment -/
def makes (d : Scripted) (e : Environment) (text : String) : Except CompileFault Compiled :=
  d.engine d.settings e.flags (spaces (d.known e.libraries)) text

section
variable (d : Scripted) (id space : String) (cs : List Command)

/-- every compile of a run is one of the dialect -/
theorem attempt_scripted {a : Attempt} (ha : a ∈ tried d.language id space cs) :
    a.answer = (d.compile (a.environment.request space)).answer := by
  obtain ⟨before, k, -, rfl⟩ := exists_of_mem_attempts _ _ _ _ a ha
  exact congrArg (fun l : Language => (l.compile k _).answer)
    (Host.run_language d.language id space before)

/-- a compile of the dialect that succeeded made its unit of what the engine answered -/
theorem unit_of_compile {r : Request} {u : CompiledUnit}
    (h : (d.compile r).answer = .ok ⟨[], some u⟩) :
    ∃ c, d.engine d.settings r.flags (spaces (d.known r.libraries)) (d.expanded r.source) = .ok c ∧
      d.missing r.libraries = [] ∧ u = unitOf d.settings.moduleSeparator r.space c := by
  unfold compile answer at h
  split at h
  · cases h
  · dsimp only at h
    split at h
    · rename_i c hc
      split at h
      · rename_i hm
        cases h
        exact ⟨c, hc, List.isEmpty_iff.mp hm, rfl⟩
      · simp [Answer.failure] at h
    · simp [Answer.failure] at h

/-- **The unit of a host over a script dialect.** -/
theorem running_scripted :
    ∀ r ∈ ((Host.create d.language id space).1.run cs).1.running?,
      ∃ a ∈ lastSuccess (tried d.language id space cs), ∃ c,
        d.engine d.settings a.environment.flags (spaces (d.known a.environment.libraries))
          (d.expanded a.environment.text) = .ok c ∧
        d.missing a.environment.libraries = [] ∧
        r = Running.ofUnit (unitOf d.settings.moduleSeparator space c)
          a.environment.fingerprint := by
  intro r hr
  rw [Host.running?_run, Option.mem_def, Option.bind_eq_some_iff] at hr
  obtain ⟨a, ha, hr⟩ := hr
  obtain ⟨u, hu, rfl⟩ := Option.map_eq_some_iff.mp hr
  have hm : a ∈ tried d.language id space cs :=
    (List.mem_filter.mp (List.mem_of_getLast? ha)).1
  have hans : a.answer = .ok ⟨[], some u⟩ := by
    unfold Attempt.unit? at hu
    split at hu
    · rename_i h
      rw [h, hu]
    · cases hu
  rw [attempt_scripted d id space cs hm] at hans
  obtain ⟨c, hc, hmiss, rfl⟩ := unit_of_compile d hans
  exact ⟨a, ha, c, hc, hmiss, rfl⟩

end

/-- **What a call by name runs**, on every host over a script dialect.  Of the exports in one place
it is the first, and the function that this one is of is called once, on what crosses the border for
the arguments; an argument that does not cross ends the call, and nothing runs.  Two exports share a
place exactly if they have one arity and are of rivals; so a function without a rival runs under the
spelling of its own export. -/
theorem call_exported_run (d : Scripted) (id space : String) (cs : List Command) :
    let h := ((Host.create d.language id space).1.run cs).1
    let separator := d.settings.moduleSeparator
    ∀ r ∈ h.running?, ∃ c,
      (∃ flags spaces text, d.engine d.settings flags spaces text = .ok c) ∧
      r.unit = unitOf separator space c ∧
      (∀ x ∈ r.unit.exports, ∀ args : List Data, args.length = x.arity →
        ∃ first ∈ r.unit.exports,
          Export.first? r.unit.exports x.home x.name x.arity = some first ∧
          (first = x ∨ first.arity = x.arity ∧ Rivals separator space first.symbol x.symbol) ∧
          ∃ e, entrance? c first = some e ∧
            (∀ values, c.border.inwardAll args = .ok values →
              let ended := c.call e values
              h.call x.home.name x.name args =
                (Running.passOn (conclude c.border first.symbol ended.result),
                  { calls := [(first, args)],
                    events := .calling first.symbol args.length :: ended.events })) ∧
            ∀ why, c.border.inwardAll args = .error why →
              h.call x.home.name x.name args =
                (.error (.call (.other ("argument conversion failed: " ++ why))),
                  { calls := [(first, args)] })) ∧
      ∀ x ∈ r.unit.exports, ∀ x' ∈ r.unit.exports, x ≠ x' →
        (SamePlace x x' ↔ x.arity = x'.arity ∧ Rivals separator space x.symbol x'.symbol) := by
  intro h separator r hr
  obtain ⟨a, -, c, hc, -, rfl⟩ := running_scripted d id space cs r hr
  refine ⟨c, ⟨_, _, _, hc⟩, rfl, ?_, fun x hx x' hx' hne =>
    samePlace_exports separator space c hx hx' hne⟩
  intro x hx args ha
  obtain ⟨first, hf, hfirst, hrival⟩ := exists_first separator space c hx
  have harity : args.length = first.arity := by
    rcases hrival with rfl | hr
    · exact ha
    · exact ha.trans hr.1.symm
  obtain ⟨e, he, hcall⟩ := exists_callAmong hf harity
  have hspace : h.space = space := Host.run_space _ cs
  have hanswer : h.call x.home.name x.name args = (Running.passOn (callAmong c first args).result,
      { calls := [(first, args)], events := (callAmong c first args).events }) := by
    obtain ⟨e', -, -, rfl⟩ := (mem_exports separator space c).mp hx
    rw [← ha, show (exported separator space e').home =
      QualifiedName.inNamespace space (exported separator space e').home.name from rfl] at hfirst
    rw [Host.call, show h.running? = some _ from hr, hspace]
    exact Running.invokeWith_of_first a.environment.fingerprint hfirst
  refine ⟨first, hf, hfirst, hrival, e, he, fun values hv => ?_, fun why hw => ?_⟩
  · rw [hanswer, hcall values hv]
  · rw [hanswer, callAmong_refused first hw]
    rfl

/-- two functions whose modules differ in case alone, and one that has its place for itself -/
def twins : List Command :=
  [.setSource "fn checks__Run() \x7b 1 \x7d fn Checks__Run() \x7b 2 \x7d fn Stop() \x7b 3 \x7d",
    .compile]

theorem call_exported_twins :
    let d : Scripted := { engine := Engine.standard {} }
    let h := ((Host.create d.language "Rhai" "N").1.run twins).1
    h.running?.isSome = true ∧
      ∀ r ∈ h.running?, r.unit.exports.length = 3 ∧
        ∀ x ∈ r.unit.exports, ∀ args : List Data, args.length = x.arity →
          ∃ first ∈ r.unit.exports,
            Export.first? r.unit.exports x.home x.name x.arity = some first ∧
            (h.call x.home.name x.name args).2.calls = [(first, args)] := by
  intro d h
  have compiled : h.running?.isSome = true ∧
      ∀ r ∈ h.running?, r.unit.exports.length = 3 := by
    decide +kernel
  refine ⟨compiled.1, fun r hr => ⟨compiled.2 r hr, fun x hx args ha => ?_⟩⟩
  obtain ⟨c, -, -, hcall, -⟩ := call_exported_run d "Rhai" "N" twins r hr
  obtain ⟨first, hf, hfirst, -, e, -, hran, hrefused⟩ := hcall x hx args ha
  refine ⟨first, hf, hfirst, ?_⟩
  cases hv : c.border.inwardAll args with
  | ok values => rw [hran values hv]
  | error why => rw [hrefused why hv]

/-- an exported function may be out of reach under the spelling of its own export -/
theorem call_twins :
    let h := ((Host.create (Dialect.standard {} .plain) "Rhai" "N").1.run twins).1
    ¬ ∀ r ∈ h.running?, ∀ x ∈ r.unit.exports, ∀ args : List Data, args.length = x.arity →
      (h.call x.home.name x.name args).2.calls = [(x, args)] := by
  intro h claim
  have shadowed : ∃ r ∈ h.running?, ∃ x ∈ r.unit.exports,
      0 = x.arity ∧ (h.call x.home.name x.name []).2.calls.map (·.1) ≠ [x] := by
    decide +kernel
  obtain ⟨r, hr, x, hx, harity, hne⟩ := shadowed
  rw [claim r hr x hx [] harity] at hne
  exact hne rfl

end Scripting.Dialect.Scripted
