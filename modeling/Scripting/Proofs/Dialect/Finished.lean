import Scripting.Proofs.Dialect.Entered
import Scripting.Proofs.Script.Barred

/-!
# How entry points of scripts end

An entry point has no value to give, but the unit converts what its function returned like any
value that is asked for.

* `Running.selected?`     the export that an entry point calls, and with what;
* `invokeEntry_selected`  a call of it that fits is the only call, and decides;
* `finished_run`          it succeeds exactly if the function finished with a value that crosses;
* `invoke_closure`        so a function may finish, and the entry point fail.
-/

namespace Scripting

namespace Running

section
variable (u : CompiledUnit) (fingerprint : UInt64) (space owner method : String)

/-- the export that an entry point calls: the first that takes one list, or else nothing -/
def selected? : Option (Export × List Data) :=
  ((Export.first? u.exports (QualifiedName.inNamespace space owner) method 1).map
    (·, [.list []])).or
  ((Export.first? u.exports (QualifiedName.inNamespace space owner) method 0).map (·, []))

variable {u space owner method} {x : Export} {args : List Data}

theorem selected?_cases (hx : selected? u space owner method = some (x, args)) :
    let first := Export.first? u.exports (QualifiedName.inNamespace space owner) method
    (args = [.list []] ∧ first 1 = some x) ∨ (args = [] ∧ first 1 = none ∧ first 0 = some x) := by
  intro first
  rcases Option.or_eq_some_iff.mp hx with h | ⟨hn, h⟩
  · obtain ⟨y, h1, hy⟩ := Option.map_eq_some_iff.mp h
    cases hy
    exact .inl ⟨rfl, h1⟩
  · obtain ⟨y, h0, hy⟩ := Option.map_eq_some_iff.mp h
    cases hy
    exact .inr ⟨rfl, Option.map_eq_none_iff.mp hn, h0⟩

/-- an export that is selected takes as many arguments as it is given -/
theorem first?_of_selected (hx : selected? u space owner method = some (x, args)) :
    Export.first? u.exports (QualifiedName.inNamespace space owner) method args.length =
      some x := by
  rcases selected?_cases hx with ⟨rfl, h⟩ | ⟨rfl, -, h⟩ <;> exact h

theorem entryCalls_of_selected (hx : selected? u space owner method = some (x, args))
    (hfits : missed (some (u.call x args).result) = false) :
    let first := Export.first? u.exports (QualifiedName.inNamespace space owner) method
    entryCalls u (first 1) (first 0) = [(x, args)] := by
  intro first
  rcases selected?_cases hx with ⟨rfl, h1⟩ | ⟨rfl, h1, h0⟩
  · rw [show first 1 = some x from h1, entryCalls,
      show missed (ended? u (some x) [.list []]) = false from hfits]
    rfl
  · rw [show first 1 = none from h1, show first 0 = some x from h0]
    rfl

theorem invokeEntry_selected (hx : selected? u space owner method = some (x, args))
    (hfits : missed (some (u.call x args).result) = false) :
    let answer := (ofUnit u fingerprint).invokeEntry space owner method
    answer.1 = concludeEntry owner method (u.call x args).result ∧
      answer.2.calls = [(x, args)] := by
  intro answer
  have hfirst := first?_of_selected hx
  have ha : answer = fallback owner method _ _ :=
    invokeEntry_of_overloads u fingerprint space owner method fun ho => by
      rw [Export.first?_of_overloads ho] at hfirst
      cases hfirst
  obtain ⟨hc, hr⟩ := fallback_callFirst u owner method
    (Export.first? u.exports (QualifiedName.inNamespace space owner) method 1)
    (Export.first? u.exports (QualifiedName.inNamespace space owner) method 0)
  rw [entryCalls_of_selected hx hfits] at hc hr
  rw [ha]
  exact ⟨hr, hc⟩

end

end Running

namespace Dialect.Scripted

open Host (lastSuccess tried)
open Script (Border Value)

/-- what the caller of an entry point hears, by how its function ended -/
def hears (b : Border) (symbol : String) : Except Script.Fault Value → Except HostFault Unit
  | .error fault => .error (Running.entryPointFailure (fault.failure symbol))
  | .ok v =>
    match b.outward v with
    | .ok _ => .ok ()
    | .error why => .error (.call (.other ("return value conversion failed: " ++ why)))

section
variable (b : Border) (symbol : String) (ended : Except Script.Fault Value)

theorem missed_conclude : Running.missed (some (conclude b symbol ended)) = false := by
  have hn := conclude_ne_parameterCount b symbol ended
  cases hc : conclude b symbol ended with
  | ok d => rfl
  | error fault =>
    cases fault with
    | parameterCount n => exact absurd hc (hn n)
    | invocation f => rfl
    | other message => rfl

theorem concludeEntry_conclude (owner method : String) :
    Running.concludeEntry owner method (conclude b symbol ended) = hears b symbol ended := by
  cases ended with
  | error fault => rfl
  | ok v =>
    simp only [conclude, hears]
    cases b.outward v <;> rfl

theorem hears_ok_iff :
    hears b symbol ended = .ok () ↔ ∃ v d, ended = .ok v ∧ b.outward v = .ok d := by
  cases ended with
  | error fault => simp [hears]
  | ok v => cases hv : b.outward v <;> simp [hears, hv]

end

/-- at the standard border a value is refused for the first of its parts that is barred -/
theorem hears_standard_barred (symbol : String) {v w : Value} (h : v.barred? = some w) :
    hears .standard symbol (.ok v) =
      .error (.call (.other ("return value conversion failed: " ++ w.barrier))) := by
  have hv : Border.standard.outward v = .error w.barrier := Value.toData_of_barred h
  rw [hears, hv]

theorem hears_standard_ok_iff (symbol : String) (ended : Except Script.Fault Value) :
    hears .standard symbol ended = .ok () ↔ ∃ v, ended = .ok v ∧ v.barred? = none := by
  rw [hears_ok_iff]
  refine exists_congr fun v => ?_
  rw [exists_and_left, ← v.toData_ok_iff]
  rfl

/-- a selected entry point calls the unit once, and what comes of that decides -/
theorem invokeEntry_runs {separator space owner method : String} {c : Compiled}
    (fingerprint : UInt64) {x : Export} {args : List Data}
    (hx : Running.selected? (unitOf separator space c) space owner method = some (x, args)) :
    ∃ e, entrance? c x = some e ∧
      let answer := (Running.ofUnit (unitOf separator space c) fingerprint).invokeEntry space owner
        method
      answer.2.calls = [(x, args)] ∧
      (∀ why, c.border.inwardAll args = .error why →
        answer.1 = .error (.call (.other ("argument conversion failed: " ++ why)))) ∧
      ∀ values, c.border.inwardAll args = .ok values →
        answer.1 = hears c.border x.symbol (c.call e values).result := by
  obtain ⟨e', f, rfl⟩ := first?_unitOf (Running.first?_of_selected hx)
  have hmem := (mem_exports separator space c).mpr ⟨e', f.mem, f.visible, rfl⟩
  obtain ⟨e, he, hcall⟩ := exists_callAmong hmem f.arity.symm
  refine ⟨e, he, ?_⟩
  intro answer
  cases hv : c.border.inwardAll args with
  | error why =>
    have hresult : ((unitOf separator space c).call _ args).result = _ :=
      congrArg Outcome.result (callAmong_refused (exported separator space e') hv)
    obtain ⟨hanswer, hcalls⟩ := Running.invokeEntry_selected fingerprint hx
      (by rw [hresult]; rfl)
    rw [hresult] at hanswer
    refine ⟨hcalls, fun why' hw => ?_, fun values hv' => nomatch hv'⟩
    rw [← Except.error.inj hw]
    exact hanswer
  | ok values =>
    have hresult : ((unitOf separator space c).call _ args).result = _ :=
      congrArg Outcome.result (hcall values hv)
    obtain ⟨hanswer, hcalls⟩ := Running.invokeEntry_selected fingerprint hx
      (by rw [hresult]; exact missed_conclude _ _ _)
    rw [hresult, concludeEntry_conclude] at hanswer
    refine ⟨hcalls, fun why hw => (nomatch hw), fun values' hv' => ?_⟩
    rw [← Except.ok.inj hv']
    exact hanswer

/-- **How an entry point ends**, behind every run of a host over a script dialect.  The function of
the export that is selected is called once, if what it is given crosses the border.  The entry point
succeeds exactly if the function finished with a value that crosses to the host; if the value does
not cross, the entry point fails and says why, and if the script raised a failure, it tells of that.
At the standard border what is given always crosses, and a value does if no part of it is barred;
otherwise the first such part is named. -/
theorem finished_run (d : Scripted) (id space : String) (cs : List Command) :
    let h := ((Host.create d.language id space).1.run cs).1
    ∀ r ∈ h.running?, ∃ a ∈ lastSuccess (tried d.language id space cs),
      ∃ c ∈ d.compiledIn a.environment, r.unit = unitOf d.settings.moduleSeparator space c ∧
      ∀ owner method x args, Running.selected? r.unit space owner method = some (x, args) →
        ∃ e, entrance? c x = some e ∧
          let answer := h.invoke owner method
          answer.2.calls = [(x, args)] ∧
          (∀ why, c.border.inwardAll args = .error why →
            answer.1 = .error (.call (.other ("argument conversion failed: " ++ why)))) ∧
          (∀ values, c.border.inwardAll args = .ok values →
            let ended := (c.call e values).result
            answer.1 = hears c.border x.symbol ended ∧
              (answer.1 = .ok () ↔ ∃ v data, ended = .ok v ∧ c.border.outward v = .ok data)) ∧
          (c.border = .standard →
            let ended := (c.call e (args.map Value.ofData)).result
            answer.1 = hears .standard x.symbol ended ∧
              (answer.1 = .ok () ↔ ∃ v, ended = .ok v ∧ v.barred? = none) ∧
              ∀ v w, ended = .ok v → v.barred? = some w → answer.1 =
                .error (.call (.other ("return value conversion failed: " ++ w.barrier)))) := by
  intro h r hr
  obtain ⟨a, ha, c, hc, -, rfl⟩ := running_scripted d id space cs r hr
  refine ⟨a, ha, c, congrArg Except.toOption hc, rfl, fun owner method x args hx => ?_⟩
  have hspace : h.space = space := Host.run_space _ cs
  have hinvoke := Host.invoke_of_running (h := h) hr owner method
  rw [hspace] at hinvoke
  obtain ⟨e, he, hcalls, hrefused, hran⟩ := invokeEntry_runs a.environment.fingerprint hx
  rw [← hinvoke] at hcalls hrefused hran
  refine ⟨e, he, hcalls, hrefused, fun values hv => ?_, fun standard => ?_⟩
  · have hanswer := hran values hv
    exact ⟨hanswer, hanswer ▸ hears_ok_iff c.border x.symbol _⟩
  · have hanswer := hran _ (standard ▸ Border.inwardAll_standard args)
    rw [standard] at hanswer
    refine ⟨hanswer, hanswer ▸ hears_standard_ok_iff x.symbol _, fun v w hv hw => ?_⟩
    rw [hanswer, hv]
    exact hears_standard_barred x.symbol hw

/-- a function that returns a function -/
def closes : List Command := [.setSource "fn M__F() \x7b |x| x \x7d", .compile]

theorem finished_closes :
    let d : Scripted := { engine := Engine.standard {} }
    let h := ((Host.create d.language "Rhai" "N").1.run closes).1
    h.running?.isSome = true ∧
      ∀ r ∈ h.running?, ∃ x args, Running.selected? r.unit "N" "M" "F" = some (x, args) ∧
        (h.invoke "M" "F").2.calls = [(x, args)] := by
  intro d h
  have selected : h.running?.isSome = true ∧
      ∀ r ∈ h.running?, (Running.selected? r.unit "N" "M" "F").isSome = true := by
    decide +kernel
  refine ⟨selected.1, fun r hr => ?_⟩
  obtain ⟨a, -, c, -, -, hall⟩ := finished_run d "Rhai" "N" closes r hr
  obtain ⟨⟨x, args⟩, hx⟩ := Option.isSome_iff_exists.mp (selected.2 r hr)
  obtain ⟨e, -, hcalls, -⟩ := hall "M" "F" x args hx
  refine ⟨x, args, hx, ?_⟩
  rw [show h = ((Host.create d.language "Rhai" "N").1.run closes).1 from rfl, hcalls]

/-- a function may finish without a fault, and its entry point fail -/
theorem invoke_closure :
    let d : Scripted := { engine := Engine.standard {} }
    let h := ((Host.create d.language "Rhai" "N").1.run closes).1
    ¬ ∀ a ∈ lastSuccess (tried d.language "Rhai" "N" closes), ∀ c ∈ d.compiledIn a.environment,
      ∀ r ∈ h.running?, ∀ e ∈ c.entrances,
        (Running.selected? r.unit "N" "M" "F").map (·.1.symbol) = some e.name →
          (c.call e []).result.isOk = true → (h.invoke "M" "F").1 = .ok () := by
  intro d h claim
  have finished : ∃ a ∈ lastSuccess (tried d.language "Rhai" "N" closes),
      ∃ c ∈ d.compiledIn a.environment, ∃ r ∈ h.running?, ∃ e ∈ c.entrances,
        (Running.selected? r.unit "N" "M" "F").map (·.1.symbol) = some e.name ∧
          (c.call e []).result.isOk = true ∧
          (h.invoke "M" "F").1 = .error (.call (.other ("return value conversion failed: " ++
            "Output type incorrect: Fn (expecting serde_json::value::Value)"))) := by
    decide +kernel
  obtain ⟨a, ha, c, hc, r, hr, e, he, hx, hok, failed⟩ := finished
  rw [claim a ha c hc r hr e he hx hok] at failed
  cases failed

end Dialect.Scripted

end Scripting
