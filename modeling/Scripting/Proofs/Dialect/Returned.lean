import Scripting.Json.Writer
import Scripting.Proofs.Dialect.Alias
import Scripting.Proofs.Dialect.Entered
import Scripting.Proofs.Script.Crossing
import Scripting.Proofs.Script.Parameter

/-!
# What a caller gets back of a value that a function returns

A caller passes a value to a function that returns its argument.  The value crosses the border
twice.

* `invokeWith_of_entered`   a call answers by how the function that it entered ended;
* `crossed_run`             over a lawful border the caller gets the value back, but for integers
                            that script integers have no room for;
* `call_unsigned`           such an integer comes back as something else.
-/

namespace Scripting.Dialect.Scripted

open Host (lastSuccess tried)
open Script (Border Program Value)

section
variable {separator space owner method : String} {c : Compiled} (fingerprint : UInt64)

theorem invokeWith_of_entered {args : List Data} {e : Entrance}
    (h : (entered c ((Running.ofUnit (unitOf separator space c) fingerprint).invokeWith space owner
      method args).2).map (·.1) = [e]) :
    ∃ symbol values, c.border.inwardAll args = .ok values ∧
      ((Running.ofUnit (unitOf separator space c) fingerprint).invokeWith space owner
        method args).1 = Running.passOn (conclude c.border symbol (c.call e values).result) := by
  cases hx : Export.first? (unitOf separator space c).exports
      (QualifiedName.inNamespace space owner) method args.length with
  | none =>
    rw [entered, Running.calls_of_no_first _ fingerprint hx] at h
    cases h
  | some x =>
    -- one call reached the unit, so it is the one that entered `e`
    rw [Running.invokeWith_of_first fingerprint hx] at h ⊢
    have he : enters? c x args = some e := by
      rw [entered, List.filterMap_cons] at h
      cases hn : enters? c x args with
      | none => rw [hn] at h; cases h
      | some e' => rw [hn] at h; cases h; rfl
    obtain ⟨values, hv, hcall⟩ := callAmong_of_enters c he
    refine ⟨x.symbol, values, hv, ?_⟩
    show Running.passOn (callAmong c x args).result = _
    rw [hcall]

end

/-- **What a caller gets back** of a value that it passes to a function, behind every run of a host
over a script dialect, if the function returns its argument.  Over a lawful border every value that
JSON has crosses both ways, and it is the same then exactly if all integers in it are below 2 ^ 63;
an integer from there on becomes a floating-point number. -/
theorem crossed_run (b : Border) (lawful : b.Lawful) (d : Scripted) (id space : String)
    (cs : List Command) (v : Data) (hv : v.IsJson) :
    let h := ((Host.create d.language id space).1.run cs).1
    (∃ w, b.inward v = .ok w ∧ b.outward w = .ok v.crossed) ∧
    (v.crossed = v ↔ v.Fits) ∧
    ∀ r ∈ h.running?, ∃ a ∈ lastSuccess (tried d.language id space cs),
      ∃ c ∈ d.compiledIn a.environment, r.unit = unitOf d.settings.moduleSeparator space c ∧
      (c.border = b →
        ∀ owner method e, (entered c (h.call owner method [v]).2).map (·.1) = [e] →
          (∀ w, (c.call e [w]).result = .ok w) → (h.call owner method [v]).1 = .ok v.crossed) := by
  intro h
  obtain ⟨w, hin, hout⟩ := lawful.crosses v hv
  refine ⟨⟨w, hin, hout⟩, Data.crossed_eq_iff v, fun r hr => ?_⟩
  obtain ⟨a, ha, c, hc, -, rfl⟩ := running_scripted d id space cs r hr
  refine ⟨a, ha, c, congrArg Except.toOption hc, rfl, ?_⟩
  rintro rfl owner method e he hreturns
  have hspace : h.space = space := Host.run_space _ cs
  have hcall := Host.call_of_running (h := h) hr owner method [v]
  rw [hspace] at hcall
  rw [hcall] at he ⊢
  obtain ⟨symbol, values, hvalues, hresult⟩ :=
    invokeWith_of_entered a.environment.fingerprint he
  -- the one argument crosses as `w`, and as `w` it is returned
  obtain ⟨w', ws, hw, hws, rfl⟩ := Border.inwardAll_cons_eq_ok.mp hvalues
  cases hws
  obtain rfl : w = w' := Except.ok.inj (hin.symm.trans hw)
  rw [hresult, hreturns, conclude, hout]
  rfl

/-- a function that returns its argument -/
def echoes : List Command := [.setSource "fn M__F(x) \x7b x \x7d", .compile]

def echo : Entrance := ⟨"M__F", 1, false⟩

/-- a record as a caller may pass it, with a number that no floating-point number is -/
def passed : Data :=
  .record [("id", .int 9223372036854775807), ("tags", .list [.null, .text "x", .float 0.5])]

theorem isJson_passed : passed.IsJson := by
  refine ⟨?_, ⟨by decide, by decide⟩, ⟨trivial, trivial, trivial, ?_, trivial⟩, trivial⟩
  · show List.Pairwise _ _
    simp only [List.pairwise_cons, List.mem_singleton, forall_eq]
    exact ⟨by decide, by simp⟩
  · exact ⟨by decide +kernel, by decide +kernel⟩

/-- the engine's call of a function of a program is the program's call of it -/
theorem call_echo {p : Program}
    (h : (p.functions.find? fun f => Engine.entrance f == echo).any (·.returnsParameter) = true)
    (unlimited : p.settings.maxOperations = 0) (hvariables : 0 < p.settings.maxVariables)
    (w : Value) : ((Engine.ofProgram p).call echo [w]).result = .ok w := by
  unfold Engine.ofProgram
  dsimp only
  cases hf : p.functions.find? fun f => Engine.entrance f == echo with
  | none =>
    rw [hf] at h
    cases h
  | some f =>
    rw [hf] at h
    exact Program.call_of_returnsParameter h unlimited hvariables w

theorem crossed_run_echo :
    let d : Scripted := { engine := Engine.standard {} }
    let h := ((Host.create d.language "Rhai" "N").1.run echoes).1
    Border.standard.Lawful ∧ passed.IsJson ∧ h.running?.isSome = true ∧
      (h.call "M" "F" [passed]).1 = .ok passed := by
  intro d h
  have hrunning : h.running?.isSome = true := by decide +kernel
  refine ⟨Border.lawful_standard, isJson_passed, hrunning, ?_⟩
  obtain ⟨r, hr⟩ := Option.isSome_iff_exists.mp hrunning
  obtain ⟨-, -, hall⟩ :=
    crossed_run .standard Border.lawful_standard d "Rhai" "N" echoes passed isJson_passed
  obtain ⟨a, ha, c, hc, -, hanswer⟩ := hall r hr
  have holds : ∀ a ∈ lastSuccess (tried d.language "Rhai" "N" echoes),
      (∀ c ∈ d.compiledIn a.environment,
        (entered c (h.call "M" "F" [passed]).2).map (·.1) = [echo]) ∧
      ∀ p ∈ (Program.compile {} {} a.environment.flags (spaces (d.known a.environment.libraries))
          (d.expanded a.environment.text)).toOption,
        (p.functions.find? fun f => Engine.entrance f == echo).any (·.returnsParameter) = true ∧
          p.settings.maxOperations = 0 ∧ 0 < p.settings.maxVariables := by
    decide +kernel
  obtain ⟨hentered, hprogram⟩ := holds a ha
  obtain ⟨p, hp, rfl⟩ : ∃ p, Program.compile {} {} a.environment.flags
      (spaces (d.known a.environment.libraries)) (d.expanded a.environment.text) = .ok p ∧
        Engine.ofProgram p = c := by
    refine Engine.standard_eq_ok.mp ?_
    cases hm : d.makes a.environment (d.expanded a.environment.text) with
    | error fault => rw [compiledIn, hm] at hc; cases hc
    | ok c' => rw [compiledIn, hm] at hc; cases hc; exact hm
  obtain ⟨hreturns, unlimited, hvariables⟩ := hprogram p (congrArg Except.toOption hp)
  have hsame : passed.crossed = passed := rfl
  rw [← hsame]
  exact hanswer rfl "M" "F" echo (hentered _ hc) (call_echo hreturns unlimited hvariables)

/-- an integer that needs the place of the sign comes back as a floating-point number -/
theorem call_unsigned :
    let d : Scripted := { engine := Engine.standard {} }
    let h := ((Host.create d.language "Rhai" "N").1.run echoes).1
    (Data.int (2 ^ 63)).IsJson ∧
      (h.call "M" "F" [.int (2 ^ 63)]).1.toOption.map Json.write = some "9.223372036854776e+18" ∧
      ¬ (h.call "M" "F" [.int (2 ^ 63)]).1 = .ok (.int (2 ^ 63)) := by
  intro d h
  have answered : (h.call "M" "F" [.int (2 ^ 63)]).1.toOption.map Json.write =
      some "9.223372036854776e+18" := by decide +kernel
  refine ⟨⟨by decide, by decide⟩, answered, fun hsame => ?_⟩
  rw [hsame] at answered
  exact absurd answered (by decide +kernel)

end Scripting.Dialect.Scripted
