import Scripting.Proofs.Dialect.Running
import Scripting.Proofs.EntryPoint.Fallback

/-!
# Which functions a host enters

A call that reaches a unit enters a function only if the script has one with the name and arity that
are asked for, and only if the arguments cross the border.  Where no two functions share name and
arity, that is the function of the export.

* `Fits`               a function that a caller may mean: public, with the module, the method name
                       and the arity asked for;
* `RanNothing`, `RanOnce`   what an operation leaves behind that runs nothing of a script, and one
                       that runs one function once;
* `Reports`            what a host may answer once a function was entered, by how it ended;
* `enters?_exported`   a call of an export enters its own function;
* `callFirst_some`     and runs it once, or runs nothing as an argument does not cross;
* `fallback_first`, `fallback_second`   the attempts of an entry point, of which one may run it;
* `entered_run`        a host runs at most one function, one that fits, and reports how it ended.
-/

namespace Scripting.Dialect

open Script (Border Value)

/-- no two functions have both name and arity in common -/
def Compiled.Distinct (c : Compiled) : Prop :=
  c.entrances.Pairwise fun e e' => ¬ (e.name = e'.name ∧ e.arity = e'.arity)

instance (c : Compiled) : Decidable c.Distinct := inferInstanceAs (Decidable (List.Pairwise _ _))

namespace Scripted

open Host (lastSuccess tried)

/-- What a host may answer once a function was entered, by how the function ended: its value or a
failure of the script, or that the value is none that a host can take. -/
def Reports {α : Type} (b : Border) (ended : Except Script.Fault Value) :
    Except HostFault α → Prop
  | .ok _ => ∃ v d, ended = .ok v ∧ b.outward v = .ok d
  | .error (.scriptRuntime _ _) => ∃ fault, ended = .error fault
  | .error (.call (.other message)) =>
    ∃ v why, ended = .ok v ∧ b.outward v = .error why ∧
      message = "return value conversion failed: " ++ why
  | _ => False

/-- what a host answers if an argument does not cross the border -/
def Refuses {α : Type} (b : Border) (args : List Data) (answer : Except HostFault α) : Prop :=
  ∃ why, b.inwardAll args = .error why ∧
    answer = .error (.call (.other ("argument conversion failed: " ++ why)))

section
variable (b : Border) (symbol : String) (ended : Except Script.Fault Value)

theorem reports_passOn : Reports b ended (Running.passOn (conclude b symbol ended)) := by
  cases ended with
  | error fault => exact ⟨fault, rfl⟩
  | ok v =>
    cases hv : b.outward v with
    | ok d => simp [conclude, hv, Running.passOn, Reports]
    | error why => simp [conclude, hv, Running.passOn, Reports]

theorem reports_concludeEntry (owner method : String) :
    Reports b ended (Running.concludeEntry owner method (conclude b symbol ended)) := by
  cases ended with
  | error fault => exact ⟨fault, rfl⟩
  | ok v =>
    cases hv : b.outward v with
    | ok d => simp [conclude, hv, Running.concludeEntry, Reports]
    | error why => simp [conclude, hv, Running.concludeEntry, Reports]

/-- how a function ended is never taken for a number of arguments that does not fit -/
theorem conclude_ne_parameterCount (n : Nat) :
    conclude b symbol ended ≠ .error (.parameterCount n) := by
  cases ended with
  | error fault => simp [conclude]
  | ok v => cases hv : b.outward v <;> simp [conclude, hv]

end

/-! ## the function that a call enters -/

section
variable (separator space : String) (c : Compiled)

/-- the function that a call of an export enters, which goes by the number of arguments and not by
what the export takes -/
def enters? (x : Export) (args : List Data) : Option Entrance :=
  match c.border.inwardAll args with
  | .error _ => none
  | .ok values => c.entrances.find? fun e => e.name == x.symbol && e.arity == values.length

/-- the functions that an operation entered, each with its arguments, in order -/
def entered (t : Trace) : List (Entrance × List Data) :=
  t.calls.filterMap fun r => (enters? c r.1 r.2).map (·, r.2)

theorem entered_of_calls {t : Trace} {x : Export} {args : List Data} {e : Entrance}
    (ht : t.calls = [(x, args)]) (he : enters? c x args = some e) : entered c t = [(e, args)] := by
  rw [entered, ht, List.filterMap_cons, he]
  rfl

theorem entered_of_refused {t : Trace} {x : Export} {args : List Data} {why : String}
    (ht : t.calls = [(x, args)]) (hw : c.border.inwardAll args = .error why) :
    entered c t = [] := by
  rw [entered, ht, List.filterMap_cons, enters?, hw]
  rfl

/-- a call that enters a function runs it on what its arguments cross as -/
theorem callAmong_of_enters {x : Export} {args : List Data} {e : Entrance}
    (h : enters? c x args = some e) : ∃ values, c.border.inwardAll args = .ok values ∧
      callAmong c x args =
        ⟨conclude c.border x.symbol (c.call e values).result,
          .calling x.symbol args.length :: (c.call e values).events⟩ := by
  unfold enters? at h
  cases hv : c.border.inwardAll args with
  | error why =>
    rw [hv] at h
    cases h
  | ok values =>
    rw [hv] at h
    refine ⟨values, rfl, ?_⟩
    rw [callAmong, hv]
    dsimp only at h ⊢
    rw [h, Border.length_inwardAll hv]

/-- Nothing of the script ran: no function was entered, and nothing is logged behind `before`. -/
structure RanNothing (before : List Event) (t : Trace) : Prop where
  entered : entered c t = []
  events : t.events = before

/-- A function ran once: the unit was called once, by the function's own export, and the call
entered the function.  Behind `before` it is logged that the function was called and then what one
run of it logs, and nothing else. -/
structure RanOnce (before : List Event) (e : Entrance) (args : List Data) (values : List Value)
    (t : Trace) : Prop where
  crossed : c.border.inwardAll args = .ok values
  calls : t.calls = [(exported separator space e, args)]
  entered : entered c t = [(e, args)]
  events : t.events = before ++ .calling e.name args.length :: (c.call e values).events

/-- a function that a caller may mean who asks for a method of a module with so many arguments -/
structure Fits (name : QualifiedName) (method : String) (n : Nat) (e : Entrance) : Prop where
  mem : e ∈ c.entrances
  visible : isPublic e = true
  home : (exported separator space e).home.key = name.key
  method : (exported separator space e).name = method
  arity : e.arity = n

variable {c}

theorem enters?_exported (distinct : c.Distinct) {e : Entrance} (he : e ∈ c.entrances)
    {args : List Data} {values : List Value} (hv : c.border.inwardAll args = .ok values)
    (ha : e.arity = args.length) : enters? c (exported separator space e) args = some e := by
  rw [enters?, hv]
  dsimp only
  rw [Border.length_inwardAll hv, ← ha]
  unfold Compiled.Distinct at distinct
  generalize c.entrances = es at distinct he
  induction es with
  | nil => cases he
  | cons d es ih =>
    obtain ⟨hd, hes⟩ := List.pairwise_cons.mp distinct
    rcases List.mem_cons.mp he with rfl | he
    · exact List.find?_cons_of_pos (by simp [exported])
    · rw [List.find?_cons_of_neg (by simpa [exported] using hd e he)]
      exact ih hes he

variable {separator space} {name : QualifiedName} {method : String}

theorem first?_unitOf {n : Nat} {x : Export}
    (h : Export.first? (unitOf separator space c).exports name method n = some x) :
    ∃ e, Fits separator space c name method n e ∧ exported separator space e = x := by
  rw [Export.first?_eq_find?] at h
  have hx := List.find?_some h
  simp only [Bool.and_eq_true, beq_iff_eq] at hx
  obtain ⟨e, he, hp, rfl⟩ := (mem_exports separator space c).mp (List.mem_of_find?_eq_some h)
  exact ⟨e, ⟨he, hp, hx.1, hx.2.1, hx.2.2⟩, rfl⟩

theorem not_fits_of_first? {n : Nat}
    (h : Export.first? (unitOf separator space c).exports name method n = none) (e : Entrance) :
    ¬ Fits separator space c name method n e := by
  intro f
  have hx := (mem_exports separator space c).mpr ⟨e, f.mem, f.visible, rfl⟩
  exact Export.first?_eq_none_iff.mp h _ hx f.home f.method f.arity

/-- A call of the first export that fits runs its function once, and tells how that ended; or an
argument does not cross, and nothing runs. -/
theorem callFirst_some (distinct : c.Distinct) (args : List Data) {x : Export}
    (h : Export.first? (unitOf separator space c).exports name method args.length = some x) :
    ∃ e, Fits separator space c name method args.length e ∧
      let reached := Running.callFirst (unitOf separator space c) (some x) args
      (∃ values, RanOnce separator space c [] e args values reached.2 ∧
        reached.1 = conclude c.border e.name (c.call e values).result) ∨
      ∃ why, c.border.inwardAll args = .error why ∧ RanNothing c [] reached.2 ∧
        reached.1 = .error (.other ("argument conversion failed: " ++ why)) := by
  obtain ⟨e, f, rfl⟩ := first?_unitOf h
  refine ⟨e, f, ?_⟩
  intro reached
  have hreached : reached = ((callAmong c (exported separator space e) args).result,
      { calls := [(exported separator space e, args)],
        events := (callAmong c (exported separator space e) args).events }) := rfl
  cases hv : c.border.inwardAll args with
  | error why =>
    refine .inr ⟨why, rfl, ?_⟩
    rw [hreached, callAmong_refused _ hv]
    exact ⟨⟨entered_of_refused c rfl hv, rfl⟩, rfl⟩
  | ok values =>
    have he := enters?_exported separator space distinct f.mem hv f.arity
    obtain ⟨values', hv', hcall⟩ := callAmong_of_enters c he
    obtain rfl : values = values' := Except.ok.inj (hv.symm.trans hv')
    refine .inl ⟨values, ?_⟩
    rw [hreached, hcall]
    exact ⟨⟨hv, rfl, entered_of_calls c rfl he, rfl⟩, rfl⟩

/-- what was logged before a function ran stands before what it logs -/
theorem RanOnce.behind {e : Entrance} {args : List Data} {values : List Value} {t : Trace}
    (h : RanOnce separator space c [] e args values t) (before : List Event) :
    RanOnce separator space c before e args values (Trace.log before ++ t) where
  crossed := h.crossed
  calls := h.calls
  entered := h.entered
  events := congrArg (before ++ ·) h.events

/-! ## what a unit is asked for -/

section
variable (distinct : c.Distinct) (fingerprint : UInt64) (owner : String)
include distinct

theorem invokeWith_entered (args : List Data) :
    let fits := Fits separator space c (QualifiedName.inNamespace space owner) method
    let answer := (Running.ofUnit (unitOf separator space c) fingerprint).invokeWith space owner
      method args
    (RanNothing c [] answer.2 ∧
      ((∀ e, ¬ fits args.length e) ∨ Refuses c.border args answer.1)) ∨
    ∃ e values, fits args.length e ∧ RanOnce separator space c [] e args values answer.2 ∧
      Reports c.border (c.call e values).result answer.1 := by
  intro fits answer
  cases h : Export.first? (unitOf separator space c).exports
      (QualifiedName.inNamespace space owner) method args.length with
  | none =>
    have ht : answer.2 = {} := Running.trace_of_no_first _ fingerprint h
    exact .inl ⟨ht ▸ ⟨rfl, rfl⟩, .inl (not_fits_of_first? h)⟩
  | some x =>
    have ha : answer = (Running.passOn (Running.callFirst (unitOf separator space c) (some x)
        args).1, (Running.callFirst (unitOf separator space c) (some x) args).2) :=
      Running.invokeWith_of_first fingerprint h
    rw [ha]
    obtain ⟨e, f, ⟨values, hran, hr⟩ | ⟨why, hw, hran, hr⟩⟩ := callFirst_some distinct args h
    · exact .inr ⟨e, values, f, hran, hr ▸ reports_passOn c.border e.name _⟩
    · exact .inl ⟨hran, .inr ⟨why, hw, congrArg Running.passOn hr⟩⟩

/-- where a function takes one list, the first attempt is the last, whatever comes of it -/
theorem fallback_first {x : Export} (h : Export.first? (unitOf separator space c).exports
      (QualifiedName.inNamespace space owner) method 1 = some x)
    (second : Except CallFault Data × Trace) :
    let answer := Running.fallback owner method
      (Running.callFirst (unitOf separator space c) (some x) [.list []]) second
    (RanNothing c [] answer.2 ∧ Refuses c.border [.list []] answer.1) ∨
    ∃ e values,
      Fits separator space c (QualifiedName.inNamespace space owner) method 1 e ∧
      RanOnce separator space c [] e [.list []] values answer.2 ∧
      Reports c.border (c.call e values).result answer.1 := by
  intro answer
  obtain ⟨e, f, hended⟩ := callFirst_some distinct [.list []] h
  have ha : answer = (Running.concludeEntry owner method _, _) :=
    Running.fallback_of_fits owner method
      (by
        rcases hended with ⟨values, -, hr⟩ | ⟨why, -, -, hr⟩ <;> rw [hr]
        · exact conclude_ne_parameterCount c.border e.name _
        · simp) second
  rw [ha]
  rcases hended with ⟨values, hran, hr⟩ | ⟨why, hw, hran, hr⟩
  · rw [hr]
    exact .inr ⟨e, values, f, hran, reports_concludeEntry c.border e.name _ owner method⟩
  · rw [hr]
    exact .inl ⟨hran, why, hw, rfl⟩

/-- where none does, the second attempt passes nothing, and that is never refused -/
theorem fallback_second :
    let answer := Running.fallback owner method
      (Running.callFirst (unitOf separator space c) none [.list []])
      (Running.callFirst (unitOf separator space c)
        (Export.first? (unitOf separator space c).exports
          (QualifiedName.inNamespace space owner) method 0) [])
    (RanNothing c [.retrying owner method] answer.2 ∧
      ∀ e, ¬ Fits separator space c (QualifiedName.inNamespace space owner) method 0 e) ∨
    ∃ e values,
      Fits separator space c (QualifiedName.inNamespace space owner) method 0 e ∧
      RanOnce separator space c [.retrying owner method] e [] values answer.2 ∧
      Reports c.border (c.call e values).result answer.1 := by
  cases h : Export.first? (unitOf separator space c).exports
      (QualifiedName.inNamespace space owner) method 0 with
  | none => exact .inl ⟨⟨rfl, rfl⟩, not_fits_of_first? h⟩
  | some y =>
    intro answer
    obtain ⟨e, f, ⟨values, hran, hr⟩ | ⟨why, hw, -, -⟩⟩ := callFirst_some distinct [] h
    · refine .inr ⟨e, values, f, hran.behind _, ?_⟩
      show Reports c.border (c.call e values).result (Running.concludeEntry owner method
        (Running.callFirst (unitOf separator space c) (some y) []).1)
      rw [hr]
      exact reports_concludeEntry c.border e.name _ owner method
    · cases hw

theorem invokeEntry_entered :
    let fits := Fits separator space c (QualifiedName.inNamespace space owner) method
    let answer := (Running.ofUnit (unitOf separator space c) fingerprint).invokeEntry space owner
      method
    ((∃ before ∈ [[], [.retrying owner method]], RanNothing c before answer.2) ∧
      ((∀ e n, n ≤ 1 → ¬ fits n e) ∨ Refuses c.border [.list []] answer.1)) ∨
    ∃ e args values before, fits args.length e ∧
      (args = [.list []] ∧ before = [] ∨
        args = [] ∧ before = [.retrying owner method] ∧ ∀ e', ¬ fits 1 e') ∧
      RanOnce separator space c before e args values answer.2 ∧
      Reports c.border (c.call e values).result answer.1 := by
  intro fits answer
  by_cases ho : Export.overloads (unitOf separator space c).exports
      (QualifiedName.inNamespace space owner) method = []
  · have ha : answer = (.error (.entryPointNotFound owner method), {}) :=
      Running.invokeEntry_of_no_overloads _ fingerprint space owner method ho
    rw [ha]
    refine .inl ⟨⟨[], List.mem_cons_self, rfl, rfl⟩, .inl fun e n _ => ?_⟩
    exact not_fits_of_first? (Export.first?_of_overloads ho n) e
  have ha : answer = _ :=
    Running.invokeEntry_of_overloads (unitOf separator space c) fingerprint space owner method ho
  cases h1 : Export.first? (unitOf separator space c).exports
      (QualifiedName.inNamespace space owner) method 1 with
  | some x =>
    rw [h1] at ha
    rw [ha]
    rcases fallback_first distinct owner h1 _ with ⟨hran, hw⟩ | ⟨e, values, f, hran, hr⟩
    · exact .inl ⟨⟨[], List.mem_cons_self, hran⟩, .inr hw⟩
    · exact .inr ⟨e, [.list []], values, [], f, .inl ⟨rfl, rfl⟩, hran, hr⟩
  | none =>
    have not_one : ∀ e, ¬ fits 1 e := not_fits_of_first? h1
    rw [h1] at ha
    rw [ha]
    rcases fallback_second distinct owner with ⟨hran, not_zero⟩ | ⟨e, values, f, hran, hr⟩
    · refine .inl ⟨⟨[.retrying owner method], by simp, hran⟩, .inl fun e n hn => ?_⟩
      obtain rfl | rfl : n = 0 ∨ n = 1 := by omega
      · exact not_zero e
      · exact not_one e
    · exact .inr ⟨e, [], values, [.retrying owner method], f, .inr ⟨rfl, rfl, not_one⟩, hran, hr⟩

end

end

/-! ## every run of a host -/

/-- what the engine makes of the text and the libraries of an environment -/
def compiledIn (d : Scripted) (e : Environment) : Option Compiled :=
  (d.makes e (d.expanded e.text)).toOption

/-- **The functions that a host enters**, behind every run of a host over a script dialect, if no
two functions of the script that runs have both name and arity in common.  One operation runs at
most one function, and that once: a public one that takes as many arguments as it is given and is
exported under the method and module asked for.  It runs one if any fits, unless an argument does
not cross the border.  An entry point is given one empty list if a function fits that, and nothing
otherwise.  Whatever the function does, the host reports how it ended, and never that something was
not found. -/
theorem entered_run (d : Scripted) (id space : String) (cs : List Command)
    (distinct : ∀ a ∈ lastSuccess (tried d.language id space cs),
      ∀ c ∈ d.compiledIn a.environment, c.Distinct) :
    let h := ((Host.create d.language id space).1.run cs).1
    let separator := d.settings.moduleSeparator
    ∀ r ∈ h.running?, ∃ a ∈ lastSuccess (tried d.language id space cs),
      ∃ c ∈ d.compiledIn a.environment, r.unit = unitOf separator space c ∧
      ∀ owner method,
        let fits := Fits separator space c (QualifiedName.inNamespace space owner) method
        let ran := RanOnce separator space c
        (∀ args, let answer := h.call owner method args
          (RanNothing c [] answer.2 ∧
            ((∀ e, ¬ fits args.length e) ∨ Refuses c.border args answer.1)) ∨
          ∃ e values, fits args.length e ∧ ran [] e args values answer.2 ∧
            Reports c.border (c.call e values).result answer.1) ∧
        let answer := h.invoke owner method
        let retried := [.retrying owner method]
        ((∃ before ∈ [[], retried], RanNothing c before answer.2) ∧
          ((∀ e n, n ≤ 1 → ¬ fits n e) ∨ Refuses c.border [.list []] answer.1)) ∨
        ∃ e args values before, fits args.length e ∧
          (args = [.list []] ∧ before = [] ∨
            args = [] ∧ before = retried ∧ ∀ e', ¬ fits 1 e') ∧
          ran before e args values answer.2 ∧
          Reports c.border (c.call e values).result answer.1 := by
  intro h separator r hr
  obtain ⟨a, ha, c, hc, -, rfl⟩ := running_scripted d id space cs r hr
  have hcompiled : c ∈ d.compiledIn a.environment := congrArg Except.toOption hc
  have hc := distinct a ha c hcompiled
  refine ⟨a, ha, c, hcompiled, rfl, fun owner method => ?_⟩
  have hspace : h.space = space := Host.run_space _ cs
  refine ⟨fun args => ?_, ?_⟩
  · have hcall := Host.call_of_running (h := h) hr owner method args
    rw [hspace] at hcall
    rw [hcall]
    exact invokeWith_entered hc a.environment.fingerprint owner args
  · have hinvoke := Host.invoke_of_running (h := h) hr owner method
    rw [hspace] at hinvoke
    rw [hinvoke]
    exact invokeEntry_entered hc a.environment.fingerprint owner

/-- two overloads, of which the first calls a function that is not there, and a private function -/
def overloaded : List Command :=
  [.setSource ("fn Checks__Run(list) \x7b Checks__Run(1, 2) \x7d fn Checks__Run() \x7b 1 \x7d" ++
    " private fn Checks__Hidden() \x7b 2 \x7d"), .compile]

theorem entered_overloaded :
    let d : Scripted := { engine := Engine.standard {} }
    let h := ((Host.create d.language "Rhai" "N").1.run overloaded).1
    (∀ a ∈ lastSuccess (tried d.language "Rhai" "N" overloaded),
      ∀ c ∈ d.compiledIn a.environment, c.Distinct) ∧
    h.running?.isSome = true ∧
    ∀ r ∈ h.running?, ∃ c, r.unit = unitOf "__" "N" c ∧ ∀ owner method,
      (∀ args, RanNothing c [] (h.call owner method args).2 ∨
        ∃ e values, RanOnce "__" "N" c [] e args values (h.call owner method args).2) ∧
      (entered c (h.invoke owner method).2).length ≤ 1 := by
  intro d h
  have distinct : ∀ a ∈ lastSuccess (tried d.language "Rhai" "N" overloaded),
      ∀ c ∈ d.compiledIn a.environment, c.Distinct := by
    decide +kernel
  refine ⟨distinct, by decide +kernel, fun r hr => ?_⟩
  obtain ⟨-, -, c, -, hu, hall⟩ := entered_run d "Rhai" "N" overloaded distinct r hr
  refine ⟨c, hu, fun owner method => ⟨fun args => ?_, ?_⟩⟩
  · rcases (hall owner method).1 args with ⟨hran, -⟩ | ⟨e, values, -, hran, -⟩
    · exact .inl hran
    · exact .inr ⟨e, values, hran⟩
  · rcases (hall owner method).2 with ⟨⟨_, -, hran⟩, -⟩ | ⟨_, _, _, _, -, -, hran, -⟩
    · rw [hran.entered]
      exact Nat.zero_le 1
    · rw [hran.entered]
      exact Nat.le_refl 1

end Scripted

end Scripting.Dialect
