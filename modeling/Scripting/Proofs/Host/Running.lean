import Mathlib.Data.List.Induction
import Scripting.Proofs.Host.History

/-!
# What the compiles of a run leave in a host

* `Host.Follows tried h`   the unit and the report that `h` holds are those of the compiles
                           `tried`: the unit of the last success, the report of the last that ran;
* `Follows.step`           one command keeps this up, with the compile it asks for, if any;
* `follows_run`            so it holds behind every run of a new host;
* `step_requests`, `step_compile_reply`   what a compile is handed and what it answers;
* `running_unit_of_run`    all of it, for every run of every new host.
-/

namespace Scripting

/-- nothing reached a compiler or a handler -/
structure Trace.Quiet (t : Trace) : Prop where
  requests : t.requests = []
  notices : t.notices = []

theorem Trace.Quiet.append {s t : Trace} (hs : s.Quiet) (ht : t.Quiet) : (s ++ t).Quiet where
  requests := by rw [append_requests, hs.requests, ht.requests]; rfl
  notices := by rw [append_notices, hs.notices, ht.notices]; rfl

namespace Host

theorem run_append (h : Host) (a b : List Command) :
    h.run (a ++ b) = (((h.run a).1.run b).1, (h.run a).2 ++ ((h.run a).1.run b).2) := by
  induction a generalizing h with
  | nil => rfl
  | cons c a ih => simp only [List.cons_append, run_cons, ih]

theorem length_run (h : Host) (cs : List Command) : (h.run cs).2.length = cs.length := by
  induction cs generalizing h with
  | nil => rfl
  | cons c cs ih => rw [run_cons, List.length_cons, ih, List.length_cons]

theorem run_concat (h : Host) (cs : List Command) (c : Command) :
    (h.run (cs ++ [c])).1 = ((h.run cs).1.step c).1 := by
  rw [run_append]
  rfl

/-- what the command behind `before` answers in a run -/
theorem run_get (h : Host) (before : List Command) (c : Command) (later : List Command) :
    (h.run (before ++ c :: later)).2[before.length]? = some ((h.run before).1.step c).2 := by
  rw [run_append, List.getElem?_append_right (Nat.le_of_eq (length_run ..)), length_run,
    Nat.sub_self]
  rfl

/-- the compile that a host would try now -/
def attempt (h : Host) : Attempt := h.environment.attempt h.space h.compiles

theorem getLast?_filterMap_concat {α β : Type} (f : α → Option β) (l : List α) (a : α) :
    ((l ++ [a]).filterMap f).getLast? = (f a).or (l.filterMap f).getLast? := by
  rw [List.filterMap_append, List.getLast?_append]
  cases h : f a <;> simp [h]

/-- the last compile that succeeded -/
def lastSuccess (tried : List Attempt) : Option Attempt :=
  (tried.filter fun a => a.unit?.isSome).getLast?

theorem getLast?_filterMap_eq_bind {α β : Type} (f : α → Option β) (l : List α) :
    (l.filterMap f).getLast? = (l.filter fun a => (f a).isSome).getLast?.bind f := by
  induction l using List.reverseRecOn with
  | nil => rfl
  | append_singleton l a ih =>
    rw [getLast?_filterMap_concat, List.filter_append, List.getLast?_append, ih]
    cases h : f a <;> simp [h]

theorem unit?_isSome_of_lastSuccess {tried : List Attempt} {a : Attempt}
    (h : a ∈ lastSuccess tried) : a.unit?.isSome = true :=
  (List.mem_filter.mp (List.mem_of_getLast? h)).2

/-- **What the compiles so far leave in a host.** -/
structure Follows (tried : List Attempt) (h : Host) : Prop where
  running : h.running? = (tried.filterMap Attempt.running?).getLast?
  report : h.report = ((tried.filterMap Attempt.report?).getLast?).getD []
  compiles : h.compiles = tried.length

/-! ### one command -/

theorem step_space (h : Host) (c : Command) : (h.step c).1.space = h.space := by
  cases c with
  | compile => simp only [step, compile]; split <;> rfl
  | _ => rfl

theorem step_environment (h : Host) (c : Command) :
    (h.step c).1.environment = c.change h.environment := by
  cases c with
  | compile => simp only [step, compile]; split <;> rfl
  | _ => rfl

/-- a command that is no compile leaves the unit, the report and their count alone -/
theorem step_of_not_compile (h : Host) {c : Command} (hc : c.isCompile = false) :
    (h.step c).1.running? = h.running? ∧ (h.step c).1.report = h.report ∧
      (h.step c).1.compiles = h.compiles := by
  cases c with
  | compile => cases hc
  | _ => exact ⟨rfl, rfl, rfl⟩

/-- a compile replaces the unit only by a new one, and the report only if it ran -/
theorem step_compile (h : Host) :
    (h.step .compile).1.running? = h.attempt.running?.or h.running? ∧
      (h.step .compile).1.report = h.attempt.report?.getD h.report ∧
      (h.step .compile).1.compiles = h.compiles + 1 := by
  unfold step compile Attempt.running? Attempt.unit? Attempt.report? attempt Environment.attempt
  dsimp only
  generalize (h.environment.language.compile h.compiles (h.environment.request h.space)) = c
  obtain ⟨answer, events⟩ := c
  match answer with
  | .error f => exact ⟨rfl, rfl, rfl⟩
  | .ok ⟨[], none⟩ => exact ⟨rfl, rfl, rfl⟩
  | .ok ⟨[], some u⟩ => exact ⟨rfl, rfl, rfl⟩
  | .ok ⟨d :: r, u?⟩ => exact ⟨rfl, rfl, rfl⟩

theorem Follows.step {tried : List Attempt} {h : Host} (f : Follows tried h) (c : Command) :
    Follows (tried ++ if c.isCompile then [h.attempt] else []) (h.step c).1 := by
  cases hc : c.isCompile with
  | false =>
    obtain ⟨h1, h2, h3⟩ := step_of_not_compile h hc
    rw [if_neg Bool.false_ne_true, List.append_nil]
    exact ⟨h1.trans f.running, h2.trans f.report, h3.trans f.compiles⟩
  | true =>
    have e : c = .compile := by cases c <;> first | rfl | cases hc
    subst e
    obtain ⟨h1, h2, h3⟩ := step_compile h
    rw [if_pos rfl]
    refine ⟨?_, ?_, ?_⟩
    · rw [h1, f.running, getLast?_filterMap_concat]
    · rw [h2, f.report, getLast?_filterMap_concat]
      cases h.attempt.report? <;> rfl
    · rw [h3, f.compiles, List.length_append, List.length_singleton]

/-! ### all commands -/

theorem run_space (h : Host) (cs : List Command) : (h.run cs).1.space = h.space := by
  induction cs generalizing h with
  | nil => rfl
  | cons c cs ih => rw [run_cons, ih, step_space]

theorem run_environment (h : Host) (cs : List Command) :
    (h.run cs).1.environment = h.environment.after cs := by
  induction cs generalizing h with
  | nil => rfl
  | cons c cs ih => rw [run_cons, ih, step_environment, Environment.after_cons]

/-- a host that has not compiled yet follows the compiles of every run -/
theorem follows_run {h : Host} (f : Follows [] h) (cs : List Command) :
    Follows (attempts h.space h.environment 0 cs) (h.run cs).1 := by
  -- the induction is on the last command, so that one step lemma does
  induction cs using List.reverseRecOn with
  | nil => exact f
  | append_singleton cs c ih =>
    have hn : (h.run cs).1.compiles = cs.countP Command.isCompile := by
      rw [ih.compiles, length_attempts]
    have hs := ih.step c
    rw [run_concat, attempts_append, Nat.zero_add]
    simp only [attempt, run_space, run_environment, hn] at hs
    cases hc : c.isCompile with
    | true => simpa [attempts, hc] using hs
    | false => simpa [attempts, hc] using hs

/-! ### what a compile is handed and what it answers -/

/-- the request of a compile: the whole text, the namespace, every referenced library in order and
with repetitions, and the flags of a host -/
def requestOf (e : Environment) (space : String) : Request :=
  ⟨e.text, space, e.references.map (·.library), Flags.standard⟩

section
variable (r : Running) (space owner method : String)

theorem quiet_call (xs : List Export) (args : List Data) : (r.call xs args).2.Quiet := by
  unfold Running.call
  split <;> exact ⟨rfl, rfl⟩

theorem quiet_invokeWith (args : List Data) : (r.invokeWith space owner method args).2.Quiet := by
  unfold Running.invokeWith
  dsimp only
  split
  · exact ⟨rfl, rfl⟩
  · split
    · exact ⟨rfl, rfl⟩
    · rename_i xs _
      have hc := quiet_call r xs args
      split <;> rename_i e <;> rw [e] at hc <;> exact hc

theorem quiet_invokeEntry : (r.invokeEntry space owner method).2.Quiet := by
  unfold Running.invokeEntry
  split
  · exact ⟨rfl, rfl⟩
  · rename_i xs _
    have h1 := quiet_call r xs [.list []]
    have h2 := quiet_call r xs []
    split
    · rename_i first e
      rw [e] at h1
      have h1 : first.Quiet := h1
      exact (h1.append ⟨rfl, rfl⟩).append h2
    · rename_i e
      rw [e] at h1
      exact h1

end

/-- a host that holds a unit asks it -/
theorem call_of_running {h : Host} {r : Running} (hr : h.running? = some r)
    (owner method : String) (args : List Data) :
    h.call owner method args = r.invokeWith h.space owner method args := by rw [call, hr]

theorem invoke_of_running {h : Host} {r : Running} (hr : h.running? = some r)
    (owner method : String) : h.invoke owner method = r.invokeEntry h.space owner method := by
  rw [invoke, hr]

/-- only a compile hands anything to the backend -/
theorem step_requests (h : Host) (hf : h.environment.flags = Flags.standard) (c : Command) :
    (h.step c).2.2.requests =
      if c.isCompile then [requestOf h.environment h.space] else [] := by
  cases c with
  | compile =>
    have e : h.environment.request h.space = requestOf h.environment h.space := by
      unfold Environment.request requestOf Environment.libraries
      rw [hf]
    simp only [step, compile, Command.isCompile, if_true, e]
    split <;> rfl
  | call owner method args =>
    simp only [step, call]
    split
    · exact (quiet_invokeWith ..).requests
    · rfl
  | invoke owner method =>
    simp only [step, invoke]
    split
    · exact (quiet_invokeEntry ..).requests
    · rfl
  | _ => rfl

/-- a compile answers by whether the backend ran, whether it reported anything, and whether it
answered with a unit -/
theorem step_compile_reply (h : Host) :
    ((h.step .compile).2.1 = .flag true ↔ ∃ u, h.attempt.answer = .ok ⟨[], some u⟩) ∧
      ((h.step .compile).2.1 = .flag false ↔ ∃ d r u?, h.attempt.answer = .ok ⟨d :: r, u?⟩) ∧
      ((∃ fault, (h.step .compile).2.1 = .refused fault) ↔
        (∃ f, h.attempt.answer = .error f) ∨ h.attempt.answer = .ok ⟨[], none⟩) := by
  unfold step compile attempt Environment.attempt
  dsimp only
  generalize (h.environment.language.compile h.compiles (h.environment.request h.space)) = c
  obtain ⟨answer, events⟩ := c
  match answer with
  | .error f => simp [verdict, Reply.ofResult]
  | .ok ⟨[], none⟩ => simp [verdict, Reply.ofResult]
  | .ok ⟨[], some u⟩ => simp [verdict, Reply.ofResult]
  | .ok ⟨d :: r, u?⟩ => simp [verdict, Reply.ofResult]

/-! ### new hosts -/

theorem fixed_withReferences (e : Environment) (rs : List Reference) :
    (withReferences e rs).1.fixed = e.fixed := by
  induction rs generalizing e with
  | nil => rfl
  | cons r rs ih => exact (ih _).trans (e.fixed_change (.addReference r.name r.library))

theorem fixed_withImports (e : Environment) (ss : List String) :
    (withImports e ss).1.fixed = e.fixed := by
  induction ss generalizing e with
  | nil => rfl
  | cons s ss ih => exact (ih _).trans (e.fixed_change (.addImport s))

section
variable (l : Language) (id space : String)

theorem follows_create : Follows [] (create l id space).1 := ⟨rfl, rfl, rfl⟩

theorem create_fixed : (create l id space).1.environment.fixed = (l, Flags.standard) := by
  let e : Environment := { language := l, flags := Flags.standard }
  exact (fixed_withImports (withReferences e defaultReferences).1 defaultImports).trans
    (fixed_withReferences e defaultReferences)

theorem run_language (cs : List Command) :
    ((create l id space).1.environment.after cs).language = l :=
  congrArg Prod.fst ((Environment.fixed_after _ cs).trans (create_fixed l id space))

theorem run_flags (cs : List Command) :
    ((create l id space).1.environment.after cs).flags = Flags.standard :=
  congrArg Prod.snd ((Environment.fixed_after _ cs).trans (create_fixed l id space))

/-- the compiles of a run of a new host -/
def tried (cs : List Command) : List Attempt :=
  attempts space (create l id space).1.environment 0 cs

theorem follows_run_create (cs : List Command) :
    Follows (tried l id space cs) ((create l id space).1.run cs).1 :=
  follows_run (follows_create l id space) cs

/-- what is compiled behind commands, and what the language answers to it -/
theorem attempt_run (cs : List Command) :
    let e := (create l id space).1.environment.after cs
    ((create l id space).1.run cs).1.attempt =
      ⟨e, (l.compile (cs.countP Command.isCompile) (requestOf e space)).answer⟩ := by
  intro e
  have hn : ((create l id space).1.run cs).1.compiles = cs.countP Command.isCompile :=
    (follows_run_create l id space cs).compiles.trans (length_attempts ..)
  unfold attempt Environment.attempt Environment.request
  rw [run_space, run_environment, hn, run_language, run_flags]
  rfl

/-- the unit of a host is the one of its last success -/
theorem running?_run (cs : List Command) : ((create l id space).1.run cs).1.running? =
    (lastSuccess (tried l id space cs)).bind Attempt.running? := by
  rw [(follows_run_create l id space cs).running, getLast?_filterMap_eq_bind]
  simp only [Attempt.running?, Option.isSome_map, lastSuccess]

end

end Host

end Scripting
