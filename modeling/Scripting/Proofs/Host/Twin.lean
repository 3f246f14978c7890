import Scripting.Proofs.Host.Gathered

/-!
# Hosts that cannot be told apart

* `Host.Agree`   two hosts hold the same unit and the same report, so they show the same and answer
                 every call alike (`Agree.outcomes`);
* `Host.Twin`    they agree and have gathered the same.  As long as their languages give the same
                 answer to every compile, they stay twins (`Twin.step`) and reply alike
                 (`Twin.reply`).
-/

namespace Scripting.Host

open Environment

/-! ## hosts that agree -/

/-- two hosts that are called from one namespace and hold the same unit and report -/
structure Agree (h k : Host) : Prop where
  space : h.space = k.space
  report : h.report = k.report
  running : h.running?.map (fun r => (r.unit, r.table)) = k.running?.map fun r => (r.unit, r.table)

/-- the fingerprint of a unit has no part in calls -/
theorem running_cases {h k : Host} (a : Agree h k) :
    (h.running? = none ∧ k.running? = none) ∨
      ∃ unit table x y, h.running? = some ⟨unit, table, x⟩ ∧ k.running? = some ⟨unit, table, y⟩ := by
  have hr := a.running
  cases eh : h.running? with
  | none =>
    rw [eh] at hr
    exact .inl ⟨rfl, Option.map_eq_none_iff.mp hr.symm⟩
  | some r =>
    rw [eh] at hr
    obtain ⟨r', ek, he⟩ := Option.map_eq_some_iff.mp hr.symm
    obtain ⟨unit, table, x⟩ := r
    obtain ⟨unit', table', y⟩ := r'
    obtain ⟨rfl, rfl⟩ := Prod.mk.inj he
    exact .inr ⟨unit', table', x, y, rfl, ek⟩

theorem Agree.call {h k : Host} (a : Agree h k) (owner method : String) (args : List Data) :
    h.call owner method args = k.call owner method args := by
  unfold Host.call
  rcases running_cases a with ⟨eh, ek⟩ | ⟨unit, table, x, y, eh, ek⟩
  · rw [eh, ek]
  · rw [eh, ek, a.space]
    rfl

theorem Agree.invoke {h k : Host} (a : Agree h k) (owner method : String) :
    h.invoke owner method = k.invoke owner method := by
  unfold Host.invoke
  rcases running_cases a with ⟨eh, ek⟩ | ⟨unit, table, x, y, eh, ek⟩
  · rw [eh, ek]
  · rw [eh, ek, a.space]
    rfl

theorem Agree.exports {h k : Host} (a : Agree h k) :
    h.running?.map (·.unit.exports) = k.running?.map (·.unit.exports) := by
  have hr := congrArg (Option.map fun u : CompiledUnit × Table => u.1.exports) a.running
  rwa [Option.map_map, Option.map_map] at hr

/-- two hosts show the same exports and the same report, and answer every call alike -/
structure SameOutcomes (h k : Host) : Prop where
  exports : h.running?.map (·.unit.exports) = k.running?.map (·.unit.exports)
  report : h.report = k.report
  call : ∀ owner method args, h.call owner method args = k.call owner method args
  invoke : ∀ owner method, h.invoke owner method = k.invoke owner method

theorem Agree.outcomes {h k : Host} (a : Agree h k) : SameOutcomes h k :=
  ⟨a.exports, a.report, a.call, a.invoke⟩

theorem Agree.step_of_not_compile {h k : Host} (a : Agree h k) {c c' : Command}
    (hc : c.isCompile = false) (hc' : c'.isCompile = false) : Agree (h.step c).1 (k.step c').1 := by
  obtain ⟨h1, h2, -⟩ := Host.step_of_not_compile h hc
  obtain ⟨k1, k2, -⟩ := Host.step_of_not_compile k hc'
  refine ⟨?_, ?_, ?_⟩
  · rw [step_space, step_space, a.space]
  · rw [h2, k2, a.report]
  · rw [h1, k1, a.running]

theorem Agree.run_of_not_compile {h k : Host} (a : Agree h k) {cs : List Command}
    (hcs : ∀ c ∈ cs, c.isCompile = false) : Agree (h.run cs).1 (k.run cs).1 := by
  induction cs generalizing h k with
  | nil => exact a
  | cons c cs ih =>
    have hc := hcs c List.mem_cons_self
    exact ih (a.step_of_not_compile hc hc) fun d hd => hcs d (List.mem_cons_of_mem c hd)

/-! ### compiles with the same answer -/

/-- the unit of a compile, as a host holds it, but for the fingerprint -/
theorem map_running? (a : Attempt) : a.running?.map (fun r => (r.unit, r.table)) =
    a.unit?.map fun u => (u, Table.ofExports u.exports) := by
  rw [Attempt.running?, Option.map_map]
  rfl

section
variable {h k : Host} (same : h.attempt.answer = k.attempt.answer)
include same

theorem compile_reply_congr : (h.step .compile).2.1 = (k.step .compile).2.1 := by
  unfold step compile
  unfold attempt Environment.attempt at same
  dsimp only at same ⊢
  rw [same]
  cases verdict (k.environment.language.compile k.compiles (k.environment.request k.space)).answer
    <;> rfl

theorem unit?_congr : h.attempt.unit? = k.attempt.unit? := by
  unfold Attempt.unit?
  rw [same]

theorem report?_congr : h.attempt.report? = k.attempt.report? := by
  unfold Attempt.report?
  rw [same]

theorem Agree.step_compile (a : Agree h k) : Agree (h.step .compile).1 (k.step .compile).1 := by
  obtain ⟨h1, h2, -⟩ := Host.step_compile h
  obtain ⟨k1, k2, -⟩ := Host.step_compile k
  refine ⟨?_, ?_, ?_⟩
  · rw [step_space, step_space, a.space]
  · rw [h2, k2, report?_congr same, a.report]
  · rw [h1, k1, Option.map_or, Option.map_or, map_running?, map_running?, unit?_congr same,
      a.running]

/-- hosts agree behind a compile that succeeded, whatever they held before -/
theorem agree_of_success (space : h.space = k.space) (ok : (h.step .compile).2.1 = .flag true) :
    Agree (h.step .compile).1 (k.step .compile).1 := by
  obtain ⟨h1, h2, -⟩ := Host.step_compile h
  obtain ⟨k1, k2, -⟩ := Host.step_compile k
  obtain ⟨u, hu⟩ := (step_compile_reply h).1.mp ok
  have unit : h.attempt.unit? = some u := by
    unfold Attempt.unit?
    rw [hu]
  have report : h.attempt.report? = some [] := by
    unfold Attempt.report?
    rw [hu]
  refine ⟨?_, ?_, ?_⟩
  · rw [step_space, step_space, space]
  · rw [h2, k2, ← report?_congr same, report]
    rfl
  · rw [h1, k1, Option.map_or, Option.map_or, map_running?, map_running?, ← unit?_congr same, unit]
    rfl

end

/-! ## twins -/

/-- a host `h` over the language `l` that agrees with `k` and has gathered the same, with its texts
in other words -/
structure Twin (l : Language) (f : String → String) (h k : Host) : Prop extends Agree h k where
  subscriptions : h.subscriptions = k.subscriptions
  environment : h.environment = k.environment.translated l f

theorem twin_create {l l' : Language} (hl : l'.accepts = l.accepts) {f : String → String}
    (hf : f "" = "") (id id' space : String) :
    Twin l' f (create l' id' space).1 (create l id space).1 :=
  ⟨⟨rfl, rfl, rfl⟩, rfl, create_translated hl hf id id' space⟩

theorem compile_subscriptions (h : Host) : (h.step .compile).1.subscriptions = h.subscriptions := by
  simp only [step, compile]
  split <;> rfl

section
variable {l : Language} {f : String → String} {h k : Host} (t : Twin l f h k)
include t

theorem Twin.step_subscriptions (c : Command) :
    (h.step (c.mapText f)).1.subscriptions = (k.step c).1.subscriptions := by
  have hs := t.subscriptions
  cases c with
  | compile => exact (compile_subscriptions h).trans (hs.trans (compile_subscriptions k).symm)
  | subscribe => exact congrArg (fun s : Subscriptions => s.subscribe.1) hs
  | unsubscribe handler => exact congrArg (fun s : Subscriptions => (s.unsubscribe handler).1) hs
  | _ => exact hs

variable (hl : l.accepts = k.environment.language.accepts)
include hl

theorem Twin.step_environment (c : Command) : (h.step (c.mapText f)).1.environment =
    (k.step c).1.environment.translated l f := by
  rw [Host.step_environment, Host.step_environment, t.environment, change_translated f hl]

/-- a guarded command is taken by both or refused by both -/
theorem Twin.guarded_reply (operation name : String)
    (change change' : Environment × List Event) :
    (h.environment.guarded operation name change').2.1 =
      (k.environment.guarded operation name change).2.1 := by
  rw [guarded_taken, guarded_taken, t.environment]
  exact congrFun hl name

theorem Twin.reply {c : Command}
    (same : c.isCompile = true → h.attempt.answer = k.attempt.answer) :
    (h.step (c.mapText f)).2.1 = (k.step c).2.1 := by
  cases c with
  | compile => exact compile_reply_congr (same rfl)
  | addReference name library => exact congrArg Reply.flag (t.guarded_reply hl ..)
  | addGlobal name object => exact congrArg Reply.flag (t.guarded_reply hl ..)
  | addSource name type => exact congrArg Reply.flag (t.guarded_reply hl ..)
  | subscribe => exact congrArg (fun s : Subscriptions => Reply.handler s.subscribe.2) t.subscriptions
  | unsubscribe handler =>
    exact congrArg (fun s : Subscriptions => Reply.flag (s.unsubscribe handler).2) t.subscriptions
  | call owner method args =>
    exact congrArg (fun r => Reply.ofResult Reply.value r.1) (t.call owner method args)
  | invoke owner method =>
    exact congrArg (fun r => Reply.ofResult (fun _ => Reply.done) r.1) (t.invoke owner method)
  | _ => rfl

/-- twins whose compiles have the same answer stay twins -/
theorem Twin.step {c : Command}
    (same : c.isCompile = true → h.attempt.answer = k.attempt.answer) :
    Twin l f (h.step (c.mapText f)).1 (k.step c).1 := by
  refine ⟨?_, t.step_subscriptions c, t.step_environment hl c⟩
  cases hc : c.isCompile with
  | true =>
    obtain rfl : c = .compile := by cases c <;> first | rfl | cases hc
    exact t.step_compile (same rfl)
  | false => exact t.step_of_not_compile (by cases c <;> first | rfl | cases hc) hc

end

end Scripting.Host
