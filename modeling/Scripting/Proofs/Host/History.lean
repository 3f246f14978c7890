import Scripting.Host

/-!
# What a run says by itself

A run is a list of commands.  Two things are read off the commands without the host:

* `Environment.after`   the environment behind them;
* `attempts`            the compiles among them, each with the environment it was asked for in and
                        the answer of its backend.

`Environment.fixed_after`: no command touches the language and the flags of an environment.
`exists_of_mem_attempts`: every compile is asked for behind some of the commands.
-/

namespace Scripting

/-! ## commands and the environment -/

/-- what a command does to the environment of a host; most do nothing -/
def Command.change (e : Environment) : Command → Environment
  | .setSource text => e.setBody text
  | .addImport space => (e.addImport space).1
  | .addReference name library => (e.addReference name library).1
  | .addGlobal name object => (e.addGlobal name object).1
  | .removeGlobal name => (e.removeGlobal name).1
  | .addSource name type => (e.addSource name type).1
  | .subscribe | .unsubscribe _ | .compile | .call .. | .invoke .. => e

def Command.isCompile : Command → Bool
  | .compile => true
  | _ => false

namespace Environment

/-- the environment behind commands -/
def after (e : Environment) (cs : List Command) : Environment := cs.foldl Command.change e

theorem after_cons (e : Environment) (c : Command) (cs : List Command) :
    e.after (c :: cs) = (c.change e).after cs := rfl

/-- the language and the flags of an environment, which no operation touches -/
def fixed (e : Environment) : Language × Flags := (e.language, e.flags)

/-- what holds of an environment and of the one that a change leads to holds behind it, whether or
not the change is refused -/
theorem guarded_induction {P : Environment → Prop} {e : Environment} (h : P e)
    {change : Environment × List Event} (hc : P change.1) (operation name : String) :
    P (e.guarded operation name change).1 := by
  unfold guarded
  split
  · exact hc
  · exact h

theorem guarded_taken (e : Environment) (operation name : String)
    (change : Environment × List Event) :
    (e.guarded operation name change).2.1 = e.language.accepts name := by
  unfold guarded
  cases e.language.accepts name <;> rfl

theorem fixed_declareSource (e : Environment) (name : String) (path : TypePath) :
    (e.declareSource name path).1.fixed = e.fixed := by
  unfold declareSource
  cases path.space <;> rfl

theorem fixed_change (e : Environment) (c : Command) : (c.change e).fixed = e.fixed := by
  have guarded {change : Environment × List Event} (hc : change.1.fixed = e.fixed) :=
    guarded_induction (P := fun e' => e'.fixed = e.fixed) rfl hc
  cases c with
  | addReference name library => exact guarded rfl _ _
  | addGlobal name object => exact guarded rfl _ _
  | addSource name type => exact guarded (fixed_declareSource e name _) _ _
  | _ => rfl

theorem fixed_after (e : Environment) (cs : List Command) : (e.after cs).fixed = e.fixed := by
  induction cs generalizing e with
  | nil => rfl
  | cons c cs ih => rw [after_cons, ih, fixed_change]

end Environment

/-! ## the compiles of a run -/

/-- one compile: the environment it was asked for in, and the answer of the backend -/
structure Attempt where
  environment : Environment
  answer : Except BackendFault Answer

namespace Attempt

/-- the unit of a compile that succeeded: of one that reported nothing -/
def unit? (a : Attempt) : Option CompiledUnit :=
  match a.answer with
  | .ok ⟨[], u?⟩ => u?
  | _ => none

/-- the report of a compile that ran; one with neither a diagnostic nor a unit did not -/
def report? (a : Attempt) : Option Report :=
  match a.answer with
  | .ok ⟨[], none⟩ => none
  | .ok ⟨r, _⟩ => some r
  | .error _ => none

/-- the unit as a host keeps it -/
def running? (a : Attempt) : Option Running :=
  a.unit?.map fun u => Running.ofUnit u a.environment.fingerprint

end Attempt

/-- the compile that a host asks for in an environment, when there were `n` before -/
def Environment.attempt (e : Environment) (space : String) (n : Nat) : Attempt :=
  ⟨e, (e.language.compile n (e.request space)).answer⟩

/-- the compiles that commands ask for, when there were `n` before -/
def attempts (space : String) (e : Environment) (n : Nat) : List Command → List Attempt
  | [] => []
  | c :: cs =>
    if c.isCompile then e.attempt space n :: attempts space e (n + 1) cs
    else attempts space (c.change e) n cs

section
variable (space : String) (e : Environment)

theorem attempts_cons_of_not {c : Command} (h : c.isCompile = false) (n : Nat)
    (cs : List Command) :
    attempts space e n (c :: cs) = attempts space (c.change e) n cs := by
  simp [attempts, h]

theorem change_of_isCompile {c : Command} (h : c.isCompile = true) : c.change e = e := by
  cases c <;> first | rfl | cases h

theorem length_attempts (n : Nat) (cs : List Command) :
    (attempts space e n cs).length = cs.countP Command.isCompile := by
  induction cs generalizing e n with
  | nil => rfl
  | cons c cs ih =>
    cases h : c.isCompile with
    | true => simp [attempts, h, ih]
    | false => rw [attempts_cons_of_not space e h, ih, List.countP_cons_of_neg (by simp [h])]

theorem attempts_append (n : Nat) (a b : List Command) :
    attempts space e n (a ++ b) =
      attempts space e n a ++ attempts space (e.after a) (n + a.countP Command.isCompile) b := by
  induction a generalizing e n with
  | nil => rfl
  | cons c a ih =>
    cases h : c.isCompile with
    | true =>
      simp only [List.cons_append, attempts, h, if_true, ih, Environment.after_cons,
        change_of_isCompile e h, List.countP_cons_of_pos h]
      rw [Nat.add_right_comm, Nat.add_assoc]
    | false =>
      rw [List.cons_append, attempts_cons_of_not space e h, attempts_cons_of_not space e h, ih,
        Environment.after_cons, List.countP_cons_of_neg (by simp [h])]

/-- every compile is asked for behind some of the commands -/
theorem exists_of_mem_attempts (n : Nat) (cs : List Command) :
    ∀ a ∈ attempts space e n cs, ∃ before k, before <+: cs ∧
      a = (e.after before).attempt space k := by
  induction cs generalizing e n with
  | nil => intro a ha; cases ha
  | cons c cs ih =>
    intro a ha
    cases h : c.isCompile with
    | true =>
      rw [attempts, if_pos h] at ha
      rcases List.mem_cons.mp ha with rfl | ha
      · exact ⟨[], n, List.nil_prefix, rfl⟩
      · obtain ⟨before, k, hb, he⟩ := ih e (n + 1) a ha
        refine ⟨c :: before, k, List.cons_prefix_cons.mpr ⟨rfl, hb⟩, ?_⟩
        rw [he, Environment.after_cons, change_of_isCompile e h]
    | false =>
      rw [attempts_cons_of_not space e h] at ha
      obtain ⟨before, k, hb, he⟩ := ih (c.change e) n a ha
      exact ⟨c :: before, k, List.cons_prefix_cons.mpr ⟨rfl, hb⟩, he⟩

end

end Scripting
