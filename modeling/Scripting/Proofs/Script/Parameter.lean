import Scripting.Proofs.Script.Same
import Scripting.Script.Eval

/-!
# Functions that return what they are given

`fn f(x) { x }` has one parameter and reads it.  Called without a limit on operations it returns its
argument, whatever that is.

* `tick_unlimited`, `read_of_find`, `statements_name`   the steps of its body;
* `enter_of_framed`               a call is what the body comes to in a frame of its own;
* `call_of_returnsParameter`      the whole call.
-/

namespace Scripting.Script

/-- whether a function has one parameter, and nothing but that for its body -/
def Function.returnsParameter (f : Function) : Bool :=
  match f.params, f.body with
  | [x], .block [.name id] _ => x == id.name
  | _, _ => false

namespace Eval

section
variable {p : Program} (unlimited : p.settings.maxOperations = 0) {m : Machine}

theorem read_of_find {id : Ident} {v : Variable}
    (h : m.scope.find? (fun v => v.name == id.name) = some v) :
    Eval.read p id m = (.ok (content m v.slot).value, m) := by
  unfold Eval.read held
  rw [bind_apply, bind_apply, show (get : Eval Machine) m = (.ok m, m) from rfl]
  dsimp only
  rw [h]
  rfl

include unlimited

theorem tick_unlimited (n : Nat) (m : Machine) :
    tick p n m = (.ok (), { m with operations := m.operations + n }) := by
  unfold tick
  rw [bind_apply]
  show (set _ >>= fun _ => if p.settings.maxOperations ≠ 0 ∧ _ then _ else _ : Eval Unit) m = _
  rw [unlimited]
  rfl

/-- a block that only reads a variable -/
theorem statements_name {id : Ident} {v : Variable}
    (h : m.scope.find? (fun v => v.name == id.name) = some v) :
    statements p (run p bound) [.name id] m =
      (.ok (content m v.slot).value, { m with operations := m.operations + 2 }) := by
  -- `bound` is a successor, so `run` evaluates
  show (tick p 2 >>= fun _ => run p (999999999999999 + 1) (.name id)) m = _
  rw [bind_apply, tick_unlimited unlimited, run_succ]
  exact read_of_find (m := { m with operations := m.operations + 2 }) h

omit unlimited in
/-- the variables that a call starts with -/
theorem zip_arguments {f : Function} {x : String} (hparams : f.params = [x]) (w : Value) :
    ((f.params.zip ([].map Slot.shared ++ [w].map fun v => Slot.own ⟨v, false⟩)).map
      fun s => Variable.mk s.1 s.2).reverse = [⟨x, .own ⟨w, false⟩⟩] := by
  rw [hparams]
  rfl

/-- a call within the limits returns what the body comes to among its arguments -/
theorem enter_of_framed {f : Function} {x : String} (hparams : f.params = [x])
    (hlevel : m.level ≤ p.settings.maxCallLevels) (hvariables : 0 < p.settings.maxVariables)
    {rec : Expr → Eval Value} {v w : Value} {t : Machine}
    (h : framed [⟨x, .own ⟨v, false⟩⟩] (block p rec f.body)
      { m with operations := m.operations + 1 } = (.ok w, t)) (wrap : Fault → Fault) :
    enter p rec f [] [v] wrap m = (.ok w, t) := by
  unfold enter
  rw [bind_apply, tick_unlimited unlimited]
  dsimp only
  rw [bind_apply]
  show (do
    if p.settings.maxCallLevels < m.level then raise .stackOverflow none
    if p.settings.maxVariables < f.params.length then raise .tooManyVariables none
    _ : Eval Value) _ = _
  have hroom : ¬ p.settings.maxVariables < f.params.length := by
    rw [hparams]
    exact Nat.not_lt.mpr hvariables
  rw [if_neg (Nat.not_lt.mpr hlevel), if_neg hroom, zip_arguments hparams]
  show (tryCatch (framed _ (block p rec f.body)) _ : Eval Value) _ = _
  rw [tryCatch_apply, h]

end

end Eval

open Eval

/-- **A function that is its parameter returns its argument.** -/
theorem Program.call_of_returnsParameter {p : Program} {f : Function}
    (hf : f.returnsParameter = true) (unlimited : p.settings.maxOperations = 0)
    (hvariables : 0 < p.settings.maxVariables) (w : Value) : (p.call f [w]).result = .ok w := by
  obtain ⟨id, pos, hparams, hbody⟩ :
      ∃ id pos, f.params = [id.name] ∧ f.body = .block [.name id] pos := by
    unfold Function.returnsParameter at hf
    split at hf
    · rename_i x id pos hp hb
      exact ⟨id, pos, beq_iff_eq.mp hf ▸ hp, hb⟩
    · cases hf
  let given : Variable := ⟨id.name, .own ⟨w, false⟩⟩
  obtain ⟨t, ht⟩ : ∃ t, framed [given] (block p (run p bound) f.body) { operations := 0 + 1 } =
      (.ok w, t) := by
    have found : [given].find? (fun v => v.name == id.name) = some given :=
      List.find?_cons_of_pos (beq_self_eq_true id.name)
    rw [hbody]
    unfold framed block within
    dsimp only
    rw [statements_name unlimited found]
    exact ⟨_, rfl⟩
  have hcall := enter_of_framed unlimited (m := {}) hparams (Nat.zero_le _) hvariables ht
  unfold Program.call
  dsimp only
  rw [hcall]

end Scripting.Script
