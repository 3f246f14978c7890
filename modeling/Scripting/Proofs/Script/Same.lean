import Scripting.Script.Machine

/-!
# Evaluations that do the same as long as a name is free

* `Free`   no import in scope is called `short`;
* `Same`   two evaluations do the same in every machine where that is so, and leave it so.

`Same.bind` and its like take evaluations apart; `same_tick` and its like say that no step of a
machine but an import brings a name about.
-/

namespace Scripting.Script.Eval

open Library (Space)

/-- no import in scope is called `short` -/
def Free (short : String) (m : Machine) : Prop := ∀ i ∈ m.imports, i.1 ≠ short

theorem Free.of_imports {short : String} {m t : Machine} (h : Free short m)
    (ht : t.imports = m.imports) : Free short t := by
  unfold Free
  rw [ht]
  exact h

theorem imported?_of_free {short : String} {m : Machine} (h : Free short m) :
    imported? short m.imports = none := by
  have hn : m.imports.filter (fun i => i.1 == short) = [] := by
    rw [List.filter_eq_nil_iff]
    intro i hi he
    exact h i hi (beq_iff_eq.mp he)
  rw [imported?, hn]
  rfl

/-- the two do the same where no import is called `short`, and afterwards none is -/
def Same (short : String) {α : Type} (e e' : Eval α) : Prop :=
  ∀ m, Free short m → e m = e' m ∧ Free short (e m).2

section
variable {short : String} {α β : Type}

/-! ## combinations -/

/-- an evaluation that leaves the imports alone does the same as itself -/
theorem Same.of_imports {e : Eval α} (h : ∀ m, (e m).2.imports = m.imports) : Same short e e :=
  fun m hm => ⟨rfl, hm.of_imports (h m)⟩

theorem Same.pure (a : α) : Same short (pure a : Eval α) (pure a) :=
  .of_imports fun _ => rfl

theorem Same.throw (s : Signal) : Same short (throw s : Eval α) (throw s) :=
  .of_imports fun _ => rfl

theorem Same.raise (cause : Cause) (pos : Option Pos) :
    Same short (raise cause pos : Eval α) (raise cause pos) :=
  .of_imports fun _ => rfl

theorem bind_apply (e : Eval α) (f : α → Eval β) (m : Machine) :
    (e >>= f) m = match e m with
      | (.ok a, t) => f a t
      | (.error s, t) => (.error s, t) := by
  simp only [Bind.bind, ExceptT.bind, ExceptT.mk, ExceptT.bindCont, StateT.bind]
  cases e m with
  | mk r t => cases r <;> rfl

theorem Same.bind {e e' : Eval α} {f f' : α → Eval β} (he : Same short e e')
    (hf : ∀ a, Same short (f a) (f' a)) : Same short (e >>= f) (e' >>= f') := by
  intro m hm
  obtain ⟨h, ht⟩ := he m hm
  rw [bind_apply, bind_apply, ← h]
  cases hr : e m with
  | mk r t =>
    rw [hr] at ht
    cases r with
    | ok a => exact hf a t ht
    | error s => exact ⟨rfl, ht⟩

/-- something that is done in one case alone, and what comes next in any case -/
theorem Same.when {c : Prop} [Decidable c] {x : Eval PUnit} {e e' : Eval α}
    (hx : Same short x x) (h : Same short e e') :
    Same short (if c then (do x; e) else e) (if c then (do x; e') else e') := by
  split
  · exact .bind hx fun _ => h
  · exact h

theorem tryCatch_apply (e : Eval α) (f : Signal → Eval α) (m : Machine) :
    (tryCatch e f) m = match e m with
      | (.ok a, t) => (.ok a, t)
      | (.error s, t) => f s t := by
  simp only [tryCatch, tryCatchThe, MonadExceptOf.tryCatch, ExceptT.tryCatch, ExceptT.mk,
    Bind.bind, StateT.bind]
  cases e m with
  | mk r t => cases r <;> rfl

theorem Same.tryCatch {e e' : Eval α} {f f' : Signal → Eval α} (he : Same short e e')
    (hf : ∀ s, Same short (f s) (f' s)) : Same short (tryCatch e f) (tryCatch e' f') := by
  intro m hm
  obtain ⟨h, ht⟩ := he m hm
  rw [tryCatch_apply, tryCatch_apply, ← h]
  cases hr : e m with
  | mk r t =>
    rw [hr] at ht
    cases r with
    | ok a => exact ⟨rfl, ht⟩
    | error s => exact hf s t ht

/-- what is read off a machine where no import is called `short` -/
theorem Same.get {f f' : Machine → Eval α}
    (hf : ∀ m, Free short m → Same short (f m) (f' m)) :
    Same short (get >>= f) (get >>= f') := by
  intro m hm
  rw [bind_apply, bind_apply]
  exact hf m hm m hm

theorem Same.set {t : Machine} (ht : Free short t) : Same short (set t : Eval PUnit) (set t) :=
  fun _ _ => ⟨rfl, ht⟩

theorem Same.modify {f : Machine → Machine} (h : ∀ m, (f m).imports = m.imports) :
    Same short (modify f : Eval PUnit) (modify f) :=
  .of_imports h

/-! ## scopes and loops -/

theorem Free.lastOf {m t : Machine} {n : Nat} (h : Free short t)
    (hm : m.imports = lastOf n t.imports) : Free short m := by
  intro i hi
  rw [hm] at hi
  exact h i (List.mem_of_mem_drop hi)

theorem Same.within {e e' : Eval α} (h : Same short e e') :
    Same short (within e) (within e') := by
  intro m hm
  obtain ⟨he, ht⟩ := h { m with inBlock := 0 } hm
  unfold Eval.within
  rw [← he]
  exact ⟨rfl, ht.lastOf rfl⟩

theorem Same.framed {e e' : Eval α} (scope : List Variable) (h : Same short e e') :
    Same short (framed scope e) (framed scope e') := by
  intro m hm
  obtain ⟨he, ht⟩ := h { m with scope, inBlock := 0, level := m.level + 1 } hm
  unfold Eval.framed
  rw [← he]
  exact ⟨rfl, ht.lastOf rfl⟩

theorem Same.iterate {σ : Type} {round round' : σ → Eval (Value ⊕ σ)}
    (h : ∀ s, Same short (round s) (round' s)) (n : Nat) (s : σ) :
    Same short (iterate n s round) (iterate n s round') := by
  induction n generalizing s with
  | zero => exact .raise _ _
  | succ n ih =>
    refine .bind (h s) fun r => ?_
    cases r with
    | inl v => exact .pure v
    | inr s => exact ih s

theorem Same.round {body body' : Eval Value} (h : Same short body body') :
    Same short (round body) (round body') := by
  refine .tryCatch (.bind h fun _ => .pure none) fun s => ?_
  cases s with
  | stop v => exact .pure _
  | next => exact .pure _
  | _ => exact .throw _

/-! ## what a machine does by itself -/

variable (p : Program)

theorem same_lift (r : Except Cause α) (pos : Option Pos) :
    Same short (lift r pos) (lift r pos) := by
  cases r with
  | ok a => exact .pure a
  | error cause => exact .raise cause pos

theorem same_log (e : Event) : Same short (log e) (log e) := .modify fun _ => rfl

theorem same_tick (n : Nat) : Same short (tick p n) (tick p n) := by
  refine .get fun m hm => .bind (.set (hm.of_imports rfl)) fun _ => ?_
  dsimp only
  split
  · exact .raise _ _
  · exact .pure _

theorem same_checkSize (size : Value.Size) : Same short (checkSize p size) (checkSize p size) := by
  unfold checkSize
  split
  · exact .raise _ _
  · exact .pure _

theorem same_bounded (v : Value) : Same short (bounded p v) (bounded p v) := by
  unfold bounded
  split
  · exact .raise _ _
  · exact .pure _

theorem same_held (id : Ident) : Same short (held p id) (held p id) := by
  refine .get fun m _ => ?_
  split
  · exact .pure _
  · split
    · exact .pure _
    · exact .raise _ _

theorem same_read (id : Ident) : Same short (read p id) (read p id) :=
  .bind (same_held p id) fun _ => .pure _

theorem same_write (name : String) (v : Value) : Same short (write name v) (write name v) := by
  refine .modify fun m => ?_
  split <;> rfl

theorem same_allocate (h : Held) : Same short (allocate h) (allocate h) :=
  .get fun _ hm => .bind (.set (hm.of_imports rfl)) fun _ => .pure _

theorem same_share (id : Ident) : Same short (share id) (share id) := by
  refine .get fun m _ => ?_
  split
  · exact .pure _
  · exact .bind (same_allocate _) fun _ => .bind (.modify fun _ => rfl) fun _ => .pure _
  · exact .raise _ _

theorem same_isDeclared (name : String) : Same short (isDeclared name) (isDeclared name) :=
  .get fun _ _ => .pure _

theorem same_checkRoom (more : Nat) : Same short (checkRoom p more) (checkRoom p more) := by
  refine .get fun m _ => ?_
  split
  · exact .raise _ _
  · exact .pure _

theorem same_bind (name : String) (h : Held) : Same short (bind name h) (bind name h) :=
  .modify fun _ => rfl

theorem same_declare (name : String) (h : Held) :
    Same short (declare name h) (declare name h) := by
  refine .bind (same_isDeclared name) fun b => ?_
  split
  · exact .modify fun _ => rfl
  · exact same_bind name h

theorem same_space? (path : List Ident) : Same short (space? p path) (space? p path) := by
  cases path with
  | nil => exact .pure _
  | cons root rest =>
    refine .get fun m _ => ?_
    split
    · exact .pure _
    · split
      · exact .pure _
      · exact .raise _ _

/-- a path whose root is free is looked up among the namespaces that are there from the start -/
theorem space?_of_free {root : Ident} {m : Machine} (hm : Free root.name m) (rest : List Ident) :
    space? p (root :: rest) m =
      if (Assoc.get? root.name p.tree).isSome then
        (.ok (p.tree.space? ((root :: rest).map (·.name))), m)
      else (.error (.fault (.raised (.noModule (pathText (root :: rest))) (some root.pos))), m) := by
  unfold space?
  dsimp only
  rw [bind_apply, show (get : Eval Machine) m = (.ok m, m) from rfl]
  dsimp only
  rw [imported?_of_free hm]
  dsimp only
  split
  · rfl
  · rfl

theorem same_logs (es : List Event) :
    let all : Eval PUnit := forIn es .unit fun e _ => do log e; pure (.yield .unit)
    Same short all all := by
  induction es with
  | nil => exact .pure _
  | cons e es ih =>
    dsimp only
    rw [List.forIn_cons]
    refine .bind (.bind (same_log e) fun _ => .pure _) fun r => ?_
    cases r with
    | done _ => exact .pure _
    | yield _ => exact ih

end

end Scripting.Script.Eval
