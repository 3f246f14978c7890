import Mathlib.Data.List.Induction
import Scripting.Proofs.Host.Running
import Scripting.Proofs.Host.Twin

/-!
# Who hears of a failed compile

A handler is the number that its `subscribe` answered.  Whether it still listens is read off the
commands alone: they subscribed it, and have not taken it back since.

* `listens`, `listening`     the handlers that listen behind commands, in the order they subscribed;
* `subscriptions_run`        they are those that a host holds;
* `step_notices`             only a compile that failed notifies, and then each of them once;
* `received`, `askedFrom`    what a handler hears of a run, and the compiles that a run asks for;
* `received_run`             it hears of those that failed while it listened;
* `received_unsubscribe`     and hears the same when another handler is not taken back;
* `notified_run`             all of it, for every run of every new host.
-/

namespace Scripting

namespace Command

def isSubscribe : Command → Bool
  | .subscribe => true
  | _ => false

/-- whether a command takes the handler `k` back -/
def removes (k : Nat) : Command → Bool
  | .unsubscribe j => k == j
  | _ => false

/-- what a command makes of the subscriptions -/
def resubscribe (s : Subscriptions) : Command → Subscriptions
  | .subscribe => s.subscribe.1
  | .unsubscribe k => (s.unsubscribe k).1
  | _ => s

end Command

/-- the handler that an answer names -/
def Reply.handler? : Reply → Option Nat
  | .handler k => some k
  | _ => none

/-! ## handlers and commands -/

/-- how many handlers commands subscribed -/
def subscribed (cs : List Command) : Nat := cs.countP Command.isSubscribe

/-- the commands behind the `subscribe` that the handler `k` comes from -/
def behind? : Nat → List Command → Option (List Command)
  | _, [] => none
  | k, c :: cs =>
    match c.isSubscribe, k with
    | false, k => behind? k cs
    | true, 0 => some cs
    | true, k + 1 => behind? k cs

/-- whether commands subscribed the handler `k` and have not taken it back since -/
def listens (k : Nat) (cs : List Command) : Bool :=
  (behind? k cs).any fun later => later.all fun c => !c.removes k

/-- the handlers that listen, in the order they subscribed -/
def listening (cs : List Command) : List Nat :=
  (List.range (subscribed cs)).filter fun k => listens k cs

theorem subscribed_concat (cs : List Command) (c : Command) :
    subscribed (cs ++ [c]) = subscribed cs + if c.isSubscribe then 1 else 0 := by
  rw [subscribed, List.countP_append, List.countP_singleton]
  rfl

theorem subscribed_cons_subscribe (cs : List Command) :
    subscribed (.subscribe :: cs) = subscribed cs + 1 := List.countP_cons_of_pos rfl

theorem subscribed_cons_of_not {c : Command} (h : c.isSubscribe = false) (cs : List Command) :
    subscribed (c :: cs) = subscribed cs := List.countP_cons_of_neg (by simp [h])

theorem eq_subscribe {c : Command} (h : c.isSubscribe = true) : c = .subscribe := by
  cases c <;> first | rfl | cases h

theorem removes_iff {k : Nat} {c : Command} : c.removes k = true ↔ c = .unsubscribe k := by
  cases c with
  | unsubscribe j =>
    rw [Command.removes, beq_iff_eq, Command.unsubscribe.injEq]
    exact eq_comm
  | _ => exact iff_of_false Bool.false_ne_true Command.noConfusion

theorem behind?_cons_subscribe (k : Nat) (cs : List Command) :
    behind? (k + 1) (.subscribe :: cs) = behind? k cs := rfl

theorem behind?_cons_of_not {c : Command} (h : c.isSubscribe = false) (k : Nat)
    (cs : List Command) : behind? k (c :: cs) = behind? k cs := by
  simp only [behind?, h]

/-- the handler `k` is the one that was subscribed when there were `k` before -/
theorem behind?_eq_some_iff {k : Nat} {cs later : List Command} :
    behind? k cs = some later ↔
      ∃ before, cs = before ++ .subscribe :: later ∧ subscribed before = k := by
  -- every `subscribe` on the way counts `k` down, so `k` is general
  induction cs generalizing k with
  | nil => simp [behind?]
  | cons c cs ih =>
    cases h : c.isSubscribe with
    | false =>
      rw [behind?_cons_of_not h, ih]
      constructor
      · rintro ⟨before, rfl, hk⟩
        exact ⟨c :: before, rfl, (subscribed_cons_of_not h before).trans hk⟩
      · rintro ⟨before, he, hk⟩
        cases before with
        | nil => cases he; cases h
        | cons d before =>
          cases he
          exact ⟨before, rfl, (subscribed_cons_of_not h before).symm.trans hk⟩
    | true =>
      obtain rfl := eq_subscribe h
      cases k with
      | zero =>
        constructor
        · intro he
          cases he
          exact ⟨[], rfl, rfl⟩
        · rintro ⟨before, he, hk⟩
          cases before with
          | nil => cases he; rfl
          | cons d before =>
            cases he
            rw [subscribed_cons_subscribe] at hk
            exact absurd hk (Nat.succ_ne_zero _)
      | succ k =>
        rw [behind?_cons_subscribe, ih]
        constructor
        · rintro ⟨before, rfl, hk⟩
          exact ⟨.subscribe :: before, rfl, (subscribed_cons_subscribe before).trans (hk ▸ rfl)⟩
        · rintro ⟨before, he, hk⟩
          cases before with
          | nil => cases he; cases hk
          | cons d before =>
            cases he
            rw [subscribed_cons_subscribe] at hk
            exact ⟨before, rfl, Nat.succ.inj hk⟩

theorem listens_iff {k : Nat} {cs : List Command} :
    listens k cs = true ↔ ∃ before later, cs = before ++ .subscribe :: later ∧
      subscribed before = k ∧ .unsubscribe k ∉ later := by
  have kept (later : List Command) :
      (later.all fun c => !c.removes k) = true ↔ Command.unsubscribe k ∉ later := by
    rw [List.all_eq_true]
    constructor
    · intro h hm
      have := h _ hm
      rw [removes_iff.mpr rfl] at this
      cases this
    · intro h c hc
      cases hr : c.removes k with
      | false => rfl
      | true => exact absurd (removes_iff.mp hr ▸ hc) h
  rw [listens, Option.any_eq_true]
  constructor
  · rintro ⟨later, hb, hl⟩
    obtain ⟨before, he, hk⟩ := behind?_eq_some_iff.mp hb
    exact ⟨before, later, he, hk, (kept later).mp hl⟩
  · rintro ⟨before, later, he, hk, hl⟩
    exact ⟨later, behind?_eq_some_iff.mpr ⟨before, he, hk⟩, (kept later).mpr hl⟩

theorem lt_of_listens {k : Nat} {cs : List Command} (h : listens k cs = true) :
    k < subscribed cs := by
  obtain ⟨before, later, rfl, rfl, _⟩ := listens_iff.mp h
  have : subscribed (before ++ .subscribe :: later) =
      subscribed before + subscribed (.subscribe :: later) := List.countP_append
  rw [this, subscribed_cons_subscribe]
  omega

/-- **One more command.**  It is the handler's own `subscribe`, or the handler listened before and
is not taken back. -/
theorem listens_concat (k : Nat) (cs : List Command) (c : Command) :
    listens k (cs ++ [c]) =
      ((c.isSubscribe && k == subscribed cs) || (listens k cs && !c.removes k)) := by
  rw [Bool.eq_iff_iff, Bool.or_eq_true, Bool.and_eq_true, Bool.and_eq_true, beq_iff_eq, listens_iff,
    Bool.not_eq_true', ← Bool.not_eq_true, removes_iff, listens_iff]
  constructor
  · rintro ⟨before, later, he, hk, hl⟩
    -- `c` is the `subscribe` itself, or the last command behind it
    rcases List.eq_nil_or_concat later with rfl | ⟨later, d, rfl⟩
    · obtain ⟨rfl, hc⟩ := List.append_inj' he rfl
      cases hc
      exact .inl ⟨rfl, hk.symm⟩
    · rw [List.concat_eq_append, ← List.cons_append, ← List.append_assoc] at he
      obtain ⟨rfl, hc⟩ := List.append_inj' he rfl
      cases hc
      rw [List.concat_eq_append, List.mem_append, List.mem_singleton, not_or] at hl
      exact .inr ⟨⟨before, later, rfl, hk, hl.1⟩, fun h => hl.2 h.symm⟩
  · rintro (⟨hc, rfl⟩ | ⟨⟨before, later, rfl, hk, hl⟩, hc⟩)
    · obtain rfl := eq_subscribe hc
      exact ⟨cs, [], rfl, rfl, List.not_mem_nil⟩
    · refine ⟨before, later ++ [c], List.append_assoc .., hk, ?_⟩
      rw [List.mem_append, List.mem_singleton, not_or]
      exact ⟨hl, fun h => hc h.symm⟩

theorem mem_listening {k : Nat} {cs : List Command} : k ∈ listening cs ↔ listens k cs = true := by
  rw [listening, List.mem_filter, List.mem_range]
  exact ⟨fun h => h.2, fun h => ⟨lt_of_listens h, h⟩⟩

/-- what one more command does to the handlers that listen is what it does to subscriptions -/
theorem resubscribe_listening (cs : List Command) (c : Command) :
    c.resubscribe ⟨subscribed cs, listening cs⟩ =
      ⟨subscribed (cs ++ [c]), listening (cs ++ [c])⟩ := by
  have same (h : c.isSubscribe = false) : listening (cs ++ [c]) =
      (List.range (subscribed cs)).filter fun k => listens k cs && !c.removes k := by
    rw [listening, subscribed_concat, h]
    exact List.filter_congr fun k _ => by rw [listens_concat, h, Bool.false_and, Bool.false_or]
  cases c with
  | subscribe =>
    -- the next number is new and greater than all others, so it comes last
    have hn : listens (subscribed cs) (cs ++ [.subscribe]) = true := by
      rw [listens_concat, beq_self_eq_true]
      rfl
    have hl : (List.range (subscribed cs)).filter (fun k => listens k (cs ++ [.subscribe])) =
        listening cs := by
      refine List.filter_congr fun k hk => ?_
      have hk : (k == subscribed cs) = false :=
        beq_false_of_ne (Nat.ne_of_lt (List.mem_range.mp hk))
      rw [listens_concat, hk, Bool.and_false, Bool.false_or]
      exact Bool.and_true _
    have hs : [subscribed cs].filter (fun k => listens k (cs ++ [.subscribe])) = [subscribed cs] :=
      List.filter_cons_of_pos hn
    have : listening (cs ++ [.subscribe]) = listening cs ++ [subscribed cs] := by
      rw [listening, subscribed_concat]
      show (List.range (subscribed cs + 1)).filter _ = _
      rw [List.range_succ, List.filter_append, hl, hs]
    rw [this, subscribed_concat]
    rfl
  | unsubscribe j =>
    rw [same rfl, subscribed_concat]
    show Subscriptions.mk _ ((listening cs).filter (· != j)) = _
    rw [listening, List.filter_filter]
    congr 1
    exact List.filter_congr fun k _ => Bool.and_comm ..
  | _ =>
    rw [same rfl, subscribed_concat]
    simp [Command.resubscribe, Command.removes, Command.isSubscribe, listening]

/-! ## hosts -/

namespace Attempt

/-- the first diagnostic of a compile that failed -/
def first? (a : Attempt) : Option Diagnostic :=
  match a.answer with
  | .ok ⟨d :: _, _⟩ => some d
  | _ => none

theorem first?_eq_some_iff {a : Attempt} {d : Diagnostic} :
    a.first? = some d ↔ ∃ r u?, a.answer = .ok ⟨d :: r, u?⟩ := by
  unfold first?
  match a.answer with
  | .error f => simp
  | .ok ⟨[], u?⟩ => simp
  | .ok ⟨e :: r, u?⟩ => simp

end Attempt

/-- what a handler hears from the answers of a run -/
def received (k : Nat) (answers : List (Reply × Trace)) : List Diagnostic :=
  (answers.flatMap fun a => a.2.notices).filterMap fun n => if n.1 = k then some n.2 else none

/-- a handler among pairwise different ones is found once -/
theorem filterMap_notices {live : List Nat} (hl : live.Nodup) (k : Nat) (d : Diagnostic) :
    (live.map fun j => (j, d)).filterMap (fun n => if n.1 = k then some n.2 else none) =
      if k ∈ live then [d] else [] := by
  induction live with
  | nil => rfl
  | cons j live ih =>
    obtain ⟨hj, hl⟩ := List.nodup_cons.mp hl
    rw [List.map_cons, List.filterMap_cons, ih hl]
    by_cases hk : j = k
    · subst hk
      simp [hj]
    · have : ¬ k = j := fun h => hk h.symm
      simp [hk, this]

/-- the commands before each compile of a run that starts behind `before` -/
def askedFrom (before : List Command) : List Command → List (List Command)
  | [] => []
  | c :: cs => (if c.isCompile then [before] else []) ++ askedFrom (before ++ [c]) cs

theorem askedFrom_append (before a b : List Command) :
    askedFrom before (a ++ b) = askedFrom before a ++ askedFrom (before ++ a) b := by
  induction a generalizing before with
  | nil => rw [List.append_nil]; rfl
  | cons c a ih =>
    rw [List.cons_append, askedFrom, ih, askedFrom, List.append_assoc, List.append_assoc]
    rfl

theorem askedFrom_eq_map (before cs : List Command) :
    askedFrom before cs = (askedFrom [] cs).map (before ++ ·) := by
  induction cs generalizing before with
  | nil => rfl
  | cons c cs ih =>
    rw [askedFrom, askedFrom, ih (before ++ [c]), ih ([] ++ [c]), List.map_append, List.map_map]
    congr 1
    · split
      · exact congrArg (fun l => [l]) (List.append_nil before).symm
      · rfl
    · exact List.map_congr_left fun l _ => List.append_assoc ..

namespace Host

theorem step_subscriptions (h : Host) (c : Command) :
    (h.step c).1.subscriptions = c.resubscribe h.subscriptions := by
  cases c with
  | compile => exact compile_subscriptions h
  | _ => rfl

theorem step_handler? (h : Host) (c : Command) : (h.step c).2.1.handler? =
    if c.isSubscribe then some h.subscriptions.next else none := by
  have value {α : Type} (f : α → Reply) (hf : ∀ a, (f a).handler? = none)
      (result : Except HostFault α) : (Reply.ofResult f result).handler? = none := by
    cases result with
    | error fault => rfl
    | ok a => exact hf a
  cases c with
  | compile => exact value .flag (fun _ => rfl) _
  | call owner method args => exact value .value (fun _ => rfl) _
  | invoke owner method => exact value (fun _ => .done) (fun _ => rfl) _
  | _ => rfl

/-- only a compile that failed notifies anybody: every handler, once, with the first diagnostic -/
theorem step_notices (h : Host) (c : Command) : (h.step c).2.2.notices =
    match c.isCompile, h.attempt.first? with
    | true, some d => h.subscriptions.live.map fun k => (k, d)
    | _, _ => [] := by
  cases c with
  | compile =>
    unfold step compile Attempt.first? attempt Environment.attempt
    dsimp only
    generalize (h.environment.language.compile h.compiles (h.environment.request h.space)) = c
    obtain ⟨answer, events⟩ := c
    match answer with
    | .error f => rfl
    | .ok ⟨[], none⟩ => rfl
    | .ok ⟨[], some u⟩ => rfl
    | .ok ⟨d :: r, u?⟩ => rfl
  | call owner method args =>
    simp only [step, call]
    split
    · exact (quiet_invokeWith ..).notices
    · rfl
  | invoke owner method =>
    simp only [step, invoke]
    split
    · exact (quiet_invokeEntry ..).notices
    · rfl
  | _ => rfl

section
variable (l : Language) (id space : String)

/-- **The handlers that a host holds are those that listen.** -/
theorem subscriptions_run (cs : List Command) :
    ((create l id space).1.run cs).1.subscriptions = ⟨subscribed cs, listening cs⟩ := by
  induction cs using List.reverseRecOn with
  | nil => rfl
  | append_singleton cs c ih =>
    rw [run_concat, step_subscriptions, ih, resubscribe_listening]

theorem handlers_run (cs : List Command) :
    ((create l id space).1.run cs).2.filterMap (fun a => a.1.handler?) =
      List.range (subscribed cs) := by
  induction cs using List.reverseRecOn with
  | nil => rfl
  | append_singleton cs c ih =>
    rw [run_append, List.filterMap_append, ih, subscribed_concat]
    have hc := step_handler? ((create l id space).1.run cs).1 c
    rw [subscriptions_run] at hc
    show _ ++ [((Host.run _ cs).1.step c).2].filterMap _ = _
    rw [List.filterMap_cons, hc, List.filterMap_nil]
    cases c.isSubscribe with
    | false => exact List.append_nil _
    | true => exact List.range_succ.symm

/-- **What a handler hears of a run** is the first diagnostic of every compile that failed while it
listened, in the order of the compiles. -/
theorem received_run (k : Nat) (cs : List Command) :
    received k ((create l id space).1.run cs).2 =
      (askedFrom [] cs).filterMap fun before =>
        if listens k before then ((create l id space).1.run before).1.attempt.first? else none := by
  induction cs using List.reverseRecOn with
  | nil => rfl
  | append_singleton cs c ih =>
    have hn := step_notices ((create l id space).1.run cs).1 c
    rw [askedFrom_append, List.filterMap_append, ← ih, run_append, received, List.flatMap_append,
      List.filterMap_append]
    refine congrArg (received k _ ++ ·) ?_
    -- what the last command adds: it notifies only if it is a compile
    show (((Host.run _ cs).1.step c).2.2.notices ++ []).filterMap _ = _
    rw [List.append_nil, hn, subscriptions_run, askedFrom, List.nil_append, askedFrom,
      List.append_nil]
    cases hc : c.isCompile with
    | false => rfl
    | true =>
      cases hd : ((create l id space).1.run cs).1.attempt.first? with
      | none => simp [hd]
      | some d =>
        have nodup : (listening cs).Nodup := List.nodup_range.filter _
        dsimp only
        rw [filterMap_notices nodup, if_pos rfl]
        by_cases hk : listens k cs = true
        · simp [mem_listening, hk, hd]
        · simp [mem_listening, hk]

/-! ### one handler less -/

variable {j k : Nat}

theorem subscribed_without (a b : List Command) :
    subscribed (a ++ [.unsubscribe k] ++ b) = subscribed (a ++ b) := by
  rw [subscribed, subscribed, List.countP_append, List.countP_append, List.countP_append]
  rfl

theorem listens_without (h : j ≠ k) (a b : List Command) :
    listens j (a ++ [.unsubscribe k] ++ b) = listens j (a ++ b) := by
  induction b using List.reverseRecOn with
  | nil =>
    have hr : Command.removes j (.unsubscribe k) = false := beq_false_of_ne h
    rw [List.append_nil, List.append_nil, listens_concat, hr]
    exact Bool.and_true _
  | append_singleton b c ih =>
    rw [← List.append_assoc, ← List.append_assoc, listens_concat, listens_concat, ih,
      subscribed_without]

theorem attempt_without (a b : List Command) :
    ((create l id space).1.run (a ++ [.unsubscribe k] ++ b)).1.attempt =
      ((create l id space).1.run (a ++ b)).1.attempt := by
  -- an attempt reads the environment and the number of compiles, and `unsubscribe` touches neither
  have he : (create l id space).1.environment.after (a ++ [.unsubscribe k] ++ b) =
      (create l id space).1.environment.after (a ++ b) := by
    simp only [Environment.after, List.foldl_append]
    rfl
  have hn : (a ++ [Command.unsubscribe k] ++ b).countP Command.isCompile =
      (a ++ b).countP Command.isCompile := by
    rw [List.countP_append, List.countP_append, List.countP_append]
    rfl
  rw [attempt_run, attempt_run, he, hn]

theorem received_unsubscribe (h : j ≠ k) (a b : List Command) :
    received j ((create l id space).1.run (a ++ .unsubscribe k :: b)).2 =
      received j ((create l id space).1.run (a ++ b)).2 := by
  have asked : askedFrom [] (a ++ Command.unsubscribe k :: b) =
      askedFrom [] a ++ (askedFrom [] b).map (a ++ [.unsubscribe k] ++ ·) := by
    rw [askedFrom_append, ← askedFrom_eq_map]
    rfl
  rw [received_run, received_run, asked, askedFrom_append, List.nil_append, askedFrom_eq_map a,
    List.filterMap_append, List.filterMap_append, List.filterMap_map, List.filterMap_map]
  refine congrArg (_ ++ List.filterMap · (askedFrom [] b)) (funext fun c => ?_)
  rw [Function.comp_apply, Function.comp_apply, listens_without h, attempt_without]

end

/-- **Who is notified of what, in every run `cs`.**  The handlers that the run answers are numbered
in order, so no two are the same.  One is taken back exactly if the run subscribed it and had not
taken it back yet.  A compile that answers `false` tells its first diagnostic to every handler that
listens, once and in the order they subscribed; any other compile and any other command tell
nobody.  Over the run a handler hears exactly the first diagnostics of the compiles that failed
while it listened, and the same ones if another handler is not taken back. -/
theorem notified_run (l : Language) (id space : String) (cs : List Command) :
    let start := (create l id space).1
    let answers := (start.run cs).2
    answers.filterMap (fun a => a.1.handler?) = List.range (subscribed cs) ∧
      (∀ before k later, cs = before ++ .unsubscribe k :: later →
        ∃ b trace, answers[before.length]? = some (.flag b, trace) ∧
          (b = true ↔ ∃ first since, before = first ++ .subscribe :: since ∧
            subscribed first = k ∧ Command.unsubscribe k ∉ since)) ∧
      (∀ before later, cs = before ++ .compile :: later →
        let attempt := (start.run before).1.attempt
        ∃ reply trace, answers[before.length]? = some (reply, trace) ∧
          (reply ≠ .flag false → attempt.first? = none ∧ trace.notices = []) ∧
          (reply = .flag false → ∃ d r u?, attempt.answer = .ok ⟨d :: r, u?⟩ ∧
            attempt.first? = some d ∧ trace.notices = (listening before).map fun k => (k, d))) ∧
      (∀ before c later, cs = before ++ c :: later → c.isCompile = false →
        ∃ reply trace, answers[before.length]? = some (reply, trace) ∧ trace.notices = []) ∧
      (∀ k, received k answers = (askedFrom [] cs).filterMap fun before =>
        if listens k before then (start.run before).1.attempt.first? else none) ∧
      (∀ before j later k, cs = before ++ .unsubscribe j :: later → k ≠ j →
        received k answers = received k (start.run (before ++ later)).2) := by
  intro start answers
  refine ⟨handlers_run l id space cs, ?_, ?_, ?_, fun k => received_run l id space k cs, ?_⟩
  · rintro before k later rfl
    refine ⟨_, _, run_get start before (.unsubscribe k) later, ?_⟩
    rw [← listens_iff, ← mem_listening, subscriptions_run]
    exact List.contains_iff_mem
  · rintro before later rfl attempt
    refine ⟨_, _, run_get start before .compile later, ?_⟩
    have hn := step_notices (start.run before).1 .compile
    have hr := (step_compile_reply (start.run before).1).2.1
    rw [subscriptions_run] at hn
    constructor
    · intro hne
      have hf : attempt.first? = none := by
        cases hf : attempt.first? with
        | none => rfl
        | some d =>
          obtain ⟨r, u?, ha⟩ := Attempt.first?_eq_some_iff.mp hf
          exact absurd (hr.mpr ⟨d, r, u?, ha⟩) hne
      rw [hf] at hn
      exact ⟨hf, hn⟩
    · intro he
      obtain ⟨d, r, u?, ha⟩ := hr.mp he
      have hf : attempt.first? = some d := Attempt.first?_eq_some_iff.mpr ⟨r, u?, ha⟩
      rw [hf] at hn
      exact ⟨d, r, u?, ha, hf, hn⟩
  · rintro before c later rfl hc
    refine ⟨_, _, run_get start before c later, ?_⟩
    rw [step_notices, hc]
  · rintro before j later k rfl hk
    exact received_unsubscribe l id space hk before later

end Host

end Scripting
