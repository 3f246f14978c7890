import Scripting.Proofs.Script.Alike

/-!
# Reading the same tokens again

One goal is read alike by two ways of reading the goals inside it that do (`sim_step`); so the
reader does alike at every depth, and deeper if it may go deeper (`sim_solve`).  What can be read
can therefore be read again from the same tokens at other places, with more imports and with more
namespaces.
-/

namespace Scripting.Script.Parser

/-- two ways to read goals that do alike -/
def SameSolve (solve solve' : Solve) : Prop :=
  ∀ g g', SameGoal g g' → Sim Like (solve g) (solve' g')

theorem SameContext.at {c d : Context} (h : SameContext c d) (p q : Pos) :
    SameContext { c with pos := p } { d with pos := q } := by
  cases h
  exact .mk ..

theorem SameContext.inLoop {c d : Context} (h : SameContext c d) :
    SameContext { c with inLoop := true } { d with inLoop := true } := by
  cases h
  exact .mk ..

/-- the name of a variable that may be missing, but not where it stands -/
inductive SameOption : Option Ident → Option Ident → Prop
  | absent : SameOption none none
  | present {i j : Ident} (h : i.name = j.name) : SameOption (some i) (some j)

/-- what is read with a variable in scope that may be missing -/
theorem SameOption.sim_bind {i j : Option Ident} (h : SameOption i j) {α α' : Type}
    {A : α → α' → Prop} {p : P α} {q : P α'} (hpq : Sim A p q) :
    Sim A
      (do
        match i with
        | some id => bind id.name
        | none => pure ()
        p)
      (do
        match j with
        | some id => bind id.name
        | none => pure ()
        q) := by
  cases h with
  | absent => exact hpq
  | present h =>
    dsimp only
    rw [h]
    exact .bind (Parser.sim_bind _) fun _ _ _ => hpq

section
variable {solve solve' : Solve} (hs : SameSolve solve solve') {c d : Context}
  (hc : SameContext c d)

/-! ## blocks -/

theorem sim_terminate (closing : Bool) {a b : Expr} (h : Like a b) :
    Sim (SameRound Like) (terminate closing a) (terminate closing b) := by
  refine .bind sim_peek ?_
  rintro _ _ ⟨token, p, q, -⟩
  dsimp only
  rw [h.endsItself]
  split
  · split
    · exact .bind sim_next fun _ _ _ => .pure (.last h)
    · split
      · exact .pure (.item h)
      · exact .fail _ _ _
  · exact .bind sim_next fun _ _ _ => .pure (.item h)
  · split
    · exact .fail _ _ _
    · exact .pure (.item h)
  · split
    · exact .pure (.item h)
    · exact .failAt _ _ _

include hs hc

theorem sim_blockRound : Sim (SameRound Like) (blockRound solve c) (blockRound solve' d) := by
  refine .bind sim_peek ?_
  rintro _ _ ⟨token, p, q, -⟩
  dsimp only
  split
  · exact .bind sim_next fun _ _ _ => .pure .done
  · exact .fail _ _ _
  · have hinner : SameContext { c with outermost := false } { d with outermost := false } := by
      cases hc
      exact .mk ..
    refine .bind (hs _ _ (.statement hinner)) fun a b h => ?_
    rw [h.isSkip]
    split
    · exact .pure .pass
    · exact sim_terminate true h

theorem sim_block : Sim Like (block solve c) (block solve' d) :=
  .bind sim_peek fun _ _ _ => .bind (sim_expect ..) fun _ _ _ =>
    .bind (sim_nested (sim_rounds (sim_blockRound hs hc))) fun _ _ _ => .pure (.block ..)

end

/-! ## functions -/

theorem sim_parameterRound (sig : Signature) :
    Sim (SameRound Eq) (parameterRound sig) (parameterRound sig) := by
  refine .bind sim_next ?_
  rintro _ _ ⟨token, p, q, plain⟩
  dsimp only
  split
  · refine .get fun s s' hs => .ite (by rw [hs.frame.locals]) (.fail_bind _ _ _ _) ?_
    exact .bind (sim_bind _) fun _ _ _ => .bind sim_next fun t u h =>
      h.ite _ (.pure (.last rfl)) (h.ite _ (.pure (.item rfl)) (.failAt _ _ _))
  · exact .fail _ _ _
  · exact (SameToken.mk token p q plain).ite _ (.pure .done) (.failAt _ _ _)

theorem not_plain_anonymousName (p : Pos) : ¬ Plain (anonymousName p) := by
  unfold Plain anonymousName
  simp

/-- functions of one name and shape, which is a name of the script -/
structure SameNamed (f g : Function) : Prop where
  name : f.name = g.name
  plain : Plain f.name
  arity : f.params.length = g.params.length
  captured : f.captured = g.captured

theorem any_named {fs gs : List Function} (h : List.Forall₂ SameFunction fs gs) {f g : Function}
    (hfg : SameNamed f g) :
    (fs.any fun k => k.name == f.name && k.params.length == f.params.length) =
      gs.any fun k => k.name == g.name && k.params.length == g.params.length := by
  induction h with
  | nil => rfl
  | @cons k l ks ls hkl _ ih =>
    have hname : (k.name == f.name) = (l.name == g.name) := by
      rw [← hfg.name]
      exact hkl.beq hfg.plain
    rw [List.any_cons, List.any_cons, ih, hname, hkl.arity, hfg.arity]

theorem length_captured {fs gs : List Function} (h : List.Forall₂ SameFunction fs gs) :
    (fs.filter (·.captured.isNone)).length = (gs.filter (·.captured.isNone)).length := by
  induction h with
  | nil => rfl
  | cons h _ ih =>
    rw [List.filter_cons, List.filter_cons, h.captured]
    split
    · rw [List.length_cons, List.length_cons, ih]
    · exact ih

theorem Alike.concat {s s' : State} (h : Alike s s') {f g : Function} (hfg : SameFunction f g) :
    Alike { s with functions := s.functions ++ [f] } { s' with functions := s'.functions ++ [g] } :=
  { h with functions := List.rel_append h.functions (.cons hfg .nil) }

theorem sim_parameters (name : String) :
    Sim (List.Forall₂ Eq) (parameters name) (parameters name) := by
  refine .bind (sim_accept _) fun b _ hb => ?_
  cases hb
  refine .ite Iff.rfl (.pure .nil) (.bind (sim_accept _) fun b _ hb => ?_)
  cases hb
  refine .ite Iff.rfl (sim_rounds (sim_parameterRound _)) ?_
  exact .bind sim_peek fun _ _ _ => .fail _ _ _

/-- variables that a function takes along are used where it stands -/
theorem sim_takenAlong {as bs : List Ident} (h : List.Forall₂ SameIdent as bs) :
    let used (ids : List Ident) : P PUnit := forIn ids .unit fun id _ => do
      checkVariable id
      useVariable id
      pure (.yield .unit)
    Sim Any (used as) (used bs) := by
  induction h with
  | nil => exact .pure trivial
  | cons hab _ ih =>
    dsimp only at ih ⊢
    rw [List.forIn_cons, List.forIn_cons]
    have hone : Sim Eq
        (do checkVariable _; useVariable _; pure (ForInStep.yield PUnit.unit))
        (do checkVariable _; useVariable _; pure (ForInStep.yield PUnit.unit)) :=
      .bind (sim_checkVariable hab) fun _ _ _ => .bind (sim_useVariable hab) fun _ _ _ => .pure rfl
    refine .bind hone fun r _ hr => ?_
    cases hr
    cases r with
    | done _ => exact .pure trivial
    | yield _ => exact ih

section
variable {solve solve' : Solve} (hs : SameSolve solve solve')
include hs

theorem sim_functionParts {c d : Context} (hc : SameContext c d) :
    Sim SameNamed (functionParts solve c) (functionParts solve' d) := by
  refine .bind (sim_deeper hc) fun c d hc => .bind sim_next ?_
  rintro _ _ ⟨token, p, q, plain⟩
  dsimp only
  split
  · rename_i name
    refine .bind (A := fun a b => a = b ∧ Plain a) (.pure ⟨rfl, plain name rfl⟩) ?_
    rintro fn _ ⟨rfl, hplain⟩
    refine .bind (sim_parameters fn) fun params params' hparams =>
      .bind sim_peek fun t u ht => ?_
    refine .ite (by rw [ht.isMark]) (.fail_bind _ _ _ _) ?_
    exact .bind (sim_deeper hc) fun _ _ hc => .bind (hs _ _ (.block hc)) fun _ _ _ =>
      .pure ⟨rfl, hplain, hparams.length_eq, rfl⟩
  · exact .fail_bind _ _ _ _
  · exact .fail_bind _ _ _ _

theorem sim_function (isPrivate : Bool) (p q : Pos) :
    Sim Like (function solve isPrivate p) (function solve' isPrivate q) := by
  refine .get fun s s' h => .ite (by rw [h.settings, length_captured h.functions])
    (.fail_bind _ _ _ _) ?_
  rw [h.settings]
  refine .bind (sim_inFunction (sim_functionParts hs (.mk ..)) false) ?_
  rintro ⟨f, _⟩ ⟨g, _⟩ ⟨hfg, -⟩
  refine .get fun t t' ht => .ite (by rw [any_named ht.functions hfg]) (.fail_bind _ _ _ _) ?_
  exact .bind (.set (ht.concat ⟨.inl hfg.name, hfg.arity, hfg.captured⟩)) fun _ _ _ =>
    .pure (.skip ..)

/-- the parameters and the body of a function without a name -/
def SameParts (r r' : List String × Expr) : Prop := List.Forall₂ Eq r.1 r'.1 ∧ Like r.2 r'.2

theorem sim_closure (hasParams : Bool) (p q : Pos) :
    Sim Like (closure solve hasParams p) (closure solve' hasParams q) := by
  refine .get fun s s' h => ?_
  rw [h.settings]
  have parts {c d : Context} (hc : SameContext c d) : Sim SameParts
      (do
        let c ← deeper c
        let params ← if hasParams then rounds (parameterRound .anonymous) else pure []
        let body ← solve (.statement c)
        return (params, body))
      (do
        let d ← deeper d
        let params ← if hasParams then rounds (parameterRound .anonymous) else pure []
        let body ← solve' (.statement d)
        return (params, body)) := by
    refine .bind (sim_deeper hc) fun c d hc => ?_
    cases hasParams
    · exact .bind (.pure .nil) fun _ _ hp => .bind (hs _ _ (.statement hc)) fun _ _ hb =>
        .pure ⟨hp, hb⟩
    · exact .bind (sim_rounds (sim_parameterRound _)) fun _ _ hp =>
        .bind (hs _ _ (.statement hc)) fun _ _ hb => .pure ⟨hp, hb⟩
  refine .bind (sim_inFunction (parts (.mk ..)) true) ?_
  rintro ⟨⟨params, body⟩, outside⟩ ⟨⟨params', body'⟩, outside'⟩ ⟨⟨hparams, -⟩, houtside⟩
  refine .bind (sim_takenAlong houtside) fun _ _ _ => .bind (.modify fun t t' ht => ?_) fun _ _ _ =>
    .pure (.closure ..)
  refine ht.concat ⟨.inr ⟨not_plain_anonymousName p, not_plain_anonymousName q⟩, ?_, ?_⟩
  · simp [hparams.length_eq, houtside.length_eq]
  · rw [houtside.length_eq]

/-! ## literals with parts -/

theorem sim_itemRound {c d : Context} (hc : SameContext c d) (count : Nat) :
    Sim (SameRound Like) (itemRound solve c count) (itemRound solve' d count) := by
  refine .get fun s s' h => ?_
  rw [h.settings]
  refine .bind sim_peek ?_
  rintro _ _ ⟨token, p, q, -⟩
  refine .ite Iff.rfl (.fail_bind _ _ _ _) ?_
  dsimp only
  split
  · exact .bind sim_next fun _ _ _ => .pure .done
  · exact .fail _ _ _
  · refine .bind (sim_deeper hc) fun _ _ hc => .bind (hs _ _ (.expression hc)) fun _ _ he =>
      .bind sim_peek ?_
    rintro _ _ ⟨token, p, q, -⟩
    dsimp only
    split
    · exact .bind sim_next fun _ _ _ => .pure (.item he)
    · exact .pure (.item he)
    · exact .fail _ _ _
    · exact .failAt _ _ _

theorem sim_items {c d : Context} (hc : SameContext c d) (n count : Nat) :
    Sim (List.Forall₂ Like) (items solve c n count) (items solve' d n count) := by
  induction n generalizing count with
  | zero => exact .pure .nil
  | succ n ih =>
    refine .bind (sim_itemRound hs hc count) fun r r' hr => ?_
    cases hr with
    | item he => exact .bind (ih (count + 1)) fun _ _ hl => .pure (.cons he hl)
    | _ => exact .pure .nil

omit hs in
theorem sim_propertyName (seen : List String) :
    Sim SameOption (propertyName seen) (propertyName seen) := by
  refine .bind (sim_accept _) fun b _ hb => ?_
  cases hb
  refine .ite Iff.rfl (.pure .absent) (.bind sim_next ?_)
  rintro _ _ ⟨token, p, q, -⟩
  dsimp only
  split
  · exact .ite Iff.rfl (.fail_bind _ _ _ _) (.pure (.present rfl))
  · exact .ite Iff.rfl (.fail_bind _ _ _ _) (.pure (.present rfl))
  · exact .fail _ _ _
  · exact .fail _ _ _
  · exact .fail _ _ _
  · exact .failAt _ _ _

theorem sim_properties {c d : Context} (hc : SameContext c d) (n : Nat) (seen : List String) :
    Sim Any (properties solve c n seen) (properties solve' d n seen) := by
  induction n generalizing seen with
  | zero => exact .pure trivial
  | succ n ih =>
    refine .bind (sim_propertyName seen) fun id id' hid => ?_
    cases hid with
    | absent => exact .pure trivial
    | present hname =>
      dsimp only
      rw [hname]
      refine .bind (sim_expect ..) fun _ _ _ => .get fun s s' h => ?_
      rw [h.settings]
      refine .ite Iff.rfl (.bind sim_peek fun _ _ _ => .fail_bind _ _ _ _) ?_
      refine .bind (sim_deeper hc) fun _ _ hc => .bind (hs _ _ (.expression hc)) fun _ _ he =>
        .bind sim_peek ?_
      rintro _ _ ⟨token, p, q, -⟩
      dsimp only
      split
      · exact .bind sim_next fun _ _ _ => .bind (ih _) fun _ _ _ => .pure trivial
      · exact .bind (ih _) fun _ _ _ => .pure trivial
      · exact .fail _ _ _
      · exact .failAt _ _ _

theorem sim_joinedRound {c d : Context} (hc : SameContext c d) :
    Sim (SameRound Any) (joinedRound solve c) (joinedRound solve' d) := by
  refine .bind (hs _ _ (.block hc)) fun _ _ _ => .bind sim_next ?_
  rintro _ _ ⟨token, p, q, -⟩
  dsimp only
  split
  · exact .pure (.last trivial)
  · exact .pure (.item trivial)
  · exact .failAt _ _ _

/-! ## calls and steps -/

theorem sim_argumentRound {c d : Context} (hc : SameContext c d) (fn fn' : String) :
    Sim (SameRound Any) (argumentRound solve c fn) (argumentRound solve' d fn') := by
  refine .bind (sim_accept _) fun b _ hb => ?_
  cases hb
  refine .ite Iff.rfl (.pure .done) (.bind (hs _ _ (.expression hc)) fun _ _ _ =>
    .bind sim_next ?_)
  rintro _ _ ⟨token, p, q, -⟩
  dsimp only
  split
  · exact .pure (.last trivial)
  · exact .pure (.item trivial)
  · exact .fail _ _ _
  · exact .failAt _ _ _

theorem sim_arguments {c d : Context} (hc : SameContext c d) (fn fn' : String) :
    Sim Any (arguments solve c fn) (arguments solve' d fn') := by
  refine .bind sim_peek ?_
  rintro _ _ ⟨token, p, q, -⟩
  dsimp only
  split
  · exact .fail _ _ _
  · exact .fail _ _ _
  · exact .bind sim_next fun _ _ _ => .pure trivial
  · exact .bind (sim_deeper hc) fun _ _ hc =>
      (sim_rounds (sim_argumentRound hs hc fn fn')).mono fun _ _ _ => trivial

omit hs in
theorem Like.checkIndex {a b i j : Expr} (h : Like a b) (hi : Like i j) :
    Sim Any (checkIndex a i) (checkIndex b j) := by
  cases h
  case record | list | text | joined | int =>
    cases hi <;> first | exact .pure trivial | exact .fail _ _ _
  all_goals exact .pure trivial

/-- steps of one kind -/
def SameStep (s t : Step) : Prop := isMethod s = isMethod t

omit hs in
theorem Like.addStep {a b : Expr} (h : Like a b) {s t : Step} (hst : SameStep s t) :
    Like (addStep a s) (addStep b t) := by
  have one : [s].any isMethod = [t].any isMethod := by
    rw [List.any_cons, List.any_cons, show isMethod s = isMethod t from hst]
  have whole := h
  cases h with
  | access h hsteps =>
    refine .access h ?_
    rw [List.any_append, List.any_append, hsteps, one]
  | _ => exact .access whole one

theorem sim_dotStep {c d : Context} (hc : SameContext c d) :
    Sim SameStep (dotStep solve c) (dotStep solve' d) := by
  refine .bind sim_next ?_
  rintro _ _ ⟨token, p, q, -⟩
  have rest (a b : Ident) : Sim SameStep
      (do
        if ← accept "()" then return Step.method a []
        else if ← accept "(" then
          return .method a (← arguments solve (← deeper { c with pos := p }) a.name)
        else return .field a)
      (do
        if ← accept "()" then return Step.method b []
        else if ← accept "(" then
          return .method b (← arguments solve' (← deeper { d with pos := q }) b.name)
        else return .field b) := by
    refine .bind (sim_accept _) fun r _ hr => ?_
    cases hr
    have same {s t : Step} (h : isMethod s = isMethod t) : SameStep s t := h
    refine .ite Iff.rfl (.pure (same rfl)) (.bind (sim_accept _) fun r _ hr => ?_)
    cases hr
    refine .ite Iff.rfl ?_ (.pure (same rfl))
    exact .bind (sim_deeper (hc.at p q)) fun _ _ hc =>
      .bind (sim_arguments hs hc _ _) fun _ _ _ => .pure (same rfl)
  dsimp only
  split
  · exact .bind (.pure trivial) fun a b (_ : Any a b) => rest a b
  · exact .ite Iff.rfl (.bind (.pure trivial) fun a b (_ : Any a b) => rest a b) (.fail_bind _ _ _ _)
  · exact .fail_bind _ _ _ _

omit hs in
/-- what may be called is called alike -/
theorem Like.callee {a b : Expr} (h : Like a b) :
    (callee? a = none ∧ callee? b = none) ∨ ∃ r i s j, callee? a = some (r, i) ∧
      callee? b = some (s, j) ∧ SamePath r s ∧ i.name = j.name := by
  cases h with
  | name h =>
    cases h
    exact .inr ⟨[], _, [], _, rfl, rfl, rfl, rfl⟩
  | path hspace h => exact .inr ⟨_, _, _, _, rfl, rfl, hspace, h⟩
  | _ => exact .inl ⟨rfl, rfl⟩

omit hs in
theorem SamePath.concat {r s : List Ident} (h : SamePath r s) {i j : Ident}
    (hij : i.name = j.name) : SamePath (r ++ [i]) (s ++ [j]) := by
  unfold SamePath at h ⊢
  rw [List.map_append, List.map_append, h, List.map_singleton, List.map_singleton, hij]

/-! the ends of a trail, given a way to read on -/

/-- an index behind an expression -/
def indexed (solve : Solve) (more : Context → Expr → P Expr) (c : Context) (a : Expr) (p : Pos) :
    P Expr := do
  if !isIndexable a then return a
  let _ ← next
  let c ← deeper { c with pos := p }
  let i ← solve (.expression (← deeper c))
  checkIndex a i
  let u ← peek
  if !Located.isMark u "]" then
    failAt u (.missing "]" "for a matching [ in this index expression")
  let _ ← next
  more c (addStep a (.index i p))

/-- a property or a method of an expression -/
def stepped (solve : Solve) (more : Context → Expr → P Expr) (c : Context) (a : Expr) (p : Pos) :
    P Expr := do
  let _ ← next
  let c ← deeper { c with pos := p }
  let s ← dotStep solve c
  more c (addStep a s)

/-- an expression that ends here -/
def ended (a : Expr) : P Expr := do
  match a with
  | .path space _ => checkSpace space
  | _ => pure ()
  return a

section
variable {more more' : Context → Expr → P Expr}
  (hmore : ∀ c d a b, SameContext c d → Like a b → Sim Like (more c a) (more' d b))
include hmore

theorem sim_indexed {c d : Context} (hc : SameContext c d) {a b : Expr} (h : Like a b) (p q : Pos) :
    Sim Like (indexed solve more c a p) (indexed solve' more' d b q) := by
  refine .ite (by rw [h.isIndexable]) (.pure h) ?_
  refine .bind sim_next fun _ _ _ => .bind (sim_deeper (hc.at p q)) fun _ _ hc =>
    .bind (sim_deeper hc) fun _ _ hd => .bind (hs _ _ (.expression hd)) fun _ _ hi =>
    .bind (h.checkIndex hi) fun _ _ _ => .bind sim_peek fun _ _ hu => ?_
  refine .ite (by rw [hu.isMark]) (.failAt_bind _ _ _ _) ?_
  exact .bind sim_next fun _ _ _ => hmore _ _ _ _ hc (h.addStep rfl)

theorem sim_stepped {c d : Context} (hc : SameContext c d) {a b : Expr} (h : Like a b) (p q : Pos) :
    Sim Like (stepped solve more c a p) (stepped solve' more' d b q) :=
  .bind sim_next fun _ _ _ => .bind (sim_deeper (hc.at p q)) fun _ _ hc =>
    .bind (sim_dotStep hs hc) fun _ _ hs => hmore _ _ _ _ hc (h.addStep hs)

end

omit hs in
theorem sim_ended {a b : Expr} (h : Like a b) : Sim Like (ended a) (ended b) := by
  have whole := h
  cases h with
  | path hspace _ => exact .bind (sim_checkSpace hspace) fun _ _ _ => .pure whole
  | _ => exact .pure whole

theorem sim_trail (n : Nat) {c d : Context} (hc : SameContext c d) {a b : Expr} (h : Like a b) :
    Sim Like (trail solve n c a) (trail solve' n d b) := by
  induction n generalizing c d a b with
  | zero => exact .pure h
  | succ n ih =>
    refine .bind sim_peek ?_
    rintro _ _ ⟨token, p, q, -⟩
    have whole := h
    have index := sim_indexed hs (fun _ _ _ _ hc h => ih hc h) hc h p q
    have dot := sim_stepped hs (fun _ _ _ _ hc h => ih hc h) hc h p q
    -- only a name or a path can be called, and both expressions are one or neither is
    rcases h.callee with ⟨ha, hb⟩ | ⟨r, i, s, j, ha, hb, hspace, hname⟩
    · rw [ha, hb]
      dsimp only
      split
      · rename_i he
        cases he
      · rename_i he
        cases he
      · rename_i he
        cases he
      · exact index
      · cases h <;> first | exact dot | exact .pure whole
      · exact sim_ended h
    · rw [ha, hb]
      dsimp only
      split
      · rename_i he
        cases he
        exact .bind sim_next fun _ _ _ => .bind (sim_deeper (hc.at _ _)) fun _ _ hd =>
          .bind (sim_arguments hs hd _ _) fun _ _ _ => .bind (sim_checkSpace hspace) fun _ _ _ =>
          ih hc (.call ..)
      · rename_i he
        cases he
        exact .bind sim_next fun _ _ _ => .bind (sim_checkSpace hspace) fun _ _ _ =>
          ih hc (.call ..)
      · rename_i he
        cases he
        refine .bind sim_next fun _ _ _ => .bind sim_next ?_
        rintro _ _ ⟨token, p, q, -⟩
        dsimp only
        split
        · exact ih hc (.path (hspace.concat hname) rfl)
        · exact .fail _ _ _
        · exact .failAt _ _ _
      · exact index
      · cases h <;> first | exact dot | exact .pure whole
      · rename_i hindex hdot hcall hbare hpath
        -- the second match falls through as well
        refine Eq.mpr (congrArg (Sim Like _) ?_) (sim_ended h)
        split
        · exact (hcall _ _ rfl rfl).elim
        · exact (hbare _ _ rfl rfl).elim
        · exact (hpath _ _ rfl rfl).elim
        · exact (hindex rfl).elim
        · exact (hdot rfl).elim
        · rfl

/-! ## expressions -/

omit hs in
theorem sim_continuesName : Sim Eq continuesName continuesName := by
  refine .bind sim_peek ?_
  rintro _ _ ⟨token, p, q, -⟩
  dsimp only
  split <;> exact .pure rfl

theorem sim_parenthesis {c d : Context} (hc : SameContext c d) :
    Sim Like (parenthesis solve c) (parenthesis solve' d) := by
  refine .bind sim_next fun t u _ => .bind (sim_accept _) fun r _ hr => ?_
  cases hr
  refine .ite Iff.rfl (.pure (.unit ..)) ?_
  exact .bind (sim_deeper hc) fun _ _ hc => .bind (hs _ _ (.expression hc)) fun _ _ he =>
    .bind (sim_expect ..) fun _ _ _ => .pure he

theorem sim_whileLoop {c d : Context} (hc : SameContext c d) :
    Sim Like (whileLoop solve c) (whileLoop solve' d) := by
  have rest (p q : Pos) (test test' : Option Expr) : Sim Like
      (do
        let body ← solve (.block { (← deeper c) with inLoop := true })
        return .loop test body p)
      (do
        let body ← solve' (.block { (← deeper d) with inLoop := true })
        return .loop test' body q) :=
    .bind (sim_deeper hc) fun _ _ hc => .bind (hs _ _ (.block hc.inLoop)) fun _ _ _ =>
      .pure (.loop ..)
  refine .bind sim_next fun t u ht => ht.ite _ ?_ ?_
  · exact .bind sim_ensureNoBlock fun _ _ _ => .bind (sim_deeper hc) fun _ _ hd =>
      .bind (hs _ _ (.expression hd)) fun _ _ he => .bind (sim_ensureBool he) fun _ _ _ =>
      .bind sim_ensureNoAssignment fun _ _ _ => .bind (A := Any) (.pure trivial) fun _ _ _ =>
      rest _ _ _ _
  · exact .bind (A := Any) (.pure trivial) fun _ _ _ => rest _ _ _ _

/-- the variables of a loop, but not where they stand -/
def SameVariables (r r' : Ident × Option Ident) : Prop :=
  r.1.name = r'.1.name ∧ SameOption r.2 r'.2

omit hs in
theorem sim_loopVariables : Sim SameVariables loopVariables loopVariables := by
  refine .bind (sim_accept _) fun r _ hr => ?_
  cases hr
  refine .ite Iff.rfl ?_ ?_
  · refine .bind sim_variableName fun i j hij => .bind (sim_expect ..) fun _ _ _ =>
      .bind sim_variableName fun k l hkl => ?_
    cases hij
    cases hkl
    refine .ite Iff.rfl (.fail_bind _ _ _ _) ?_
    exact .bind (sim_expect ..) fun _ _ _ => .pure ⟨rfl, .present rfl⟩
  · refine .bind sim_variableName fun i j hij => ?_
    cases hij
    exact .pure ⟨rfl, .absent⟩

theorem sim_forLoop {c d : Context} (hc : SameContext c d) :
    Sim Like (forLoop solve c) (forLoop solve' d) := by
  refine .bind sim_next fun t u _ => .bind sim_loopVariables ?_
  rintro ⟨item, counter⟩ ⟨item', counter'⟩ ⟨hitem, hcounter⟩
  dsimp only at hitem hcounter ⊢
  have body : Sim Like
      (do bind item.name; solve (.block { (← deeper c) with inLoop := true }))
      (do bind item'.name; solve' (.block { (← deeper d) with inLoop := true })) := by
    rw [hitem]
    exact .bind (sim_bind _) fun _ _ _ => .bind (sim_deeper hc) fun _ _ hc =>
      hs _ _ (.block hc.inLoop)
  exact .bind (sim_expect ..) fun _ _ _ => .bind sim_ensureNoBlock fun _ _ _ =>
    .bind (sim_deeper hc) fun _ _ hd => .bind (hs _ _ (.expression hd)) fun _ _ he =>
    .bind (sim_ensureIterable he) fun _ _ _ => .bind (sim_nested (hcounter.sim_bind body))
    fun _ _ _ => .pure (.forIn ..)

omit hs in
theorem plain_callable : ∀ s ∈ Token.callable, Plain s := by
  unfold Plain
  decide

theorem sim_atom {c d : Context} (hc : SameContext c d) :
    Sim Like (atom solve c) (atom solve' d) := by
  refine .bind sim_peek ?_
  rintro _ _ ⟨token, p, q, plain⟩
  dsimp only
  split
  · exact .fail _ _ _
  · exact .bind (sim_deeper hc) fun _ _ hc => hs _ _ (.block hc)
  · exact sim_parenthesis hs hc
  · exact .bind (sim_deeper hc) fun _ _ hc => hs _ _ (.conditional hc)
  · exact .bind (sim_deeper hc) fun _ _ hc => sim_whileLoop hs hc
  · exact .bind (sim_deeper hc) fun _ _ hc => sim_whileLoop hs hc
  · exact .bind (sim_deeper hc) fun _ _ hc => sim_forLoop hs hc
  · refine .bind sim_next fun _ _ _ => ?_
    split
    · exact .pure (.unit ..)
    · exact .pure (.bool ..)
    · exact .pure (.bool ..)
    · exact .pure (.int ..)
    · exact .pure (.float ..)
    · exact .pure (.text ..)
    · exact .pure (.char ..)
    · exact sim_closure hs true p q
    · exact sim_closure hs false p q
    · exact .bind (sim_deeper hc) fun _ _ hc =>
        .bind (sim_rounds (sim_joinedRound hs hc)) fun _ _ _ => .pure (.joined ..)
    · refine .get fun s s' h => ?_
      rw [h.length]
      exact .bind (sim_items hs hc _ 0) fun _ _ hl => .pure (.list (all_isLiteral hl) ..)
    · refine .get fun s s' h => ?_
      rw [h.length]
      exact .bind (sim_properties hs hc _ []) fun _ _ _ => .pure (.record ..)
    · rename_i name _ _ _ _ _ _ _
      have hid := SameIdent.mk name p q (plain name rfl)
      refine .bind sim_continuesName fun r _ hr => ?_
      cases hr
      refine .ite Iff.rfl ?_ (.pure (.name hid))
      exact .bind (sim_checkVariable hid) fun _ _ _ => .bind (sim_useVariable hid) fun _ _ _ =>
        .pure (.name hid)
    · rename_i name _ _ _ _ _ _ _
      have named (flag : Bool) (h : flag = true → Plain name) : Sim Like
          (do
            let called ← pure flag
            if called then return .name ⟨name, p⟩ else fail (.reserved name) p)
          (do
            let called ← pure flag
            if called then return .name ⟨name, q⟩ else fail (.reserved name) q) := by
        cases flag
        · exact .fail _ _ _
        · exact .pure (.name (.mk name p q (h rfl)))
      have callable : Token.callable.contains name = true → Plain name :=
        fun h => plain_callable name (List.contains_iff_mem.mp h)
      refine .bind sim_peek ?_
      rintro _ _ ⟨token, p, q, -⟩
      dsimp only
      split
      · exact named _ callable
      · exact named _ callable
      · exact named _ nofun
    · exact .fail _ _ _
    · exact .fail _ _ _

theorem sim_primary {c d : Context} (hc : SameContext c d) :
    Sim Like (primary solve c) (primary solve' d) := by
  refine .bind sim_peek fun t u _ => .bind (sim_atom hs (hc.at ..)) fun a b h =>
    .get fun s s' hst => ?_
  rw [hst.length]
  exact sim_trail hs _ (hc.at ..) h

omit hs in
theorem like_ofValue (v : Value) (p q : Pos) : Like (.ofValue p v) (.ofValue q v) := by
  cases v <;> constructor

theorem sim_unary {c d : Context} (hc : SameContext c d) :
    Sim Like (unary solve c) (unary solve' d) := by
  refine .bind sim_peek ?_
  rintro _ _ ⟨token, p, q, -⟩
  have operand {c d : Context} (hc : SameContext c d) : Sim Like
      (do let _ ← next; solve (.unary (← deeper c)))
      (do let _ ← next; solve' (.unary (← deeper d))) :=
    .bind sim_next fun _ _ _ => .bind (sim_deeper hc) fun _ _ hc => hs _ _ (.unary hc)
  dsimp only
  split
  · refine .bind (operand (hc.at p q)) fun a b h => ?_
    cases h <;> first
      | exact .pure (.unary ..) | exact .pure (like_ofValue ..) | exact .pure (.float ..)
  · refine .bind (operand (hc.at p q)) fun a b h => ?_
    cases h <;> first | exact .pure (.unary ..) | exact .pure (.int ..) | exact .pure (.float ..)
  · exact .bind (operand (hc.at p q)) fun _ _ _ => .pure (.unary ..)
  · exact .bind (sim_deeper (hc.at p q)) fun _ _ hc => sim_primary hs hc

omit hs in
theorem sim_operate (op : Infix) {a b : Expr} (h : Like a b) {a' b' : Expr} (h' : Like a' b')
    (p q : Pos) : Sim Like (operate op a a' p) (operate op b b' q) := by
  cases op with
  | plain op => exact .pure (.binary ..)
  | logical op =>
    exact .bind (sim_ensureBool h) fun _ _ _ => .bind (sim_ensureBool h') fun _ _ _ =>
      .pure (.logical ..)

theorem sim_climb (precedence n : Nat) {c d : Context} (hc : SameContext c d) {a b : Expr}
    (h : Like a b) :
    Sim Like (climb solve precedence n c a) (climb solve' precedence n d b) := by
  induction n generalizing c d a b with
  | zero => exact .pure h
  | succ n ih =>
    refine .bind sim_peek ?_
    rintro _ _ ⟨token, p, q, -⟩
    dsimp only
    split
    · split
      · exact .ite Iff.rfl (.pure h) (.fail _ _ _)
      · exact .pure h
    · rename_i op own _
      refine .ite Iff.rfl (.pure h) (.bind sim_next fun _ _ _ =>
        .bind (hs _ _ (.unary hc)) fun right right' hr => .bind sim_peek ?_)
      rintro _ _ ⟨token, p', q', -⟩
      have rest {right right' : Expr} (hr : Like right right') : Sim Like
          (do
            let c ← deeper c
            climb solve precedence n { c with pos := p } (← operate op a right p))
          (do
            let d ← deeper d
            climb solve' precedence n { d with pos := q } (← operate op b right' q)) :=
        .bind (sim_deeper hc) fun _ _ hc => .bind (sim_operate op h hr p q) fun _ _ he =>
          ih (hc.at p q) he
      refine .ite Iff.rfl ?_ ?_
      · exact .bind (hs _ _ (.climb hc _ hr)) fun _ _ hr => rest hr
      · exact .bind (.pure hr) fun _ _ hr => rest hr

theorem sim_expression {c d : Context} (hc : SameContext c d) :
    Sim Like (expression solve c) (expression solve' d) :=
  .bind sim_peek fun _ _ _ => .bind (sim_deeper (hc.at ..)) fun _ _ hc =>
    .bind (hs _ _ (.unary hc)) fun _ _ h => hs _ _ (.climb (hc.at ..) 1 h)

/-! ## statements -/

omit hs in
theorem isSome_methodStep? (steps : List Step) :
    (methodStep? steps).isSome = steps.any isMethod := by
  rw [methodStep?, List.isSome_findSome?]
  congr 1
  funext s
  cases s <;> rfl

omit hs in
theorem methodStep?_alike {r s : List Step} (h : r.any isMethod = s.any isMethod) :
    (methodStep? r = none ∧ methodStep? s = none) ∨
      ∃ i j, methodStep? r = some i ∧ methodStep? s = some j := by
  rw [← isSome_methodStep?, ← isSome_methodStep?] at h
  cases hr : methodStep? r with
  | none =>
    rw [hr] at h
    exact .inl ⟨rfl, Option.not_isSome_iff_eq_none.mp (by rw [← h]; nofun)⟩
  | some i =>
    rw [hr] at h
    exact .inr ⟨i, _, rfl, (Option.eq_some_of_isSome h.symm)⟩

omit hs in
theorem sim_checkTarget {a b : Expr} (h : Like a b) (plain : Bool) (p q : Pos) :
    Sim Any (checkTarget a plain p) (checkTarget b plain q) := by
  have name {i j : Ident} (hij : SameIdent i j) : Sim Any
      (checkTarget (.name i) plain p) (checkTarget (.name j) plain q) := by
    cases hij
    refine .bind (sim_local? _) fun r _ hr => ?_
    cases hr
    split
    · exact .fail _ _ _
    · exact .pure trivial
  have refused (a b : Expr) (ha : isConstant a = isConstant b) : Sim Any
      (if isConstant a then fail .constantValue a.start else fail .notAssignable a.pos : P Unit)
      (if isConstant b then fail .constantValue b.start else fail .notAssignable b.pos : P Unit) :=
    .ite (by rw [ha]) (.fail _ _ _) (.fail _ _ _)
  have constant := h.isConstant
  cases h with
  | name h => exact name h
  | path _ _ => exact .pure trivial
  | logical => cases plain <;> exact .fail _ _ _
  | access h hsteps =>
    rcases methodStep?_alike hsteps with ⟨hr, hs⟩ | ⟨i, j, hr, hs⟩
    · dsimp only [checkTarget]
      rw [hr, hs]
      cases h with
      | name h => exact name h
      | path _ _ => exact .pure trivial
      | _ => exact .fail _ _ _
    · dsimp only [checkTarget]
      rw [hr]
      exact .fail _ _ _
  | _ => exact refused _ _ constant

theorem sim_expressionStatement {c d : Context} (hc : SameContext c d) :
    Sim Like (expressionStatement solve c) (expressionStatement solve' d) := by
  refine .bind sim_peek fun t u _ => .bind (hs _ _ (.expression (hc.at ..))) fun a b h =>
    .bind sim_peek ?_
  rintro _ _ ⟨token, p, q, -⟩
  dsimp only
  split
  · exact .pure h
  · exact .bind sim_next fun _ _ _ => .bind (hs _ _ (.expression (hc.at ..))) fun _ _ _ =>
      .bind (sim_checkTarget h _ _ _) fun _ _ _ => .pure (.assign ..)

theorem sim_conditional {c d : Context} (hc : SameContext c d) :
    Sim Like (conditional solve c) (conditional solve' d) := by
  refine .bind sim_next fun t u _ => .bind sim_ensureNoBlock fun _ _ _ =>
    .bind (sim_deeper (hc.at ..)) fun _ _ hd => .bind (hs _ _ (.expression hd)) fun _ _ he =>
    .bind (sim_ensureBool he) fun _ _ _ => .bind sim_ensureNoAssignment fun _ _ _ =>
    .bind (sim_deeper (hc.at ..)) fun _ _ hd => .bind (hs _ _ (.block hd)) fun _ _ _ =>
    .bind (sim_accept _) fun r _ hr => ?_
  cases hr
  refine .ite Iff.rfl (.bind (sim_seesMark _) fun r _ hr => ?_) (.pure (.cond ..))
  cases hr
  refine .ite Iff.rfl ?_ ?_
  · exact .bind (sim_deeper (hc.at ..)) fun _ _ hd =>
      .bind (hs _ _ (.conditional hd)) fun _ _ _ => .pure (.cond ..)
  · exact .bind (sim_deeper (hc.at ..)) fun _ _ hd =>
      .bind (hs _ _ (.block hd)) fun _ _ _ => .pure (.cond ..)

theorem sim_declaration (constant : Bool) {c d : Context} (hc : SameContext c d) :
    Sim Like (declaration solve constant c) (declaration solve' constant d) := by
  refine .bind sim_next fun t u _ => .bind sim_variableName fun i j hij =>
    .bind (sim_accept _) fun r _ hr => ?_
  cases hr
  cases hij
  refine .ite Iff.rfl ?_ ?_
  · exact .bind (sim_deeper (hc.at ..)) fun _ _ hd => .bind (hs _ _ (.expression hd)) fun _ _ _ =>
      .bind (A := Any) (.pure trivial) fun _ _ _ => .bind (sim_declare _ _) fun _ _ _ =>
      .pure (Like.declare ..)
  · exact .bind (A := Any) (.pure trivial) fun _ _ _ => .bind (sim_declare _ _) fun _ _ _ =>
      .pure (Like.declare ..)

theorem sim_importStatement {c d : Context} (hc : SameContext c d) :
    Sim Like (importStatement solve c) (importStatement solve' d) := by
  refine .bind sim_next fun t u _ => .bind (sim_deeper (hc.at ..)) fun _ _ hd =>
    .bind (hs _ _ (.expression hd)) fun _ _ _ => .bind (sim_accept _) fun r _ hr => ?_
  cases hr
  refine .ite Iff.rfl (.bind sim_variableName fun i j hij => ?_) (.pure (.use ..))
  cases hij
  refine .bind (.modify fun s s' h => ?_) fun _ _ _ => .pure (.use ..)
  exact { h with imports := List.cons_subset_cons _ h.imports }

theorem sim_attempt {c d : Context} (hc : SameContext c d) :
    Sim Like (attempt solve c) (attempt solve' d) := by
  refine .bind sim_next fun t u _ => .bind (sim_deeper (hc.at ..)) fun _ _ hd =>
    .bind (hs _ _ (.block hd)) fun _ _ _ => .bind (sim_expect ..) fun _ _ _ =>
    .bind (sim_accept _) fun r _ hr => ?_
  cases hr
  have block : Sim Like
      (do solve (.block (← deeper { c with pos := t.pos })))
      (do solve' (.block (← deeper { d with pos := u.pos }))) :=
    .bind (sim_deeper (hc.at ..)) fun _ _ hd => hs _ _ (.block hd)
  refine .ite Iff.rfl (.bind sim_variableName fun i j hij => .bind (sim_expect ..) fun _ _ _ => ?_) ?_
  · cases hij
    exact .bind (A := SameOption) (.pure (.present rfl)) fun _ _ h =>
      .bind (sim_nested (h.sim_bind block)) fun _ _ _ => .pure (Like.attempt ..)
  · exact .bind (A := SameOption) (.pure .absent) fun _ _ h =>
      .bind (sim_nested (h.sim_bind block)) fun _ _ _ => .pure (Like.attempt ..)

theorem sim_leave {c d : Context} (hc : SameContext c d) (exit : Exit) (outermost : Bool) :
    Sim Like (leave solve c exit outermost) (leave solve' d exit outermost) := by
  refine .bind sim_next fun t u _ => .bind sim_peek ?_
  rintro _ _ ⟨token, p, q, -⟩
  refine .ite Iff.rfl (.pure (.leave ..)) ?_
  exact .bind (sim_deeper hc) fun _ _ hd => .bind (hs _ _ (.expression hd)) fun _ _ _ =>
    .pure (.leave ..)

theorem sim_definition : Sim Like (definition solve) (definition solve') :=
  .bind sim_next fun _ _ ht => ht.ite _
    (.bind sim_next fun _ _ hu => hu.ite _ (sim_function hs true _ _) (.fail _ _ _))
    (sim_function hs false _ _)

theorem sim_statement {c d : Context} (hc : SameContext c d) :
    Sim Like (statement solve c) (statement solve' d) := by
  refine .bind sim_peek ?_
  rintro _ _ ⟨token, p, q, -⟩
  cases hc with
  | mk level limit p' q' inLoop outermost =>
  dsimp only
  split
  · exact .pure (.skip ..)
  · exact .bind sim_next fun _ _ _ => .pure (.skip ..)
  · exact .bind (sim_deeper (.mk ..)) fun _ _ hc => hs _ _ (.block hc)
  · exact .ite Iff.rfl (sim_definition hs) (.fail _ _ _)
  · exact sim_definition hs
  · exact .bind (sim_deeper (.mk ..)) fun _ _ hc => hs _ _ (.conditional hc)
  · exact .bind (sim_deeper (.mk ..)) fun _ _ hc => sim_whileLoop hs hc
  · exact .bind (sim_deeper (.mk ..)) fun _ _ hc => sim_whileLoop hs hc
  · exact .bind (sim_deeper (.mk ..)) fun _ _ hc => sim_forLoop hs hc
  · exact .ite Iff.rfl (.fail_bind _ _ _ _) (.bind sim_next fun _ _ _ => .pure (.leave ..))
  · exact .ite Iff.rfl (.fail_bind _ _ _ _) (sim_leave hs (.mk ..) _ _)
  · exact sim_leave hs (.mk ..) _ _
  · exact sim_leave hs (.mk ..) _ _
  · exact .bind (sim_deeper (.mk ..)) fun _ _ hc => sim_attempt hs hc
  · exact .bind (sim_deeper (.mk ..)) fun _ _ hc => sim_declaration hs _ hc
  · exact .bind (sim_deeper (.mk ..)) fun _ _ hc => sim_declaration hs _ hc
  · exact .bind (sim_deeper (.mk ..)) fun _ _ hc => sim_importStatement hs hc
  · exact .bind (sim_deeper (.mk ..)) fun _ _ hc => sim_expressionStatement hs hc

/-! ## scripts -/

theorem sim_step {g g' : Goal} (hg : SameGoal g g') : Sim Like (step solve g) (step solve' g') := by
  cases hg with
  | statement hc => exact sim_statement hs hc
  | expression hc => exact sim_expression hs hc
  | unary hc => exact sim_unary hs hc
  | block hc => exact sim_block hs hc
  | conditional hc => exact sim_conditional hs hc
  | climb hc precedence h =>
    refine .get fun s s' hst => ?_
    rw [hst.length]
    exact sim_climb hs precedence _ hc h

theorem sim_outerRound (limit : Nat) :
    Sim (SameRound Like) (outerRound solve limit) (outerRound solve' limit) := by
  refine .bind sim_peek ?_
  rintro _ _ ⟨token, p, q, -⟩
  dsimp only
  split
  · exact .pure .done
  · refine .bind (hs _ _ (.statement (.mk ..))) fun a b h => ?_
    rw [h.isSkip]
    split
    · exact .pure .pass
    · exact sim_terminate false h

end

/-- goals may be nested deeper for the second reader -/
theorem sim_solve {m n : Nat} (hmn : m ≤ n) : SameSolve (solve m) (solve n) := by
  induction m generalizing n with
  | zero =>
    intro g g' _ s s' _ a t ht
    cases ht
  | succ m ih =>
    obtain ⟨n, rfl⟩ : ∃ k, n = k + 1 := ⟨n - 1, by omega⟩
    exact fun g g' hg => sim_step (ih (by omega)) hg

end Scripting.Script.Parser
