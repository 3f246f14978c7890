import Mathlib.Data.List.Forall2
import Scripting.Script.Parser

/-!
# Readers that do alike

What a script is read as hardly depends on where its tokens stand.  Positions go into faults and
into the names of functions without a name, and those are told apart from all other names by a sign
that no word holds.  More imports and more namespaces never stop a reader.

* `Like`      two expressions that no check of the reader tells apart;
* `Alike`     two states with the same tokens, of which the second knows at least the imports and
              namespaces of the first;
* `Sim`       whenever the first reader succeeds, so does the second, alike;
* `Sim.bind` and its like take readers apart, and `sim_peek` and its like say so of the small ones.
-/

namespace Scripting.Script.Parser

/-- a name of the script, and not one that stands for a function without a name -/
def Plain (name : String) : Prop := '$' ∉ name.toList

/-! ## what is read -/

inductive SameToken : Located → Located → Prop
  | mk (token : Token) (p q : Pos) (plain : ∀ name, token = .name name → Plain name) :
    SameToken ⟨token, p⟩ ⟨token, q⟩

inductive SameIdent : Ident → Ident → Prop
  | mk (name : String) (p q : Pos) (plain : Plain name) : SameIdent ⟨name, p⟩ ⟨name, q⟩

/-- the names of two paths -/
def SamePath (space space' : List Ident) : Prop := space.map (·.name) = space'.map (·.name)

/-- whether an item counts as constant -/
def isLiteral : Expr → Bool
  | .unit _ | .bool .. | .int .. | .float .. | .text .. | .char .. => true
  | _ => false

def isMethod : Step → Bool
  | .method .. => true
  | _ => false

/-- expressions of one kind, which no check of the reader tells apart -/
inductive Like : Expr → Expr → Prop
  | unit (p q : Pos) : Like (.unit p) (.unit q)
  | bool (b : Bool) (p q : Pos) : Like (.bool b p) (.bool b q)
  | int (i : Int) (p q : Pos) : Like (.int i p) (.int i q)
  | float (x : Float) (p q : Pos) : Like (.float x p) (.float x q)
  | text (s : String) (p q : Pos) : Like (.text s p) (.text s q)
  | char (c : Char) (p q : Pos) : Like (.char c p) (.char c q)
  | value (v : Value) (p q : Pos) : Like (.value v p) (.value v q)
  | joined (a b : List Expr) (p q : Pos) : Like (.joined a p) (.joined b q)
  | name {a b : Ident} (h : SameIdent a b) : Like (.name a) (.name b)
  | path {r s : List Ident} {a b : Ident} (hspace : SamePath r s) (h : a.name = b.name) :
    Like (.path r a) (.path s b)
  | list {a b : List Expr} (h : a.all isLiteral = b.all isLiteral) (p q : Pos) :
    Like (.list a p) (.list b q)
  | record (a b : List (Ident × Expr)) (p q : Pos) : Like (.record a p) (.record b q)
  | access {a b : Expr} (h : Like a b) {r s : List Step}
    (hsteps : r.any isMethod = s.any isMethod) : Like (.access a r) (.access b s)
  | call (r s : List Ident) (f g : Ident) (a b : List Expr) : Like (.call r f a) (.call s g b)
  | unary (op : UnaryOp) (a b : Expr) (p q : Pos) : Like (.unary op a p) (.unary op b q)
  | binary (op : BinaryOp) (a b c d : Expr) (p q : Pos) :
    Like (.binary op a b p) (.binary op c d q)
  | logical (op : LogicalOp) (a b c d : Expr) (p q : Pos) :
    Like (.logical op a b p) (.logical op c d q)
  | closure (f g : String) (a b : List Expr) (p q : Pos) : Like (.closure f a p) (.closure g b q)
  | block (a b : List Expr) (p q : Pos) : Like (.block a p) (.block b q)
  | cond (a b : Expr) (c : Option Expr) (d e : Expr) (f : Option Expr) (p q : Pos) :
    Like (.cond a b c p) (.cond d e f q)
  | loop (a : Option Expr) (b : Expr) (c : Option Expr) (d : Expr) (p q : Pos) :
    Like (.loop a b p) (.loop c d q)
  | forIn (i : Ident) (n : Option Ident) (a b : Expr) (j : Ident) (m : Option Ident) (c d : Expr)
    (p q : Pos) : Like (.forIn i n a b p) (.forIn j m c d q)
  | declare (i : Ident) (constant : Bool) (a : Option Expr) (j : Ident) (b : Option Expr) :
    Like (.declare i constant a) (.declare j constant b)
  | assign (a : Expr) (op : Option BinaryOp) (b c d : Expr) (p q : Pos) :
    Like (.assign a op b p) (.assign c op d q)
  | leave (exit : Exit) (a b : Option Expr) (p q : Pos) : Like (.leave exit a p) (.leave exit b q)
  | attempt (a : Expr) (i : Option Ident) (b c : Expr) (j : Option Ident) (d : Expr) (p q : Pos) :
    Like (.attempt a i b p) (.attempt c j d q)
  | use (a : Expr) (i : Option Ident) (b : Expr) (j : Option Ident) (p q : Pos) :
    Like (.use a i p) (.use b j q)
  | skip (p q : Pos) : Like (.skip p) (.skip q)

section
variable {a b : Expr} (h : Like a b)
include h

theorem Like.endsItself : a.endsItself = b.endsItself := by cases h <;> rfl
theorem Like.isSkip : a.isSkip = b.isSkip := by cases h <;> rfl
theorem Like.isIndexable : isIndexable a = isIndexable b := by cases h <;> rfl
theorem Like.isLiteral : isLiteral a = isLiteral b := by cases h <;> rfl

end

theorem all_isLiteral {as bs : List Expr} (h : List.Forall₂ Like as bs) :
    as.all isLiteral = bs.all isLiteral := by
  induction h with
  | nil => rfl
  | cons h _ ih => rw [List.all_cons, List.all_cons, h.isLiteral, ih]

theorem isConstant_list (items : List Expr) (p : Pos) :
    isConstant (.list items p) = items.all isLiteral := by
  unfold isConstant
  congr 1

theorem Like.isConstant {a b : Expr} (h : Like a b) : isConstant a = isConstant b := by
  cases h with
  | list h p q => rw [isConstant_list, isConstant_list, h]
  | _ => rfl

inductive SameContext : Context → Context → Prop
  | mk (level limit : Nat) (p q : Pos) (inLoop outermost : Bool) :
    SameContext ⟨level, limit, p, inLoop, outermost⟩ ⟨level, limit, q, inLoop, outermost⟩

inductive SameGoal : Goal → Goal → Prop
  | statement {c d : Context} (h : SameContext c d) : SameGoal (.statement c) (.statement d)
  | expression {c d : Context} (h : SameContext c d) : SameGoal (.expression c) (.expression d)
  | unary {c d : Context} (h : SameContext c d) : SameGoal (.unary c) (.unary d)
  | block {c d : Context} (h : SameContext c d) : SameGoal (.block c) (.block d)
  | conditional {c d : Context} (h : SameContext c d) : SameGoal (.conditional c) (.conditional d)
  | climb {c d : Context} (h : SameContext c d) (precedence : Nat) {a b : Expr} (he : Like a b) :
    SameGoal (.climb c precedence a) (.climb d precedence b)

inductive SameRound {α β : Type} (A : α → β → Prop) : Round α → Round β → Prop
  | done : SameRound A .done .done
  | pass : SameRound A .pass .pass
  | item {a : α} {b : β} (h : A a b) : SameRound A (.item a) (.item b)
  | last {a : α} {b : β} (h : A a b) : SameRound A (.last a) (.last b)

/-! ## states -/

structure SameFunction (f g : Function) : Prop where
  name : f.name = g.name ∨ ¬ Plain f.name ∧ ¬ Plain g.name
  arity : f.params.length = g.params.length
  captured : f.captured = g.captured

structure SameFrame (f g : Frame) : Prop where
  locals : f.locals = g.locals
  inBlock : f.inBlock = g.inBlock
  outside : List.Forall₂ SameIdent f.outside g.outside
  takesAlong : f.takesAlong = g.takesAlong

structure Alike (s t : State) : Prop where
  tokens : List.Forall₂ SameToken s.tokens t.tokens
  functions : List.Forall₂ SameFunction s.functions t.functions
  imports : s.imports ⊆ t.imports
  frame : SameFrame s.frame t.frame
  settings : s.settings = t.settings
  spaces : s.spaces ⊆ t.spaces

theorem SameFunction.beq {f g : Function} (h : SameFunction f g) {name : String}
    (hp : Plain name) : (f.name == name) = (g.name == name) := by
  rcases h.name with he | ⟨hf, hg⟩
  · rw [he]
  · have hf' : f.name ≠ name := fun e => hf (by rwa [e])
    have hg' : g.name ≠ name := fun e => hg (by rwa [e])
    rw [beq_eq_false_iff_ne.mpr hf', beq_eq_false_iff_ne.mpr hg']

theorem any_function {fs gs : List Function} (h : List.Forall₂ SameFunction fs gs) {name : String}
    (hp : Plain name) : fs.any (·.name == name) = gs.any (·.name == name) := by
  induction h with
  | nil => rfl
  | cons hfg _ ih => rw [List.any_cons, List.any_cons, hfg.beq hp, ih]

theorem any_ident {as bs : List Ident} (h : List.Forall₂ SameIdent as bs) (name : String) :
    as.any (·.name == name) = bs.any (·.name == name) := by
  induction h with
  | nil => rfl
  | cons h _ ih =>
    cases h
    rw [List.any_cons, List.any_cons, ih]

/-! ## readers -/

/-- whenever the first reader succeeds, so does the second, and what they read is alike -/
def Sim {α β : Type} (A : α → β → Prop) (p : P α) (q : P β) : Prop :=
  ∀ ⦃s s' : State⦄, Alike s s' → ∀ a t, p s = .ok (a, t) →
    ∃ b t', q s' = .ok (b, t') ∧ A a b ∧ Alike t t'

/-- nothing is said of what is read -/
def Any {α β : Type} (_ : α) (_ : β) : Prop := True

section
variable {α α' β β' : Type} {A : α → α' → Prop} {B : β → β' → Prop} {p : P α} {q : P α'}

theorem bind_apply (p : P α) (f : α → P β) (s : State) :
    (p >>= f) s = (p s).bind fun r => f r.1 r.2 := rfl

theorem Sim.pure {a : α} {b : α'} (h : A a b) : Sim A (pure a : P α) (pure b : P α') := by
  intro s s' hs x t ht
  cases ht
  exact ⟨b, s', rfl, h, hs⟩

theorem Sim.bind {f : α → P β} {g : α' → P β'} (h : Sim A p q)
    (hf : ∀ a b, A a b → Sim B (f a) (g b)) : Sim B (p >>= f) (q >>= g) := by
  intro s s' hs x t ht
  rw [bind_apply] at ht
  cases hp : p s with
  | error e =>
    rw [hp] at ht
    cases ht
  | ok r =>
    obtain ⟨a, m⟩ := r
    rw [hp] at ht
    obtain ⟨b, m', hq, hab, hm⟩ := h hs a m hp
    obtain ⟨y, t', hg, hxy, ht'⟩ := hf a b hab hm x t ht
    exact ⟨y, t', by rw [bind_apply, hq]; exact hg, hxy, ht'⟩

/-- less may be said of what is read -/
theorem Sim.mono {C : α → α' → Prop} (h : Sim A p q) (hC : ∀ a b, A a b → C a b) : Sim C p q := by
  intro s s' hs a t ht
  obtain ⟨b, t', hq, hab, ht'⟩ := h hs a t ht
  exact ⟨b, t', hq, hC a b hab, ht'⟩

/-- a reader that fails is followed by every other -/
theorem Sim.fail (cause : CompileCause) (pos : Pos) (q : P α') :
    Sim A (fail cause pos : P α) q := by
  intro s s' _ a t ht
  cases ht

theorem Sim.failAt (t : Located) (cause : CompileCause) (q : P α') :
    Sim A (failAt t cause : P α) q := by
  unfold Parser.failAt
  split <;> exact .fail _ _ q

theorem Sim.fail_bind (cause : CompileCause) (pos : Pos) (f : α → P β) (q : P β') :
    Sim B ((Parser.fail cause pos : P α) >>= f) q := by
  intro s s' _ a t ht
  cases ht

theorem Sim.failAt_bind (t : Located) (cause : CompileCause) (f : α → P β) (q : P β') :
    Sim B ((Parser.failAt t cause : P α) >>= f) q := by
  unfold Parser.failAt
  split <;> exact .fail_bind _ _ f q

theorem Sim.ite {b c : Prop} [Decidable b] [Decidable c] (hbc : b ↔ c) {r : P α} {r' : P α'}
    (h : Sim A p q) (hr : Sim A r r') : Sim A (if b then p else r) (if c then q else r') := by
  by_cases hb : b
  · rw [if_pos hb, if_pos (hbc.mp hb)]
    exact h
  · rw [if_neg hb, if_neg fun hc => hb (hbc.mpr hc)]
    exact hr

theorem Sim.get {f : State → P β} {g : State → P β'}
    (h : ∀ s s', Alike s s' → Sim B (f s) (g s')) : Sim B (get >>= f) (get >>= g) :=
  fun s s' hs => h s s' hs hs

theorem Sim.set {s s' : State} (h : Alike s s') : Sim Any (set s : P PUnit) (set s') := by
  intro t t' _ a u hu
  cases hu
  exact ⟨⟨⟩, s', rfl, trivial, h⟩

theorem Sim.modify {f g : State → State} (h : ∀ s s', Alike s s' → Alike (f s) (g s')) :
    Sim Any (modify f : P PUnit) (modify g) := by
  intro s s' hs a t ht
  cases ht
  exact ⟨⟨⟩, g s', rfl, trivial, h s s' hs⟩

end

/-! ## tokens -/

theorem sameToken_head {ts us : List Located} (h : List.Forall₂ SameToken ts us) (p q : Pos) :
    SameToken (ts.headD ⟨.eof, p⟩) (us.headD ⟨.eof, q⟩) := by
  cases h with
  | nil => exact .mk .eof p q fun _ h => nomatch h
  | cons h _ => exact h

theorem sim_peek : Sim SameToken peek peek :=
  .get fun _ _ hs => .pure (sameToken_head hs.tokens _ _)

theorem Alike.drop {s s' : State} (hs : Alike s s') :
    Alike { s with tokens := s.tokens.drop 1 } { s' with tokens := s'.tokens.drop 1 } :=
  { hs with tokens := List.forall₂_drop 1 hs.tokens }

theorem sim_next : Sim SameToken next next :=
  .bind sim_peek fun _ _ h => .bind (.modify fun _ _ hs => hs.drop) fun _ _ _ => .pure h

theorem SameToken.isMark {t u : Located} (h : SameToken t u) (mark : String) :
    Located.isMark t mark = Located.isMark u mark := by
  cases h
  rfl

/-- what is read goes by whether a token is a mark -/
theorem SameToken.ite {t u : Located} (h : SameToken t u) (mark : String) {α α' : Type}
    {A : α → α' → Prop} {p r : P α} {q r' : P α'} (hp : Sim A p q) (hr : Sim A r r') :
    Sim A (if Located.isMark t mark = true then p else r)
      (if Located.isMark u mark = true then q else r') :=
  .ite (by rw [h.isMark]) hp hr

theorem sim_seesMark (mark : String) : Sim Eq (seesMark mark) (seesMark mark) :=
  .bind sim_peek fun _ _ h => .pure (h.isMark mark)

theorem sim_accept (mark : String) : Sim Eq (accept mark) (accept mark) := by
  refine .bind (sim_seesMark mark) fun b _ h => ?_
  cases h
  split
  · exact .bind sim_next fun _ _ _ => .pure rfl
  · exact .pure rfl

theorem sim_expect (mark purpose purpose' : String) :
    Sim Any (expect mark purpose) (expect mark purpose') :=
  .bind sim_next fun _ _ h => h.ite mark (.pure trivial) (.failAt _ _ _)

theorem sim_deeper {c d : Context} (h : SameContext c d) :
    Sim SameContext (deeper c) (deeper d) := by
  cases h
  unfold deeper
  split
  · exact .fail _ _ _
  · exact .pure (.mk ..)

/-! ## repetitions -/

section
variable {α α' : Type} {A : α → α' → Prop}

/-- more rounds may be left to the second reader -/
theorem sim_collect {round : P (Round α)} {round' : P (Round α')}
    (h : Sim (SameRound A) round round') {m n : Nat} (hmn : m ≤ n) :
    Sim (List.Forall₂ A) (collect m round) (collect n round') := by
  induction m generalizing n with
  | zero =>
    intro s s' _ a t ht
    cases ht
  | succ m ih =>
    obtain ⟨n, rfl⟩ : ∃ k, n = k + 1 := ⟨n - 1, by omega⟩
    have hrest := ih (n := n) (by omega)
    refine .bind h fun r r' hr => ?_
    cases hr with
    | done => exact .pure .nil
    | pass => exact hrest
    | item h => exact .bind hrest fun _ _ hl => .pure (.cons h hl)
    | last h => exact .pure (.cons h .nil)

theorem Alike.length {s s' : State} (hs : Alike s s') : s.tokens.length = s'.tokens.length :=
  hs.tokens.length_eq

theorem sim_rounds {round : P (Round α)} {round' : P (Round α')}
    (h : Sim (SameRound A) round round') :
    Sim (List.Forall₂ A) (rounds round) (rounds round') :=
  .get fun _ _ hs => sim_collect h (Nat.le_of_eq (by rw [hs.length]))

/-! ## scopes -/

theorem sim_nested {p : P α} {q : P α'} (h : Sim A p q) : Sim A (nested p) (nested q) := by
  refine .get fun s s' hs => .bind (.set ?_) fun _ _ _ => .bind h fun _ _ hab =>
    .bind (.modify fun t t' ht => ?_) fun _ _ _ => .pure hab
  · exact { hs with frame := { hs.frame with inBlock := rfl } }
  · exact { ht with
      imports := hs.imports
      frame := { hs.frame with outside := ht.frame.outside } }

/-- what a function reads, and the names that it takes from outside -/
def WithOutside (A : α → α' → Prop) (r : α × List Ident) (r' : α' × List Ident) : Prop :=
  A r.1 r'.1 ∧ List.Forall₂ SameIdent r.2 r'.2

theorem sim_inFunction {p : P α} {q : P α'} (h : Sim A p q) (takesAlong : Bool) :
    Sim (WithOutside A) (inFunction takesAlong p) (inFunction takesAlong q) := by
  refine .get fun s s' hs => .bind (.set ?_) fun _ _ _ => .bind h fun _ _ hab =>
    .get fun t t' ht => .bind (.set ?_) fun _ _ _ => .pure ⟨hab, ht.frame.outside⟩
  · exact { hs with frame := ⟨rfl, rfl, .nil, rfl⟩ }
  · exact { ht with frame := hs.frame, imports := hs.imports }

end

theorem sim_declare (name : String) (constant : Bool) :
    Sim Any (declare name constant) (declare name constant) := by
  refine .modify fun s s' hs => ?_
  obtain ⟨hl, hb, ho, ht⟩ := hs.frame
  dsimp only
  rw [hl, hb]
  split
  · exact { hs with frame := ⟨rfl, rfl, ho, ht⟩ }
  · exact { hs with frame := ⟨rfl, rfl, ho, ht⟩ }

theorem sim_bind (name : String) : Sim Any (bind name) (bind name) := by
  refine .modify fun s s' hs => ?_
  obtain ⟨hl, hb, ho, ht⟩ := hs.frame
  exact { hs with frame := ⟨by rw [hl], by rw [hb], ho, ht⟩ }

theorem sim_local? (name : String) : Sim Eq (local? name) (local? name) :=
  .get fun _ _ hs => .pure (by rw [hs.frame.locals])

theorem sim_useVariable {a b : Ident} (h : SameIdent a b) :
    Sim Any (useVariable a) (useVariable b) := by
  obtain ⟨name, p, q, plain⟩ := h
  refine .get fun s s' hs => ?_
  rw [hs.frame.locals, any_function hs.functions plain, any_ident hs.frame.outside name]
  split
  · exact .pure trivial
  · split
    · refine .set { hs with frame := { hs.frame with outside := ?_ } }
      exact List.rel_append hs.frame.outside (.cons (.mk name p q plain) .nil)
    · exact .pure trivial

theorem sim_checkVariable {a b : Ident} (h : SameIdent a b) :
    Sim Any (checkVariable a) (checkVariable b) := by
  obtain ⟨name, p, q, plain⟩ := h
  refine .get fun s s' hs => ?_
  rw [hs.frame.locals, hs.frame.takesAlong, hs.settings, any_function hs.functions plain]
  split
  · exact .fail _ _ _
  · exact .pure trivial

/-- a namespace that is known stays known -/
theorem sim_checkSpace {r s : List Ident} (h : SamePath r s) :
    Sim Any (checkSpace r) (checkSpace s) := by
  refine .get fun t t' ht => ?_
  cases r with
  | nil =>
    cases s with
    | nil => exact .pure trivial
    | cons b s => cases h
  | cons a r =>
    cases s with
    | nil => cases h
    | cons b s =>
      have hname : a.name = b.name := (List.cons.inj h).1
      have himports : t.imports.contains b.name = true → t'.imports.contains b.name = true := by
        simpa using fun h => ht.imports h
      have hspaces : t.spaces.contains b.name = true → t'.spaces.contains b.name = true := by
        simpa using fun h => ht.spaces h
      dsimp only
      rw [ht.settings, hname]
      split
      · exact .fail _ _ _
      · rename_i hknown
        rw [if_neg]
        · exact .pure trivial
        · intro hunknown
          simp only [Bool.and_eq_true, Bool.not_eq_true'] at hknown hunknown
          refine hknown ⟨⟨hunknown.1.1, ?_⟩, ?_⟩
          · exact Bool.eq_false_iff.mpr fun h => Bool.eq_false_iff.mp hunknown.1.2 (himports h)
          · exact Bool.eq_false_iff.mpr fun h => Bool.eq_false_iff.mp hunknown.2 (hspaces h)

theorem sim_variableName : Sim SameIdent variableName variableName := by
  refine .bind sim_next ?_
  rintro _ _ ⟨token, p, q, plain⟩
  dsimp only
  split
  · exact .pure (.mk _ _ _ (plain _ rfl))
  · exact .fail _ _ _
  · exact .failAt _ _ _

/-! ## checks -/

theorem sim_ensureBool {a b : Expr} (h : Like a b) : Sim Any (ensureBool a) (ensureBool b) := by
  cases h
  case bool => exact .pure trivial
  all_goals first | exact .fail _ _ _ | exact .pure trivial

theorem sim_ensureIterable {a b : Expr} (h : Like a b) :
    Sim Any (ensureIterable a) (ensureIterable b) := by
  cases h
  all_goals first | exact .fail _ _ _ | exact .pure trivial

theorem sim_ensureNoBlock : Sim Any ensureNoBlock ensureNoBlock :=
  .bind sim_peek fun _ _ h => h.ite _ (.fail _ _ _) (.pure trivial)

theorem sim_ensureNoAssignment : Sim Any ensureNoAssignment ensureNoAssignment :=
  .bind sim_peek fun _ _ h => h.ite _ (.fail _ _ _) (.pure trivial)

end Scripting.Script.Parser
