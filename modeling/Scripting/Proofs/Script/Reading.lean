import Scripting.Proofs.Script.Same
import Scripting.Script.Eval

/-!
# Reading a name as a namespace

`reading` runs expressions like `Eval.run`, except that a path of one segment called `short` stands
for whatever it is told to stand for.  If that is what such a path comes to where no import is
called `short`, and no import of the script is, then the two do the same:

* `spares`        no import in an expression is called `short`;
* `same_eval`     one expression does the same by two ways of evaluating what is inside it that do;
* `same_run`      so running and reading do the same at every depth;
* `call_reading`  and every call of a function of the script ends the same way.
-/

namespace Scripting.Script

/-! ## imports in expressions -/

section
variable (short : String)

mutual

/-- whether no import in it is called `short` -/
def spares : Expr → Bool
  | .joined parts _ => sparesAll parts
  | .list items _ => sparesAll items
  | .record fields _ => sparesFields fields
  | .access root steps => spares root && sparesSteps steps
  | .call _ _ args => sparesAll args
  | .unary _ e _ => spares e
  | .binary _ l r _ => spares l && spares r
  | .logical _ l r _ => spares l && spares r
  | .closure _ taken _ => sparesAll taken
  | .block body _ => sparesAll body
  | .cond test yes no _ => spares test && (spares yes && sparesOption no)
  | .loop test body _ => sparesOption test && spares body
  | .forIn _ _ source body _ => spares source && spares body
  | .declare _ _ value => sparesOption value
  | .assign target _ value _ => spares target && spares value
  | .leave _ value _ => sparesOption value
  | .attempt body _ handler _ => spares body && spares handler
  | .use source called _ => spares source && called.all fun id => id.name != short
  | _ => true

def sparesOption : Option Expr → Bool
  | none => true
  | some e => spares e

def sparesAll : List Expr → Bool
  | [] => true
  | e :: es => spares e && sparesAll es

def sparesFields : List (Ident × Expr) → Bool
  | [] => true
  | (_, e) :: rest => spares e && sparesFields rest

def sparesSteps : List Step → Bool
  | [] => true
  | s :: rest => sparesStep s && sparesSteps rest

def sparesStep : Step → Bool
  | .index i _ => spares i
  | .field _ => true
  | .method _ args => sparesAll args

end

end

namespace Eval

/-! ## what does not look inside an expression -/

section
variable {short : String} (p : Program)

theorem same_callSpace (space : List Ident) (id : Ident) (args : List Value) :
    Same short (callSpace p space id args) (callSpace p space id args) := by
  refine .bind (same_space? p space) fun s => ?_
  split
  · refine .bind (same_tick p 1) fun _ => .bind (same_logs _) fun _ => ?_
    split
    · exact same_bounded p _
    · exact .raise _ _
  · exact .raise _ _

theorem same_constant (space : List Ident) (id : Ident) :
    Same short (constant p space id) (constant p space id) := by
  refine .bind (same_space? p space) fun s => ?_
  split
  · exact .pure _
  · exact .raise _ _

theorem same_liftAt {α : Type} (index bracket value : Pos) (r : Place.Result α) :
    Same short (liftAt index bracket value r) (liftAt index bracket value r) := by
  cases r with
  | ok a => exact .pure a
  | error f => exact .raise _ _

theorem same_assigned (op : Option BinaryOp) (pos : Pos) (old new : Value) :
    Same short (assigned p op pos old new) (assigned p op pos old new) := by
  unfold assigned
  split
  · exact .pure _
  · refine .bind (same_lift _ _) fun v => ?_
    split
    · exact .pure _
    · exact same_bounded p _

end

/-! ## one expression -/

section
variable {short : String} (p : Program) {rec rec' : Expr → Eval Value}
  (hrec : ∀ e, spares short e = true → Same short (rec e) (rec' e))
include hrec

theorem same_value {e : Expr} (he : spares short e = true) :
    Same short (value p rec e) (value p rec' e) :=
  .bind (same_tick p _) fun _ => hrec e he

theorem same_statement {e : Expr} (he : spares short e = true) :
    Same short (statement p rec e) (statement p rec' e) :=
  .bind (same_tick p _) fun _ => hrec e he

theorem same_argument {e : Expr} (he : spares short e = true) :
    Same short (argument p rec e) (argument p rec' e) := by
  unfold argument
  split
  · exact .bind (same_tick p 1) fun _ => .pure _
  · exact same_value p hrec he

theorem same_arguments {es : List Expr} (hes : sparesAll short es = true) :
    Same short (arguments p rec es) (arguments p rec' es) := by
  induction es with
  | nil => exact .pure _
  | cons e es ih =>
    obtain ⟨he, hes⟩ := Bool.and_eq_true_iff.mp hes
    exact .bind (same_argument p hrec he) fun _ => .bind (ih hes) fun _ => .pure _

theorem same_statements {es : List Expr} (hes : sparesAll short es = true) :
    Same short (statements p rec es) (statements p rec' es) := by
  induction es with
  | nil => exact .pure _
  | cons e es ih =>
    obtain ⟨he, hes⟩ := Bool.and_eq_true_iff.mp hes
    cases es with
    | nil => exact same_statement p hrec he
    | cons d es => exact .bind (same_statement p hrec he) fun _ => ih hes

theorem same_block {e : Expr} (he : spares short e = true) :
    Same short (block p rec e) (block p rec' e) := by
  unfold block
  split
  · rw [spares] at he
    exact .within (same_statements p hrec he)
  · exact .within (same_statement p hrec he)

theorem same_test {e : Expr} (he : spares short e = true) :
    Same short (test p rec e) (test p rec' e) := by
  refine .bind (same_value p hrec he) fun v => ?_
  split
  · exact .pure _
  · exact .raise _ _

/-! ### calls -/

variable (hp : ∀ f ∈ p.functions, spares short f.body = true)
include hp

theorem same_enter {f : Function} (hf : f ∈ p.functions) (cells : List Nat) (args : List Value)
    (wrap : Fault → Fault) :
    Same short (enter p rec f cells args wrap) (enter p rec' f cells args wrap) := by
  refine .bind (same_tick p 1) fun _ => .get fun m _ => ?_
  refine .when (.raise _ _) (.when (.raise _ _) ?_)
  refine .tryCatch (.framed _ (same_block p hrec (hp f hf))) fun s => ?_
  cases s with
  | yield v => exact .pure _
  | _ => exact .throw _

theorem same_callScript? (name : String) (cells : List Nat) (args : List Value)
    (pos : Option Pos) :
    callScript? p rec name cells args pos = none ∧ callScript? p rec' name cells args pos = none ∨
      ∃ v v', callScript? p rec name cells args pos = some v ∧
        callScript? p rec' name cells args pos = some v' ∧ Same short v v' := by
  unfold callScript?
  cases h : function? p name (cells.length + args.length) with
  | none => exact .inl ⟨rfl, rfl⟩
  | some f =>
    exact .inr ⟨_, _, rfl, rfl, same_enter p hrec hp (List.mem_of_find?_eq_some h) _ _ _⟩

theorem same_callValue (fn : Value) (args : List Value) (id : Ident) (pos : Pos) :
    Same short (callValue p rec fn args id pos) (callValue p rec' fn args id pos) := by
  unfold callValue
  split
  · rename_i name cells
    rcases same_callScript? p hrec hp name cells args (some id.pos) with
      ⟨h, h'⟩ | ⟨v, v', h, h', hv⟩
    · rw [h, h']
      exact .raise _ _
    · rw [h, h']
      exact hv
  · exact .raise _ _

theorem same_mapItems (name : String) (cells : List Nat) (id : Ident) (i : Nat)
    (vs : List Value) :
    Same short (mapItems p rec name cells id i vs) (mapItems p rec' name cells id i vs) := by
  induction vs generalizing i with
  | nil => exact .pure _
  | cons v vs ih =>
    exact .bind (same_callValue p hrec hp _ _ _ _) fun _ => .bind (ih _) fun _ => .pure _

theorem same_mapFields (name : String) (cells : List Nat) (id : Ident)
    (fs : List (String × Value)) :
    Same short (mapFields p rec name cells id fs) (mapFields p rec' name cells id fs) := by
  induction fs with
  | nil => exact .pure _
  | cons f fs ih =>
    exact .bind (same_callValue p hrec hp _ _ _ _) fun _ => .bind ih fun _ => .pure _

theorem same_callBuiltin (id : Ident) (args : List Value) (fixed : Bool) :
    Same short (callBuiltin p rec id args fixed) (callBuiltin p rec' id args fixed) := by
  unfold callBuiltin
  refine .when (same_tick p 1) ?_
  split
  · exact .bind (same_log _) fun _ => .pure _
  · exact .bind (same_tick p _) fun _ => .bind (same_log _) fun _ => .pure _
  · exact .bind (same_log _) fun _ => .pure _
  · exact .bind (same_tick p _) fun _ => .bind (same_log _) fun _ => .pure _
  · split
    · exact .bind (same_mapItems p hrec hp _ _ _ _ _) fun _ =>
        .bind (same_bounded p _) fun _ => .pure _
    · exact .raise _ _
  · split
    · exact .bind (same_mapFields p hrec hp _ _ _ _) fun _ =>
        .bind (same_bounded p _) fun _ => .pure _
    · exact .raise _ _
  · split
    · refine .when (.raise _ _) (.bind (same_bounded p _) fun _ => ?_)
      dsimp only
      split
      · exact .bind (same_bounded p _) fun _ => .pure _
      · exact .pure _
    · exact .throw _
    · exact .raise _ _

theorem same_callNamed (id : Ident) (args : List Value) :
    Same short (callNamed p rec id args) (callNamed p rec' id args) := by
  unfold callNamed
  rcases same_callScript? p hrec hp id.name [] args (some id.pos) with
    ⟨h, h'⟩ | ⟨v, v', h, h', hv⟩
  · rw [h, h']
    exact same_callBuiltin p hrec hp id args false
  · rw [h, h']
    exact .bind hv fun _ => .pure _

theorem same_callMethod (target : Value) (fixed : Bool) (id : Ident) (args : List Value) :
    Same short (callMethod p rec target fixed id args)
      (callMethod p rec' target fixed id args) := by
  unfold callMethod
  dsimp only
  split
  · exact .bind (same_callValue p hrec hp _ _ _ _) fun _ => .pure _
  · split
    · exact .bind (same_callValue p hrec hp _ _ _ _) fun _ => .pure _
    · rcases same_callScript? p hrec hp id.name [] args (some id.pos) with
        ⟨h, h'⟩ | ⟨v, v', h, h', hv⟩
      · rw [h, h']
        exact same_callBuiltin p hrec hp id _ fixed
      · rw [h, h']
        exact .bind hv fun _ => .pure _

/-! ### places -/

omit hp in
theorem same_ready {s : Step} (hs : sparesStep short s = true) :
    Same short (ready p rec s) (ready p rec' s) := by
  cases s with
  | index i bracket =>
    exact .bind (same_tick p 1) fun _ => .bind (same_value p hrec hs) fun _ => .pure _
  | field id => exact .bind (same_tick p 1) fun _ => .pure _
  | method id args =>
    exact .bind (same_tick p 1) fun _ => .bind (same_arguments p hrec hs) fun _ => .pure _

omit hp in
theorem same_readyAll {ss : List Step} (hs : sparesSteps short ss = true) :
    Same short (readyAll p rec ss) (readyAll p rec' ss) := by
  induction ss with
  | nil => exact .pure _
  | cons s ss ih =>
    obtain ⟨hs, hss⟩ := Bool.and_eq_true_iff.mp hs
    exact .bind (same_ready p hrec hs) fun _ => .bind (ih hss) fun _ => .pure _

omit hp in
theorem same_readies {ss : List Step} (hs : sparesSteps short ss = true) :
    Same short (readies p rec ss) (readies p rec' ss) := by
  unfold readies
  split
  · exact .pure _
  · exact .pure _
  · split
    · exact .pure _
    · exact same_readyAll p hrec hs
  · exact same_readyAll p hrec hs

theorem same_walk (rs : List Ready) (v : Value) (fixed : Bool) :
    Same short (walk p rec rs v fixed) (walk p rec' rs v fixed) := by
  induction rs generalizing v fixed with
  | nil => exact .pure _
  | cons r rs ih =>
    cases r with
    | index i place bracket =>
      exact .bind (same_liftAt _ _ _ _) fun _ => .bind (ih _ _) fun _ => .pure _
    | field id => exact .bind (same_liftAt _ _ _ _) fun _ => .bind (ih _ _) fun _ => .pure _
    | method id args =>
      exact .bind (same_callMethod p hrec hp _ _ _ _) fun _ => .bind (ih _ _) fun _ => .pure _

theorem same_store (target : Target) (op : Option BinaryOp) (pos : Pos) (new : Value)
    (rs : List Ready) (v : Value) :
    Same short (store p rec target op pos new rs v) (store p rec' target op pos new rs v) := by
  induction rs generalizing v with
  | nil =>
    unfold store
    split
    · exact .raise _ _
    · exact same_assigned p op pos v new
  | cons r rs ih =>
    cases r with
    | index i place bracket =>
      unfold store
      dsimp only
      split
      · exact same_liftAt _ _ _ _
      · refine .bind (same_liftAt _ _ _ _) fun _ => .bind (ih _) fun _ =>
          .bind (same_liftAt _ _ _ _) fun _ => ?_
        split
        · exact same_bounded p _
        · exact .pure _
    | field id =>
      unfold store
      dsimp only
      split
      · exact .bind (same_liftAt _ _ _ _) fun _ => .when (.raise _ _) (same_bounded p _)
      · refine .bind (same_liftAt _ _ _ _) fun _ => .bind (ih _) fun _ =>
          .bind (same_liftAt _ _ _ _) fun _ => ?_
        split
        · exact same_bounded p _
        · exact .pure _
    | method id args =>
      exact .bind (same_callMethod p hrec hp _ _ _ _) fun _ => .bind (ih _) fun _ => .pure _

/-! ### loops -/

omit hp in
theorem same_turn {σ : Type} {body : Expr} (hb : spares short body = true) (next : σ) :
    Same short (turn p rec body next) (turn p rec' body next) := by
  refine .when (same_tick p 1) (.bind (.round (same_block p hrec hb)) fun v => ?_)
  cases v with
  | none => exact .pure _
  | some v => exact .pure _

omit hp in
theorem same_whileLoop {condition : Option Expr} {body : Expr}
    (hc : sparesOption short condition = true) (hb : spares short body = true) :
    Same short (whileLoop p rec condition body) (whileLoop p rec' condition body) := by
  refine .iterate (fun _ => ?_) _ _
  have again : ∀ goOn : Bool,
      Same short (if goOn then turn p rec body () else return .inl .unit)
        (if goOn then turn p rec' body () else return .inl .unit) := by
    intro goOn
    cases goOn with
    | true => exact same_turn p hrec hb ()
    | false => exact .pure _
  cases condition with
  | none => exact .bind (.pure true) again
  | some e => exact .bind (same_test p hrec hc) again

omit hp in
theorem same_forLoop (item : Ident) (counter : Option Ident) {source body : Expr}
    (hs : spares short source = true) (hb : spares short body = true) :
    Same short (forLoop p rec item counter source body)
      (forLoop p rec' item counter source body) := by
  refine .bind (same_checkRoom p _) fun _ => .bind (same_value p hrec hs) fun v => ?_
  split
  · exact .raise _ _
  · -- the counter decides what comes before the loop and what comes before each round
    cases counter with
    | none =>
      refine .within (.bind (same_bind _ _) fun _ => .iterate (fun s => ?_) _ _)
      dsimp only
      split
      · exact .pure _
      · exact .bind (same_write _ _) fun _ => same_turn p hrec hb _
    | some id =>
      refine .within (.bind (same_bind _ _) fun _ => .bind (same_bind _ _) fun _ =>
        .iterate (fun s => ?_) _ _)
      dsimp only
      split
      · exact .pure _
      · exact .bind (same_write _ _) fun _ => .bind (same_write _ _) fun _ =>
          same_turn p hrec hb _

/-! ### expressions -/

omit hp in
theorem same_joined (s : String) {es : List Expr} (hes : sparesAll short es = true) :
    Same short (joined p rec s es) (joined p rec' s es) := by
  induction es generalizing s with
  | nil => exact .pure _
  | cons e es ih =>
    obtain ⟨he, hes⟩ := Bool.and_eq_true_iff.mp hes
    refine .bind (same_value p hrec he) fun v => ?_
    split
    · exact .bind (same_checkSize p _) fun _ => ih _ hes
    · exact .bind (same_tick p _) fun _ => .bind (same_checkSize p _) fun _ => ih _ hes

omit hp in
theorem same_items (size : Value.Size) {es : List Expr} (hes : sparesAll short es = true) :
    Same short (items p rec size es) (items p rec' size es) := by
  induction es generalizing size with
  | nil => exact .pure _
  | cons e es ih =>
    obtain ⟨he, hes⟩ := Bool.and_eq_true_iff.mp hes
    exact .bind (same_value p hrec he) fun _ => .bind (same_checkSize p _) fun _ =>
      .bind (ih _ hes) fun _ => .pure _

omit hp in
theorem same_fields (size : Value.Size) {fs : List (Ident × Expr)}
    (hfs : sparesFields short fs = true) :
    Same short (fields p rec size fs) (fields p rec' size fs) := by
  induction fs generalizing size with
  | nil => exact .pure _
  | cons f fs ih =>
    obtain ⟨hf, hfs⟩ := Bool.and_eq_true_iff.mp hfs
    exact .bind (same_value p hrec hf) fun _ => .bind (same_checkSize p _) fun _ =>
      .bind (ih _ hfs) fun _ => .pure _

omit hp in
theorem same_logical (op : LogicalOp) {l r : Expr} (hl : spares short l = true)
    (hr : spares short r = true) :
    Same short (logical p rec op l r) (logical p rec' op l r) := by
  refine .bind (same_test p hrec hl) fun a => ?_
  split
  · exact .pure _
  · exact .pure _
  · exact .bind (same_test p hrec hr) fun _ => .pure _

theorem same_call (id : Ident) {args : List Expr} (ha : sparesAll short args = true) :
    Same short (call p rec id args) (call p rec' id args) := by
  refine .bind (same_arguments p hrec ha) fun vs => ?_
  split
  · exact same_callValue p hrec hp _ _ _ _
  · refine .bind (same_callNamed p hrec hp id _) fun answer => ?_
    dsimp only
    split
    · exact .bind (same_held p _) fun _ => .when (same_write _ _) (.pure _)
    · exact .pure _

theorem same_accessed {root : Expr} {steps : List Step} (hr : spares short root = true)
    (hs : sparesSteps short steps = true) :
    Same short (accessed p rec root steps) (accessed p rec' root steps) := by
  refine .bind (same_readies p hrec hs) fun rs => ?_
  split
  · refine .bind (same_tick p 1) fun _ => .bind (same_held p _) fun h =>
      .bind (same_walk p hrec hp _ _ _) fun r => ?_
    dsimp only
    split
    · exact .when (same_write _ _) (.pure _)
    · exact .pure _
  · exact .bind (same_value p hrec hr) fun _ =>
      .bind (same_walk p hrec hp _ _ _) fun _ => .pure _

theorem same_assign {target : Expr} (op : Option BinaryOp) {new : Expr} (pos : Pos)
    (ht : spares short target = true) (hn : spares short new = true) :
    Same short (assign p rec target op new pos) (assign p rec' target op new pos) := by
  refine .bind (same_value p hrec hn) fun v => ?_
  dsimp only
  split
  · exact .bind (same_tick p 1) fun _ => .bind (same_held p _) fun _ =>
      .bind (same_store p hrec hp _ _ _ _ _ _) fun _ => .bind (same_write _ _) fun _ => .pure _
  · obtain ⟨-, hs⟩ := Bool.and_eq_true_iff.mp ht
    exact .bind (same_readies p hrec hs) fun _ => .bind (same_tick p 1) fun _ =>
      .bind (same_held p _) fun _ => .bind (same_store p hrec hp _ _ _ _ _ _) fun _ =>
      .bind (same_write _ _) fun _ => .pure _
  · exact .bind (same_tick p 1) fun _ => .bind (same_constant p _ _) fun _ =>
      .bind (same_store p hrec hp _ _ _ _ _ _) fun _ => .pure _
  · obtain ⟨-, hs⟩ := Bool.and_eq_true_iff.mp ht
    exact .bind (same_readies p hrec hs) fun _ => .bind (same_tick p 1) fun _ =>
      .bind (same_constant p _ _) fun _ => .bind (same_store p hrec hp _ _ _ _ _ _) fun _ =>
      .pure _
  · exact .bind (.raise _ _) fun _ => .pure _

omit hp in
theorem same_taken {es : List Expr} (hes : sparesAll short es = true) :
    Same short (taken rec es) (taken rec' es) := by
  induction es with
  | nil => exact .pure _
  | cons e es ih =>
    obtain ⟨he, hes⟩ := Bool.and_eq_true_iff.mp hes
    unfold taken
    split
    · exact .pure _
    · rename_i h
      cases h
      exact .bind (same_share _) fun _ => .bind (ih hes) fun _ => .pure _
    · rename_i h
      cases h
      exact .bind (hrec e he) fun _ => .bind (same_allocate _) fun _ =>
        .bind (ih hes) fun _ => .pure _

omit hp in
theorem same_leave (exit : Exit) {e : Option Expr} (pos : Pos)
    (he : sparesOption short e = true) :
    Same short (leave p rec exit e pos) (leave p rec' exit e pos) := by
  cases e with
  | none =>
    cases exit with
    | raise => exact .raise _ _
    | _ => exact .throw _
  | some e =>
    refine .bind (same_value p hrec he) fun v => ?_
    cases exit with
    | raise => exact .raise _ _
    | _ => exact .throw _

omit hp in
theorem same_attempt {body handler : Expr} (caught : Option Ident)
    (hb : spares short body = true) (hh : spares short handler = true) :
    Same short (attempt p rec body caught handler) (attempt p rec' body caught handler) := by
  refine .tryCatch (same_block p hrec hb) fun s => ?_
  split
  · split
    · exact .throw _
    · refine .tryCatch (.within ?_) fun s => ?_
      · dsimp only
        split
        · exact .bind (same_checkRoom p _) fun _ => .bind (same_bind _ _) fun _ =>
            .bind (same_block p hrec hh) fun _ => .pure _
        · exact .bind (same_block p hrec hh) fun _ => .pure _
      · split
        · exact .throw _
        · exact .throw _
  · exact .throw _

omit hp in
theorem same_use {source : Expr} {called : Option Ident} (hs : spares short source = true)
    (hc : called.all (fun id => id.name != short) = true) :
    Same short (use p rec source called) (use p rec' source called) := by
  refine .get fun m _ => .when (.raise _ _) (.bind (same_value p hrec hs) fun v => ?_)
  split
  · split
    · exact .raise _ _
    · refine .bind (fun m hm => ⟨rfl, ?_⟩) fun _ => .pure _
      cases called with
      | none => exact hm
      | some id =>
        intro i hi
        rcases List.mem_cons.mp hi with rfl | hi
        · exact bne_iff_ne.mp hc
        · exact hm i hi
  · exact .raise _ _

/-- **One expression**, by two ways of evaluating what is inside it. -/
theorem same_eval {e : Expr} (he : spares short e = true) :
    Same short (eval p rec e) (eval p rec' e) := by
  cases e with
  | joined parts pos => exact same_joined p hrec "" he
  | name id => exact same_read p id
  | path space id => exact same_constant p space id
  | list es pos => exact .bind (same_items p hrec _ he) fun _ => .pure _
  | record fs pos => exact .bind (same_fields p hrec _ he) fun _ => .pure _
  | access root steps =>
    obtain ⟨hr, hs⟩ := Bool.and_eq_true_iff.mp he
    exact same_accessed p hrec hp hr hs
  | call space id args =>
    cases space with
    | nil => exact same_call p hrec hp id he
    | cons root rest => exact .bind (same_arguments p hrec he) fun _ => same_callSpace p _ _ _
  | unary op e pos =>
    exact .bind (same_argument p hrec he) fun _ => .when (same_tick p 1) (same_lift _ _)
  | binary op l r pos =>
    obtain ⟨hl, hr⟩ := Bool.and_eq_true_iff.mp he
    exact .bind (same_argument p hrec hl) fun _ => .bind (same_argument p hrec hr) fun _ =>
      .bind (same_tick p _) fun _ => .bind (same_lift _ _) fun _ => same_bounded p _
  | logical op l r pos =>
    obtain ⟨hl, hr⟩ := Bool.and_eq_true_iff.mp he
    exact same_logical p hrec op hl hr
  | closure fn es pos =>
    cases es with
    | nil => exact .pure _
    | cons e es =>
      exact .bind (same_tick p _) fun _ => .bind (same_taken hrec he) fun _ => .pure _
  | block body pos => exact same_block p hrec he
  | cond test yes no pos =>
    obtain ⟨ht, he⟩ := Bool.and_eq_true_iff.mp he
    obtain ⟨hy, hn⟩ := Bool.and_eq_true_iff.mp he
    refine .bind (same_test p hrec ht) fun b => ?_
    cases b with
    | true => exact same_block p hrec hy
    | false =>
      cases no with
      | none => exact .pure _
      | some no => exact same_block p hrec hn
  | loop test body pos =>
    obtain ⟨ht, hb⟩ := Bool.and_eq_true_iff.mp he
    exact same_whileLoop p hrec ht hb
  | forIn item counter source body pos =>
    obtain ⟨hs, hb⟩ := Bool.and_eq_true_iff.mp he
    exact same_forLoop p hrec item counter hs hb
  | declare id fixed value =>
    refine .bind (same_isDeclared _) fun b => .when (same_checkRoom p 1) ?_
    cases value with
    | none => exact .bind (.pure _) fun _ => .bind (same_declare _ _) fun _ => .pure _
    | some e =>
      exact .bind (same_value p hrec he) fun _ => .bind (same_declare _ _) fun _ => .pure _
  | assign target op value pos =>
    obtain ⟨ht, hv⟩ := Bool.and_eq_true_iff.mp he
    exact same_assign p hrec hp op pos ht hv
  | leave exit value pos => exact same_leave p hrec exit pos he
  | attempt body caught handler pos =>
    obtain ⟨hb, hh⟩ := Bool.and_eq_true_iff.mp he
    exact same_attempt p hrec caught hb hh
  | use source called pos =>
    obtain ⟨hs, hc⟩ := Bool.and_eq_true_iff.mp he
    exact same_use p hrec hs hc
  | _ => exact .pure _

end

/-! ## all expressions -/

section
variable (p : Program) (short : String) (denoted : Ident → Ident → Eval Value)

/-- expressions as `run` evaluates them, where a path of `short` alone stands for `denoted` -/
def reading : Nat → Expr → Eval Value
  | 0, _ => raise .exhausted none
  | n + 1, e =>
    match e with
    | .path [root] id =>
      if root.name = short then denoted root id else constant p [root] id
    | e => eval p (reading n) e

variable {p short denoted}

/-- **Running and reading do the same**, if `short` stands for what its paths come to. -/
theorem same_run (hp : ∀ f ∈ p.functions, spares short f.body = true)
    (hd : ∀ root id, root.name = short → Same short (constant p [root] id) (denoted root id))
    (n : Nat) (e : Expr) (he : spares short e = true) :
    Same short (run p n e) (reading p short denoted n e) := by
  -- both go one level down alike (`same_eval`), but for a path of `short` alone
  induction n generalizing e with
  | zero => exact .raise _ _
  | succ n ih =>
    unfold reading
    split
    · rename_i root id
      split
      · rename_i h
        exact hd root id h
      · exact same_constant p [root] id
    · exact same_eval p ih hp he

end

end Eval

/-! ## calls -/

/-- a call of a function by a way of evaluating expressions -/
def Program.callBy (p : Program) (rec : Expr → Eval Value) (f : Function) (args : List Value) :
    Program.Outcome :=
  let call : Eval Value := Eval.enter p rec f [] args fun fault =>
    if fault.root.1.isLimit then .raised fault.root.1 none else fault
  let (r, m) : Except Signal Value × Machine := call {}
  let result : Except Fault Value := match r with
    | .ok v => .ok v
    | .error (.fault fault) => .error fault
    | .error _ => .ok .unit
  ⟨result, m.events.toList⟩

theorem Program.call_eq (p : Program) (f : Function) (args : List Value) :
    p.call f args = p.callBy (Eval.run p Eval.bound) f args := rfl

/-- **Every call of a function ends as if it were read.**  A call starts without imports. -/
theorem call_reading {p : Program} {short : String} {denoted : Ident → Ident → Eval Value}
    (hp : ∀ f ∈ p.functions, spares short f.body = true)
    (hd : ∀ root id, root.name = short →
      Eval.Same short (Eval.constant p [root] id) (denoted root id))
    {f : Function} (hf : f ∈ p.functions) (args : List Value) :
    p.call f args = p.callBy (Eval.reading p short denoted Eval.bound) f args := by
  have free : Eval.Free short {} := fun i hi => absurd hi List.not_mem_nil
  have same := Eval.same_enter p (Eval.same_run hp hd Eval.bound) hp hf [] args
    (fun fault => if fault.root.1.isLimit then .raised fault.root.1 none else fault)
  rw [Program.call_eq, Program.callBy, Program.callBy, (same {} free).1]

end Scripting.Script
