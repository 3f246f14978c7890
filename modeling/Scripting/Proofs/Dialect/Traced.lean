import Scripting.Dialect.Standard
import Scripting.Host

/-!
# What a trace lists

A fault leaves the active calls one by one, from the innermost out, and is wrapped for each call
that it leaves.  Whether it is wrapped for the outermost one, the call of the host, is up to the
engine.

* `leaving`             a fault that has left some calls;
* `reached`             the active calls, each with the place that it has come to;
* `nested_leaving`      the lines of the calls that a fault was wrapped for;
* `conclude_leaving`    the failure that a caller is told of.  It lists every active call if the
                        fault is wrapped for all of them, and also if it is wrapped for all but the
                        outermost one, unless the next one is a call of the same function;
* `conclude_recursive`  such a call is left out of the list.
-/

namespace Scripting

namespace Script.Fault

/-- a call that has not returned: of which function, and where it was made -/
structure Activation where
  name : String
  made : Option Pos

/-- a fault that has left some calls, the outermost first -/
def leaving (calls : List Activation) (f : Fault) : Fault :=
  calls.foldr (fun a inner => inCall a.name inner a.made) f

/-- The active calls, the outermost first, which is of `name`.  Each has come to the place where it
made the next one, and the innermost to `p`. -/
def reached (name : String) : List Activation → Option Pos → List (String × Option Pos)
  | [], p => [(name, p)]
  | a :: calls, p => (name, a.made) :: reached a.name calls p

/-- the lines of a trace of some calls, the outermost first -/
def lines (calls : List (String × Option Pos)) : List String :=
  (calls.map fun a => frame a.1 a.2).reverse

/-- whether the outermost of some calls is of `name` -/
def Begins (name : String) (calls : List Activation) : Prop := calls.head?.map (·.name) = some name

instance (name : String) (calls : List Activation) : Decidable (Begins name calls) :=
  inferInstanceAs (Decidable (_ = _))

theorem lines_cons (a : String × Option Pos) (calls : List (String × Option Pos)) :
    lines (a :: calls) = lines calls ++ [frame a.1 a.2] := by
  unfold lines
  rw [List.map_cons, List.reverse_cons]

section
variable (cause : Cause) (p : Option Pos)

theorem length_reached (name : String) (calls : List Activation) :
    (reached name calls p).length = calls.length + 1 := by
  induction calls generalizing name with
  | nil => rfl
  | cons a calls ih =>
    rw [reached, List.length_cons, List.length_cons, ih]

theorem root_leaving (calls : List Activation) :
    (leaving calls (raised cause p)).root = (cause, p) := by
  induction calls with
  | nil => rfl
  | cons a calls ih => exact ih

theorem describe_leaving (calls : List Activation) :
    (leaving calls (raised cause p)).describe = (raised cause p).describe := by
  unfold describe
  rw [root_leaving]
  rfl

/-- the outermost call has come to the place where the fault is -/
theorem reached_eq (name : String) (calls : List Activation) :
    reached name calls p =
      (name, (leaving calls (raised cause p)).pos) :: (reached name calls p).tail := by
  cases calls with
  | nil => rfl
  | cons a calls => rfl

theorem nested_leaving (a : Activation) (calls : List Activation) :
    (leaving (a :: calls) (raised cause p)).nested = lines (reached a.name calls p) := by
  induction calls generalizing a with
  | nil => rfl
  | cons b calls ih =>
    have inner := ih b
    have hpos : (leaving (b :: calls) (raised cause p)).pos = b.made := rfl
    rw [show leaving (a :: b :: calls) (raised cause p) =
      inCall a.name (leaving (b :: calls) (raised cause p)) a.made from rfl,
      nested_inCall, inner, hpos, reached, lines_cons]

/-- the lines of the calls that a fault was wrapped for, which are all but the outermost -/
theorem nested_eq_tail (name : String) (calls : List Activation) :
    (leaving calls (raised cause p)).nested = lines (reached name calls p).tail := by
  cases calls with
  | nil => rfl
  | cons a calls => exact nested_leaving cause p a calls

theorem isWrappedFor_leaving (name : String) (calls : List Activation) :
    (leaving calls (raised cause p)).isWrappedFor name = true ↔ Begins name calls := by
  cases calls with
  | nil => exact iff_of_false nofun nofun
  | cons a calls =>
    have wrapped : (leaving (a :: calls) (raised cause p)).isWrappedFor name = (a.name == name) :=
      rfl
    rw [wrapped, beq_iff_eq, Begins, List.head?_cons, Option.map_some, Option.some_inj]

/-- the lines of a trace: those of all active calls, or of all but the outermost -/
theorem frames_leaving (name : String) (calls : List Activation) :
    (leaving calls (raised cause p)).frames name =
      lines (if Begins name calls then (reached name calls p).tail else reached name calls p) := by
  unfold frames
  by_cases hb : Begins name calls
  · rw [if_pos hb, if_pos ((isWrappedFor_leaving cause p name calls).mpr hb)]
    exact nested_eq_tail cause p name calls
  · rw [if_neg hb, if_neg (mt (isWrappedFor_leaving cause p name calls).mp hb),
      nested_eq_tail cause p name, reached_eq cause p name calls, lines_cons]
    rfl

/-- a list of lines without the last one makes another text -/
theorem intercalate_concat_ne {before : List String} (h : before ≠ []) (line : String) :
    "\n".intercalate (before ++ [line]) ≠ "\n".intercalate before := by
  intro e
  rw [String.intercalate_append_of_ne_nil h (List.cons_ne_nil line [])] at e
  have hsize := congrArg String.length e
  rw [String.length_append, String.length_append] at hsize
  have hlf : "\n".length = 1 := rfl
  omega

theorem lines_tail_ne {name : String} {calls : List Activation} (h : Begins name calls) :
    "\n".intercalate (lines (reached name calls p)) ≠
      "\n".intercalate (lines (reached name calls p).tail) := by
  cases calls with
  | nil => cases h
  | cons a calls =>
    rw [reached, lines_cons, List.tail_cons]
    refine intercalate_concat_ne (fun hn => ?_) _
    have hlen := congrArg List.length hn
    rw [lines, List.length_reverse, List.length_map, length_reached] at hlen
    cases hlen

end

end Script.Fault

namespace Dialect.Scripted

open Script (Border Cause Fault Pos)
open Script.Fault

/-- the failure of a call of `symbol` with what is said of the fault and some calls in its trace -/
def told (symbol said : String) (calls : List (String × Option Pos)) : Failure :=
  .causedBy ⟨"error in call to function '" ++ symbol ++ "'", none⟩
    ⟨⟨said, some ("\n".intercalate (lines calls))⟩, []⟩

theorem told_inj {symbol said : String} {calls calls' : List (String × Option Pos)} :
    told symbol said calls = told symbol said calls' ↔
      "\n".intercalate (lines calls) = "\n".intercalate (lines calls') := by
  unfold told Failure.causedBy
  simp

theorem conclude_eq (b : Border) (symbol : String) (f : Fault) :
    conclude b symbol (.error f) = .error (.invocation (f.failure symbol)) := rfl

/-- **The failure of a call that a fault ended**, for every chain of active calls, whatever their
functions are called.  A fault that is wrapped for all calls, and one that is wrapped for all but
the outermost, end in one failure, whose trace has a line for each active call; but if the fault is
wrapped for all but the outermost, and the outermost function called itself, then the line of the
outermost call is missing. -/
theorem conclude_leaving (b : Border) (symbol : String) (calls : List Activation)
    (outer : Option Pos) (cause : Cause) (p : Option Pos) :
    let fault := raised cause p
    let active := reached symbol calls p
    let whole := told symbol fault.describe active
    let answer (f : Fault) := conclude b symbol (.error f)
    active.length = calls.length + 1 ∧
    answer (leaving (⟨symbol, outer⟩ :: calls) fault) = .error (.invocation whole) ∧
    (answer (leaving calls fault) = .error (.invocation whole) ↔ ¬ Begins symbol calls) ∧
    answer (leaving calls fault) = .error (.invocation
      (told symbol fault.describe (if Begins symbol calls then active.tail else active))) := by
  intro fault active whole answer
  have hanswer : ∀ inner, answer (leaving inner fault) = .error (.invocation
      (told symbol fault.describe
        (if Begins symbol inner then (reached symbol inner p).tail else reached symbol inner p))) := by
    intro inner
    have hf : (leaving inner fault).failure symbol = told symbol fault.describe
        (if Begins symbol inner then (reached symbol inner p).tail
          else reached symbol inner p) := by
      unfold Fault.failure told
      rw [frames_leaving, describe_leaving]
    exact (conclude_eq b symbol _).trans (by rw [hf])
  refine ⟨length_reached p symbol calls, ?_, ?_, hanswer calls⟩
  · -- the outermost call is among those that the fault was wrapped for
    have hall := hanswer (⟨symbol, outer⟩ :: calls)
    rwa [if_pos (show Begins symbol (⟨symbol, outer⟩ :: calls) from rfl), reached,
      List.tail_cons] at hall
  · rw [hanswer calls]
    by_cases hb : Begins symbol calls
    · rw [if_pos hb]
      refine iff_of_false (fun e => ?_) (not_not_intro hb)
      have hsame := told_inj.mp (CallFault.invocation.inj (Except.error.inj e))
      exact lines_tail_ne p hb hsame.symm
    · rw [if_neg hb]
      exact iff_of_true rfl hb

/-- a function that calls itself in its third line, and throws in its second -/
def recursive : List Command :=
  [.setSource "fn M__F(n) \x7b\n  if n == 0 \x7b throw \"boom\" \x7d\n  M__F(n - 1)\n\x7d",
    .compile]

/-- the trace of the immediate cause of a failure that a call reports -/
def traced? : Except HostFault Data × Trace → Option String
  | (.error (.scriptRuntime _ (some f)), _) => f.cause?.bind (·.trace)
  | _ => none

/-- of a function that calls itself once, and of the fault that it throws then, only the inner call
is listed; two lines of imports stand before the script -/
theorem conclude_recursive :
    let calls : List Activation := [⟨"M__F", some ⟨5, 3⟩⟩]
    let thrown := raised (.thrown (.text "boom")) (some ⟨4, 15⟩)
    let active := [("M__F", some (⟨5, 3⟩ : Pos)), ("M__F", some ⟨4, 15⟩)]
    let h := ((Host.create (Dialect.standard {} .plain) "Rhai" "N").1.run recursive).1
    reached "M__F" calls thrown.pos = active ∧
      "\n".intercalate (lines active) = "   at M__F line 4\n   at M__F line 5" ∧
      conclude .standard "M__F" (.error (leaving calls thrown)) ≠
        .error (.invocation (told "M__F" "boom" active)) ∧
      traced? (h.call "M" "F" [.int 1]) = some "   at M__F line 4" := by
  intro calls thrown active h
  have missing : ((leaving calls thrown).failure "M__F").cause?.bind (·.trace) =
      some "   at M__F line 4" := by decide +kernel
  refine ⟨rfl, by decide +kernel, fun e => ?_, by decide +kernel⟩
  have same : (leaving calls thrown).failure "M__F" = told "M__F" "boom" active :=
    CallFault.invocation.inj (Except.error.inj e)
  rw [same] at missing
  exact absurd missing (by decide +kernel)

end Dialect.Scripted

end Scripting
