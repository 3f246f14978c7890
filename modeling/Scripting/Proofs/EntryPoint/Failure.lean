import Scripting.Proofs.EntryPoint.Fallback

/-!
# What callers are told of a failure

A unit answers a call with a failure, which is a chain of links.  A caller by name is given the
whole chain, a caller of an entry point what lies behind its first link.

* `quoted`            the first two messages of a chain;
* `withTrace`         the message of one link and the trace of the same link;
* `failed_call`       a call by name that ends in a failure reports it whole;
* `failed_invoke`     an entry point that ends in a failure reports its cause, or a bare failure
                      itself, with its trace if it has one;
* `failure_told`      both, for one failure and every host that holds a unit.
-/

namespace Scripting

/-- the links of a failure, the outermost first -/
def Failure.links (f : Failure) : List Link := f.outer :: f.inner

/-- the failure that a script raised: the immediate cause, or a failure without one itself -/
def Failure.raised (f : Failure) : Failure := f.cause?.getD f

namespace HostFault

/-- the links of the failure behind a fault -/
def links : HostFault → List Link
  | .scriptRuntime _ (some f) => f.links
  | _ => []

end HostFault

namespace Running

def exception (l : Link) : String := "script execution failure - exception: \"" ++ l.message ++ "\""

def innerException (l : Link) : String := " - inner exception: \"" ++ l.message ++ "\""

/-- what is said of the first link of a chain and of the one behind it, and of no further one -/
def quoted : List Link → String
  | [] => ""
  | [l] => exception l
  | l :: m :: _ => exception l ++ innerException m

def stackTraceHeader : String := "\n\nStack trace (of expanded script):\n"

/-- the message of a link, and behind it the trace of the same link if it has one -/
def withTrace (l : Link) : String :=
  match l.trace with
  | some trace => l.message ++ stackTraceHeader ++ trace
  | none => l.message

/-! ## one failure -/

section
variable (f : Failure)

theorem executionFailure_eq : executionFailure f = .scriptRuntime (quoted f.links) (some f) := by
  obtain ⟨l, ls⟩ := f
  cases ls with
  | nil =>
    show HostFault.scriptRuntime (exception l ++ "") _ = .scriptRuntime (exception l) _
    rw [String.append_empty]
  | cons m ls => rfl

theorem entryPointFailure_eq :
    entryPointFailure f = .scriptRuntime (withTrace f.raised.outer) (some f.raised) := rfl

theorem raised_cons (l m : Link) (ls : List Link) : Failure.raised ⟨l, m :: ls⟩ = ⟨m, ls⟩ := rfl

theorem raised_bare (l : Link) : Failure.raised ⟨l, []⟩ = ⟨l, []⟩ := rfl

/-- what lies behind the first link is told exactly if there is something -/
theorem links_raised_eq_tail_iff : f.raised.links = f.links.tail ↔ f.inner ≠ [] := by
  obtain ⟨l, ls⟩ := f
  cases ls with
  | nil => simp [raised_bare, Failure.links]
  | cons m ls => simp [raised_cons, Failure.links]

/-- a trace is always visible, because a header stands before it -/
theorem withTrace_eq_message_iff (l : Link) : withTrace l = l.message ↔ l.trace = none := by
  unfold withTrace
  cases h : l.trace with
  | none => simp
  | some trace =>
    have hlen : stackTraceHeader.length ≠ 0 := by decide
    refine iff_of_false (fun he => ?_) (by simp)
    have hl := congrArg String.length he
    simp only [String.length_append] at hl
    omega

end

/-! ## calls that end in a failure -/

/-- the last call that reached a unit ended in a failure -/
def EndsIn (u : CompiledUnit) (t : Trace) (f : Failure) : Prop :=
  last? u t.calls = some (.error (.invocation f))

section
variable (u : CompiledUnit) (fingerprint : UInt64) (space owner method : String) {f : Failure}

theorem failed_call {args : List Data}
    (hf : EndsIn u ((ofUnit u fingerprint).invokeWith space owner method args).2 f) :
    ((ofUnit u fingerprint).invokeWith space owner method args).1 = .error (executionFailure f) := by
  unfold EndsIn at hf
  cases hx : Export.first? u.exports (QualifiedName.inNamespace space owner) method args.length with
  | none =>
    rw [calls_of_no_first u fingerprint hx] at hf
    cases hf
  | some x =>
    rw [invokeWith_of_first fingerprint hx] at hf ⊢
    have hr : (u.call x args).result = .error (.invocation f) := Option.some_inj.mp hf
    rw [hr]
    rfl

theorem failed_invoke
    (hf : EndsIn u ((ofUnit u fingerprint).invokeEntry space owner method).2 f) :
    ((ofUnit u fingerprint).invokeEntry space owner method).1 = .error (entryPointFailure f) := by
  unfold EndsIn at hf
  by_cases ho : Export.overloads u.exports (QualifiedName.inNamespace space owner) method = []
  · rw [invokeEntry_of_no_overloads u fingerprint space owner method ho] at hf
    cases hf
  · have he := invokeEntry_of_overloads u fingerprint space owner method ho
    obtain ⟨hc, hr⟩ := fallback_callFirst u owner method
      (Export.first? u.exports (QualifiedName.inNamespace space owner) method 1)
      (Export.first? u.exports (QualifiedName.inNamespace space owner) method 0)
    rw [he, hc] at hf
    rw [he, hr, hf]
    rfl

end

end Running

open Running (EndsIn quoted withTrace)

/-- **What callers are told of one failure**, for every host that holds a unit.  A caller by name is
told the messages of its first two links and given the whole chain.  A caller of an entry point is
given the chain behind the first link, if there is one, and told the message of the link that comes
first then, with the trace of that link and of no other.  So a bare failure is told by its message
alone exactly if it has no trace. -/
theorem failure_told (h : Host) (u : CompiledUnit) (fingerprint : UInt64) (owner method : String)
    (f : Failure) :
    let h := { h with running? := some (Running.ofUnit u fingerprint) }
    let toCaller := HostFault.scriptRuntime (quoted f.links) (some f)
    let raised := f.cause?.getD f
    let toEntry := HostFault.scriptRuntime (withTrace raised.outer) (some raised)
    (∀ args, EndsIn u (h.call owner method args).2 f →
      (h.call owner method args).1 = .error toCaller) ∧
    (EndsIn u (h.invoke owner method).2 f → (h.invoke owner method).1 = .error toEntry) ∧
    toCaller.links = f.links ∧
    (toEntry.links = toCaller.links.tail ↔ f.inner ≠ []) ∧
    (f.inner = [] → raised = f ∧ (toEntry.message = f.message ↔ f.trace = none)) := by
  intro h toCaller raised toEntry
  refine ⟨fun args hf => ?_, fun hf => ?_, rfl, Running.links_raised_eq_tail_iff f, fun hbare => ?_⟩
  · have hc := Running.failed_call u fingerprint h.space owner method hf
    rw [Running.executionFailure_eq] at hc
    exact hc
  · have he := Running.failed_invoke u fingerprint h.space owner method hf
    rw [Running.entryPointFailure_eq] at he
    exact he
  · obtain ⟨l, ls⟩ := f
    obtain rfl : ls = [] := hbare
    exact ⟨rfl, Running.withTrace_eq_message_iff l⟩

/-- a unit with one method, each call of which ends in a failure -/
def failing (f : Failure) : CompiledUnit where
  exports := [⟨QualifiedName.inNamespace "N" "M", "F", 0, "M__F"⟩]
  call _ _ := ⟨.error (.invocation f), []⟩

theorem endsIn_failing {f : Failure} {t : Trace} (h : t.calls ≠ []) : EndsIn (failing f) t f := by
  unfold EndsIn Running.last?
  rw [List.getLast?_eq_some_getLast h]
  rfl

/-- a host in the namespace `N` that holds such a unit -/
def failingHost (f : Failure) : Host :=
  let h := (Host.create ⟨"", fun _ => true, id, fun _ _ => ⟨.error (.unavailable ""), []⟩⟩ "" "N").1
  { h with running? := some (Running.ofUnit (failing f) 0) }

/-- three links, of which the last two have traces -/
def threeLinks : Failure :=
  ⟨⟨"in call", none⟩, [⟨"raised", some "at F"⟩, ⟨"root", some "at G"⟩]⟩

theorem failure_told_threeLinks :
    let h := failingHost threeLinks
    EndsIn (failing threeLinks) (h.call "M" "F" []).2 threeLinks ∧
      EndsIn (failing threeLinks) (h.invoke "M" "F").2 threeLinks ∧
      (h.call "M" "F" []).1 = .error (.scriptRuntime
        "script execution failure - exception: \"in call\" - inner exception: \"raised\""
        (some threeLinks)) ∧
      (h.invoke "M" "F").1 = .error (.scriptRuntime
        "raised\n\nStack trace (of expanded script):\nat F"
        (some ⟨⟨"raised", some "at F"⟩, [⟨"root", some "at G"⟩]⟩)) := by
  intro h
  obtain ⟨hcall, hinvoke, -⟩ := failure_told h (failing threeLinks) 0 "M" "F" threeLinks
  have ends : EndsIn (failing threeLinks) (h.call "M" "F" []).2 threeLinks :=
    endsIn_failing (by decide +kernel)
  have endsEntry : EndsIn (failing threeLinks) (h.invoke "M" "F").2 threeLinks :=
    endsIn_failing (by decide +kernel)
  exact ⟨ends, endsEntry, hcall [] ends, hinvoke endsEntry⟩

/-- a bare failure with a trace is not told by its message alone -/
theorem invoke_bare_trace :
    let f : Failure := ⟨⟨"stopped", some "   at M__F line 3"⟩, []⟩
    ¬ (f.cause? = none → ∀ fault, ((failingHost f).invoke "M" "F").1 = .error fault →
      fault.message = f.message) := by
  intro f claim
  have answered : ((failingHost f).invoke "M" "F").1 = .error (.scriptRuntime
      "stopped\n\nStack trace (of expanded script):\n   at M__F line 3" (some f)) := by
    decide +kernel
  exact absurd (claim rfl _ answered) (by decide)

end Scripting
