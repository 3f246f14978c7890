import Scripting.Proofs.EntryPoint.Scan

/-!
# Calls of an entry point

An entry point is called with one empty list, and without arguments if that does not fit.

* `missed`                  that a call does not fit: there is no overload, or the unit says so;
* `entryCalls`              the calls that are made, at most two;
* `invokeEntry_overloads`   they are made, and the last of them decides;
* `missed_last`             that none of them fits;
* `invoke_protocol`         all of it, for every host that holds a unit.
-/

namespace Scripting

namespace Running

/-- whether a call does not fit: there is nothing to call, or the unit says so -/
def missed : Option (Except CallFault Data) → Bool
  | none | some (.error (.parameterCount _)) => true
  | _ => false

section
variable (u : CompiledUnit) (one? zero? : Option Export)

/-- how the call of an export ends, if there is one -/
def ended? (x? : Option Export) (args : List Data) : Option (Except CallFault Data) :=
  x?.map fun x => (u.call x args).result

/-- the calls of an entry point that has an overload for one list and one for nothing, or not -/
def entryCalls : List (Export × List Data) :=
  one?.toList.map (·, [.list []]) ++
    if missed (ended? u one? [.list []]) then zero?.toList.map (·, []) else []

/-- how the last of some calls ends -/
def last? (calls : List (Export × List Data)) : Option (Except CallFault Data) :=
  calls.getLast?.map fun c => (u.call c.1 c.2).result

theorem length_entryCalls : (entryCalls u one? zero?).length ≤ 2 := by
  unfold entryCalls
  cases one? <;> cases zero? <;> split <;> simp

/-- the last call does not fit exactly if neither would -/
theorem missed_last : missed (last? u (entryCalls u one? zero?)) =
    (missed (ended? u one? [.list []]) && missed (ended? u zero? [])) := by
  unfold entryCalls
  cases h : missed (ended? u one? [.list []]) with
  | false =>
    cases one? with
    | none => cases h
    | some x => simpa [last?, ended?] using h
  | true =>
    cases zero? with
    | none =>
      cases one? with
      | none => rfl
      | some x => simpa [last?, ended?, missed] using h
    | some y => simp [last?, ended?]

end

/-- what two attempts at an entry point come to: the second one counts if the first did not fit -/
def fallback (owner method : String) (first second : Except CallFault Data × Trace) :
    Except HostFault Unit × Trace :=
  match first with
  | (.error (.parameterCount _), trace) =>
    (concludeEntry owner method second.1, trace ++ Trace.log [.retrying owner method] ++ second.2)
  | (result, trace) => (concludeEntry owner method result, trace)

/-- a first attempt that fits is the only one -/
theorem fallback_of_fits (owner method : String) {first : Except CallFault Data × Trace}
    (h : ∀ n, first.1 ≠ .error (.parameterCount n)) (second : Except CallFault Data × Trace) :
    fallback owner method first second = (concludeEntry owner method first.1, first.2) := by
  unfold fallback
  split
  · rename_i n _
    exact absurd rfl (h n)
  · rfl

section
variable (u : CompiledUnit) (fingerprint : UInt64) (space owner method : String)

theorem invokeEntry_of_no_overloads
    (h : Export.overloads u.exports (QualifiedName.inNamespace space owner) method = []) :
    (ofUnit u fingerprint).invokeEntry space owner method =
      (.error (.entryPointNotFound owner method), {}) := by
  have hm := Table.methods_ofExports u.exports (QualifiedName.inNamespace space owner) method
  rw [h, Export.any?_nil] at hm
  rw [invokeEntry, show (ofUnit u fingerprint).table = Table.ofExports u.exports from rfl, hm]

/-- an entry point that is there is attempted with one list and with nothing -/
theorem invokeEntry_of_overloads
    (h : Export.overloads u.exports (QualifiedName.inNamespace space owner) method ≠ []) :
    let name := QualifiedName.inNamespace space owner
    (ofUnit u fingerprint).invokeEntry space owner method =
      fallback owner method
        (callFirst u (Export.first? u.exports name method 1) [.list []])
        (callFirst u (Export.first? u.exports name method 0) []) := by
  intro name
  have hm := Table.methods_ofExports u.exports name method
  rw [Export.any?_of_ne_nil h] at hm
  rw [invokeEntry, show (ofUnit u fingerprint).table = Table.ofExports u.exports from rfl, hm]
  rfl

/-- of the calls that two attempts make the last one decides; where there is none, nothing fits -/
theorem fallback_callFirst (one? zero? : Option Export) :
    let calls := entryCalls u one? zero?
    let answer := fallback owner method (callFirst u one? [.list []]) (callFirst u zero? [])
    answer.2.calls = calls ∧
      answer.1 = concludeEntry owner method ((last? u calls).getD (.error (.parameterCount 0))) := by
  cases one? with
  | none =>
    cases zero? <;> simp [fallback, callFirst, entryCalls, ended?, missed, last?, Trace.log]
  | some x =>
    rcases hr : (u.call x [.list []]).result with fault | v
    · cases fault with
      | parameterCount n =>
        cases zero? <;>
          simp [fallback, callFirst, entryCalls, ended?, missed, last?, Trace.log, hr, concludeEntry]
      | invocation f => simp [fallback, callFirst, entryCalls, ended?, missed, last?, hr]
      | other m => simp [fallback, callFirst, entryCalls, ended?, missed, last?, hr]
    · simp [fallback, callFirst, entryCalls, ended?, missed, last?, hr]

end

/-! ## what the last call decides -/

section
variable {owner method : String}

/-- where no call fits, no signature is found -/
theorem concludeEntry_signatureNotFound_iff (last : Option (Except CallFault Data)) :
    concludeEntry owner method (last.getD (.error (.parameterCount 0))) =
      .error (.signatureNotFound owner method) ↔ missed last = true := by
  rcases last with _ | (_ | _ | _) | _ <;> simp [concludeEntry, missed, entryPointFailure]

theorem concludeEntry_ok_iff (last : Option (Except CallFault Data)) :
    concludeEntry owner method (last.getD (.error (.parameterCount 0))) = .ok () ↔
      ∃ v, last = some (.ok v) := by
  rcases last with _ | (_ | _ | _) | _ <;> simp [concludeEntry]

theorem concludeEntry_scriptRuntime_iff (last : Option (Except CallFault Data)) :
    (∃ message source, concludeEntry owner method (last.getD (.error (.parameterCount 0))) =
      .error (.scriptRuntime message source)) ↔ ∃ f, last = some (.error (.invocation f)) := by
  rcases last with _ | (_ | _ | _) | _ <;> simp [concludeEntry, entryPointFailure]

theorem concludeEntry_other_iff (last : Option (Except CallFault Data)) (message : String) :
    concludeEntry owner method (last.getD (.error (.parameterCount 0))) =
      .error (.call (.other message)) ↔ last = some (.error (.other message)) := by
  rcases last with _ | (_ | _ | _) | _ <;> simp [concludeEntry, entryPointFailure]

/-- a call that does not fit is no answer of its own, and a method that is there is found -/
theorem concludeEntry_error {result : Except CallFault Data} {fault : HostFault}
    (h : concludeEntry owner method result = .error fault) :
    fault = .signatureNotFound owner method ∨ fault.isScriptRuntime = true ∨
      ∃ message, fault = .call (.other message) := by
  rcases result with (n | f | message) | v
  · exact .inl (Except.error.inj h).symm
  · exact .inr (.inl (Except.error.inj h ▸ rfl))
  · exact .inr (.inr ⟨message, (Except.error.inj h).symm⟩)
  · cases h

end

end Running

/-- **The calls of an entry point**, for every host that holds a unit.  The first export with one
parameter is called with one empty list; the first without parameters is called only if that one
does not fit.  The last call that is made decides how the host answers. -/
theorem invoke_protocol (h : Host) (u : CompiledUnit) (fingerprint : UInt64)
    (owner method : String) :
    let h := { h with running? := some (Running.ofUnit u fingerprint) }
    let name := QualifiedName.inNamespace h.space owner
    let first (n : Nat) := u.exports.find? fun x =>
      x.home.key == name.key && (x.name == method && x.arity == n)
    let one := (first 1).map fun x => (u.call x [.list []]).result
    let zero := (first 0).map fun x => (u.call x []).result
    let notFound := ∀ x ∈ u.exports, x.home.key = name.key → x.name ≠ method
    let answer := h.invoke owner method
    let last := answer.2.calls.getLast?.map fun c => (u.call c.1 c.2).result
    answer.2.calls = (first 1).toList.map (·, [.list []]) ++
      (if Running.missed one then (first 0).toList.map (·, []) else []) ∧
    answer.2.calls.length ≤ 2 ∧
    (answer.1 = .ok () ↔ ∃ v, last = some (.ok v)) ∧
    (answer.1 = .error (.entryPointNotFound owner method) ↔ notFound) ∧
    (answer.1 = .error (.signatureNotFound owner method) ↔
      ¬ notFound ∧ Running.missed one ∧ Running.missed zero) ∧
    ((∃ message source, answer.1 = .error (.scriptRuntime message source)) ↔
      ∃ f, last = some (.error (.invocation f))) ∧
    (∀ message, answer.1 = .error (.call (.other message)) ↔
      last = some (.error (.other message))) ∧
    ∀ fault, answer.1 = .error fault →
      fault = .entryPointNotFound owner method ∨ fault = .signatureNotFound owner method ∨
        fault.isScriptRuntime = true ∨ ∃ message, fault = .call (.other message) := by
  intro h name first one zero notFound answer last
  have hfirst : ∀ n, first n = Export.first? u.exports name method n := fun n =>
    (Export.first?_eq_find? u.exports name method n).symm
  by_cases ho : Export.overloads u.exports name method = []
  · have ha : answer = (.error (.entryPointNotFound owner method), {}) :=
      Running.invokeEntry_of_no_overloads u fingerprint h.space owner method ho
    have hl : last = Running.last? u answer.2.calls := rfl
    rw [ha] at hl
    have hn : ∀ n, first n = none := fun n =>
      (hfirst n).trans (Export.first?_of_overloads ho n)
    have hnot : notFound := Export.overloads_eq_nil_iff.mp ho
    rw [hl, ha]
    simp [Running.last?, hn, hnot]
  · have ha : answer = Running.fallback owner method _ _ :=
      Running.invokeEntry_of_overloads u fingerprint h.space owner method ho
    obtain ⟨hc, hr⟩ := Running.fallback_callFirst u owner method
      (Export.first? u.exports name method 1) (Export.first? u.exports name method 0)
    rw [← ha, ← hfirst, ← hfirst] at hc hr
    have hl : last = Running.last? u (Running.entryCalls u (first 1) (first 0)) := by
      rw [show last = Running.last? u answer.2.calls from rfl, hc]
    have hnot : ¬ notFound := mt Export.overloads_eq_nil_iff.mpr ho
    rw [hr, ← hl]
    refine ⟨hc, ?_, ?_, ?_, ?_, ?_, ?_, ?_⟩
    · rw [hc]
      exact Running.length_entryCalls ..
    · exact Running.concludeEntry_ok_iff last
    · refine iff_of_false (fun he => ?_) hnot
      rcases Running.concludeEntry_error he with hs | hs | ⟨_, hs⟩ <;> cases hs
    · rw [Running.concludeEntry_signatureNotFound_iff, hl, Running.missed_last, Bool.and_eq_true]
      exact ⟨fun hm => ⟨hnot, hm⟩, fun hm => hm.2⟩
    · exact Running.concludeEntry_scriptRuntime_iff last
    · exact Running.concludeEntry_other_iff last
    · exact fun fault hf => .inr (Running.concludeEntry_error hf)

end Scripting
