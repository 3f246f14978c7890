import Mathlib.Data.List.Forall2
import Scripting.Proofs.EntryPoint.Fallback
import Scripting.Proofs.Text.Lowercase

/-!
# Modules in other spellings

A module is asked for by a text, and found by the key of its name.

* `key_congr`           texts that differ in the case of letters only have one key in any namespace;
* `key_eq_iff`          for texts of ASCII there is no other way to have one key;
* `call_respelled`, `invoke_respelled`   what is found under one text is found under the other, and
                        a fault that says that something is not there quotes the text asked for;
* `home_of_call`, `home_of_invoke`       nothing is called whose module has another key;
* `lookup_respelled`    all of it, for every host that holds a unit.
-/

namespace Scripting

open Text (SameLetters IsAscii)

/-! ## keys -/

namespace QualifiedName

/-- what stands before the name of a module in a namespace -/
def lead (space : String) : String :=
  if (segments space).isEmpty then "" else ".".intercalate (segments space) ++ "."

theorem display_inNamespace (space owner : String) :
    (inNamespace space owner).display = lead space ++ owner := by
  unfold display lead
  rw [inNamespace_path, inNamespace_name]
  split
  · exact String.empty_append.symm
  · rfl

variable {owner owner' : String} (space : String)

theorem key_congr (h : SameLetters owner owner') :
    (inNamespace space owner).key = (inNamespace space owner').key := by
  unfold key
  rw [display_inNamespace, display_inNamespace]
  exact Text.lowercase_congr (h.append_left _)

theorem key_eq_iff (ascii : IsAscii owner) (ascii' : IsAscii owner') :
    (inNamespace space owner).key = (inNamespace space owner').key ↔ SameLetters owner owner' := by
  unfold key
  rw [display_inNamespace, display_inNamespace]
  exact Text.lowercase_append_iff ascii ascii' _

end QualifiedName

/-! ## what is quoted -/

/-- a fault that says that something is not there, with another module in the place of its own -/
def HostFault.quoting (space owner : String) : HostFault → HostFault
  | .typeNotFound _ => .typeNotFound (QualifiedName.inNamespace space owner).display
  | .entryPointNotFound _ method => .entryPointNotFound owner method
  | .signatureNotFound _ method => .signatureNotFound owner method
  | fault => fault

/-- one event, up to the module in the note of a second attempt -/
inductive Event.Respelled (owner owner' : String) : Event → Event → Prop
  | same (e : Event) : Respelled owner owner' e e
  | retrying (method : String) :
      Respelled owner owner' (.retrying owner method) (.retrying owner' method)

/-- the same happened, up to the module in such a note -/
structure Trace.Respelled (owner owner' : String) (s t : Trace) : Prop where
  notices : t.notices = s.notices
  calls : t.calls = s.calls
  requests : t.requests = s.requests
  events : s.events.Forall₂ (Event.Respelled owner owner') t.events

namespace Trace.Respelled

variable {owner owner' : String}

theorem refl (t : Trace) : Respelled owner owner' t t :=
  ⟨rfl, rfl, rfl, List.forall₂_same.mpr fun e _ => .same e⟩

theorem append {s t s' t' : Trace} (h : Respelled owner owner' s t)
    (h' : Respelled owner owner' s' t') : Respelled owner owner' (s ++ s') (t ++ t') where
  notices := by rw [append_notices, append_notices, h.notices, h'.notices]
  calls := by rw [append_calls, append_calls, h.calls, h'.calls]
  requests := by rw [append_requests, append_requests, h.requests, h'.requests]
  events := by
    rw [append_events, append_events]
    exact List.rel_append h.events h'.events

theorem log_retrying (method : String) :
    Respelled owner owner' (log [.retrying owner method]) (log [.retrying owner' method]) :=
  ⟨rfl, rfl, rfl, .cons (.retrying method) .nil⟩

end Trace.Respelled

namespace Running

/-! ## both forms of a call under two spellings -/

section
variable {space owner owner' : String} (r : Running) (method : String)
  (same : (QualifiedName.inNamespace space owner).key = (QualifiedName.inNamespace space owner').key)

theorem concludeEntry_quoting (space : String) (result : Except CallFault Data) :
    concludeEntry owner' method result =
      (concludeEntry owner method result).mapError (HostFault.quoting space owner') := by
  rcases result with (n | f | message) | v <;> rfl

theorem fallback_respelled (space : String) (first second : Except CallFault Data × Trace) :
    let answer := fallback owner method first second
    let answer' := fallback owner' method first second
    answer'.1 = answer.1.mapError (HostFault.quoting space owner') ∧
      Trace.Respelled owner owner' answer.2 answer'.2 := by
  intro answer answer'
  -- a second attempt is made under both spellings, or under none
  obtain ⟨result, trace⟩ := first
  rcases result with (n | f | message) | v
  · exact ⟨concludeEntry_quoting method space second.1,
      ((Trace.Respelled.refl trace).append (.log_retrying method)).append (.refl second.2)⟩
  · exact ⟨rfl, .refl trace⟩
  · exact ⟨rfl, .refl trace⟩
  · exact ⟨rfl, .refl trace⟩

include same

theorem entry?_congr : r.table.entry? (QualifiedName.inNamespace space owner') =
    r.table.entry? (QualifiedName.inNamespace space owner) := by
  unfold Table.entry?
  rw [same]

theorem invokeWith_respelled (args : List Data) :
    let answer := r.invokeWith space owner method args
    r.invokeWith space owner' method args =
      (answer.1.mapError (HostFault.quoting space owner'), answer.2) := by
  unfold invokeWith
  dsimp only
  rw [entry?_congr r same]
  cases r.table.entry? (QualifiedName.inNamespace space owner) with
  | none => rfl
  | some entry =>
    dsimp only
    cases Assoc.get? method entry.methods with
    | none => rfl
    | some overloads =>
      dsimp only
      rcases r.call overloads args with ⟨(n | f | message) | v, trace⟩ <;> rfl

theorem invokeEntry_respelled :
    let answer := r.invokeEntry space owner method
    let answer' := r.invokeEntry space owner' method
    answer'.1 = answer.1.mapError (HostFault.quoting space owner') ∧
      Trace.Respelled owner owner' answer.2 answer'.2 := by
  unfold invokeEntry
  rw [entry?_congr r same]
  cases (r.table.entry? (QualifiedName.inNamespace space owner)).bind fun entry =>
      Assoc.get? method entry.methods with
  | none => exact ⟨rfl, .refl _⟩
  | some overloads =>
    exact fallback_respelled method space (r.call overloads [.list []]) (r.call overloads [])

end

/-! ## what is called -/

section
variable (u : CompiledUnit) (fingerprint : UInt64) (space owner method : String)

theorem home_of_first? {xs : List Export} {name : QualifiedName} {n : Nat} {x : Export}
    (h : Export.first? xs name method n = some x) : x.home.key = name.key := by
  rw [Export.first?_eq_find?] at h
  have hx := List.find?_some h
  rw [Bool.and_eq_true, beq_iff_eq] at hx
  exact hx.1

theorem home_of_invokeWith (args : List Data) :
    ∀ c ∈ ((ofUnit u fingerprint).invokeWith space owner method args).2.calls,
      c.1.home.key = (QualifiedName.inNamespace space owner).key := by
  intro c hc
  cases hf : Export.first? u.exports (QualifiedName.inNamespace space owner) method args.length with
  | none =>
    rw [calls_of_no_first u fingerprint hf] at hc
    cases hc
  | some x =>
    rw [invokeWith_of_first fingerprint hf] at hc
    obtain rfl : c = (x, args) := List.mem_singleton.mp hc
    exact home_of_first? method hf

theorem mem_entryCalls {one? zero? : Option Export} {c : Export × List Data}
    (hc : c ∈ entryCalls u one? zero?) : c.1 ∈ one? ∨ c.1 ∈ zero? := by
  unfold entryCalls at hc
  rcases List.mem_append.mp hc with hc | hc
  · obtain ⟨x, hx, rfl⟩ := List.mem_map.mp hc
    exact .inl (Option.mem_toList.mp hx)
  · split at hc
    · obtain ⟨x, hx, rfl⟩ := List.mem_map.mp hc
      exact .inr (Option.mem_toList.mp hx)
    · cases hc

theorem home_of_invokeEntry :
    ∀ c ∈ ((ofUnit u fingerprint).invokeEntry space owner method).2.calls,
      c.1.home.key = (QualifiedName.inNamespace space owner).key := by
  intro c hc
  by_cases ho : Export.overloads u.exports (QualifiedName.inNamespace space owner) method = []
  · rw [invokeEntry_of_no_overloads u fingerprint space owner method ho] at hc
    cases hc
  · rw [invokeEntry_of_overloads u fingerprint space owner method ho,
      (fallback_callFirst u owner method _ _).1] at hc
    rcases mem_entryCalls u hc with hx | hx <;> exact home_of_first? method hx

end

end Running

/-- **Modules by other spellings**, for every host that holds a unit.  Two texts that are equal up
to the case of the letters of ASCII ask for one module: both forms of a call make the same calls
with the same outcome, and faults that say that something is not there quote the text asked for.
Two texts of ASCII that differ in more than case ask for two modules: their keys differ, and asking
for one calls nothing of the other. -/
theorem lookup_respelled (h : Host) (u : CompiledUnit) (fingerprint : UInt64)
    (owner owner' : String) :
    let h := { h with running? := some (Running.ofUnit u fingerprint) }
    let key (owner : String) := (QualifiedName.inNamespace h.space owner).key
    (SameLetters owner owner' →
      (∀ (method : String) (args : List Data),
        let answer := h.call owner method args
        h.call owner' method args =
          (answer.1.mapError (HostFault.quoting h.space owner'), answer.2)) ∧
      ∀ method : String,
        let answer := h.invoke owner method
        let answer' := h.invoke owner' method
        answer'.1 = answer.1.mapError (HostFault.quoting h.space owner') ∧
          Trace.Respelled owner owner' answer.2 answer'.2) ∧
    (IsAscii owner → IsAscii owner' → ¬ SameLetters owner owner' →
      key owner ≠ key owner' ∧
      ∀ method : String,
        (∀ args, ∀ c ∈ (h.call owner' method args).2.calls, c.1.home.key ≠ key owner) ∧
        ∀ c ∈ (h.invoke owner' method).2.calls, c.1.home.key ≠ key owner) := by
  intro h key
  refine ⟨fun same => ?_, fun ascii ascii' differ => ?_⟩
  · have keys := QualifiedName.key_congr h.space same
    exact ⟨fun method args => Running.invokeWith_respelled _ method keys args,
      fun method => Running.invokeEntry_respelled _ method keys⟩
  · have keys : key owner ≠ key owner' :=
      mt (QualifiedName.key_eq_iff h.space ascii ascii').mp differ
    refine ⟨keys, fun method => ⟨fun args c hc => ?_, fun c hc => ?_⟩⟩
    · have home : c.1.home.key = key owner' :=
        Running.home_of_invokeWith u fingerprint h.space owner' method args c hc
      rw [home]
      exact keys.symm
    · have home : c.1.home.key = key owner' :=
        Running.home_of_invokeEntry u fingerprint h.space owner' method c hc
      rw [home]
      exact keys.symm

/-- a unit whose modules are a word and a number; the sigma before them is no final one before the
word, and a final one before the number -/
def wordAndNumber : CompiledUnit where
  exports :=
    [⟨QualifiedName.inNamespace "ΟΔΟΣ" "Checks", "Run", 0, "word"⟩,
      ⟨QualifiedName.inNamespace "ΟΔΟΣ" "1", "Run", 0, "number"⟩]
  call x _ := ⟨.ok (.text x.symbol), []⟩

/-- a host in a namespace that ends in a sigma -/
def sigmaHost : Host :=
  (Host.create ⟨"", fun _ => true, id, fun _ _ => ⟨.error (.unavailable ""), []⟩⟩ "" "ΟΔΟΣ").1

theorem lookup_respelled_sigma :
    let h := { sigmaHost with running? := some (Running.ofUnit wordAndNumber 0) }
    (QualifiedName.inNamespace h.space "Checks").key = "οδοσ.checks" ∧
      (QualifiedName.inNamespace h.space "1").key = "οδος.1" ∧
      SameLetters "Checks" "cHECKS" ∧
      (h.call "Checks" "Run" []).2.calls.length = 1 ∧
      (h.call "cHECKS" "Run" []).2.calls = (h.call "Checks" "Run" []).2.calls ∧
      (h.invoke "cHECKS" "Run").2.calls = (h.invoke "Checks" "Run").2.calls ∧
      IsAscii "Checks" ∧ IsAscii "1" ∧ ¬ SameLetters "Checks" "1" ∧
      (h.call "1" "Run" []).2.calls.length = 1 ∧
      ∀ c ∈ (h.call "1" "Run" []).2.calls, c.1.home.key ≠ "οδοσ.checks" := by
  have letters : SameLetters "Checks" "cHECKS" := by decide +kernel
  have ascii : IsAscii "Checks" := by decide +kernel
  have ascii' : IsAscii "1" := by decide +kernel
  have differ : ¬ SameLetters "Checks" "1" := by decide +kernel
  have word : (QualifiedName.inNamespace sigmaHost.space "Checks").key = "οδοσ.checks" := by
    decide +kernel
  have same := (lookup_respelled sigmaHost wordAndNumber 0 "Checks" "cHECKS").1 letters
  have other := (lookup_respelled sigmaHost wordAndNumber 0 "Checks" "1").2 ascii ascii' differ
  -- with the host written out on both sides, it is not run to compare them
  dsimp only at same other ⊢
  rw [word] at other ⊢
  refine ⟨rfl, by decide +kernel, letters, by decide +kernel, ?_, (same.2 "Run").2.calls, ascii,
    ascii', differ, by decide +kernel, (other.2 "Run").1 []⟩
  rw [same.1 "Run" []]

end Scripting
