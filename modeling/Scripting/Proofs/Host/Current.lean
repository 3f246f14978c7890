import Scripting.Dialect.Canned
import Scripting.Proofs.Fingerprint.Stream
import Scripting.Proofs.Host.Running

/-!
# When a host is current

A host keeps the fingerprint of what its unit was compiled from, and compares it with that of now.

* `Environment.parts`     what a fingerprint is of: the text and the referenced libraries;
* `fingerprint_run`       the fingerprint that a host holds is that of its last success;
* `isCurrent_run_iff`     so a host is current exactly if the pieces of its texts are those of then.
-/

namespace Scripting

open Fingerprint (Apart digest nul nuls ofParts pieces)

/-- what a compile reads of an environment, text by text -/
def Environment.parts (e : Environment) : List String := e.text :: e.libraries

namespace Host

section
variable (l : Language) (id space : String) (cs : List Command)

/-- the fingerprint that a host holds is of what its last success was asked for with -/
theorem fingerprint_run : ((create l id space).1.run cs).1.running?.map (·.fingerprint) =
    (lastSuccess (tried l id space cs)).map (·.environment.fingerprint) := by
  rw [running?_run]
  cases e : lastSuccess (tried l id space cs) with
  | none => rfl
  | some a =>
    obtain ⟨u, hu⟩ := Option.isSome_iff_exists.mp (unit?_isSome_of_lastSuccess e)
    simp [Attempt.running?, hu, Running.ofUnit]

end

theorem isCurrent_iff (h : Host) : h.isCurrent = true ↔
    h.running?.map (·.fingerprint) = some h.environment.fingerprint := by
  unfold isCurrent
  cases h.running? with
  | none => exact iff_of_false Bool.false_ne_true (Option.some_ne_none _).symm
  | some r => rw [Option.map_some, Option.some_inj, beq_iff_eq]

/-- text and libraries are the same exactly if the pieces are and each part has as many marks -/
theorem text_libraries_iff (e a : Environment) :
    (e.text = a.text ∧ e.libraries = a.libraries) ↔
      pieces e.parts = pieces a.parts ∧ nuls e.parts = nuls a.parts := by
  rw [← Fingerprint.eq_iff_pieces, Environment.parts, Environment.parts, List.cons_eq_cons]

/-- **When a host is current**, behind every run, if the digest does not confuse the stream of now
with that of the last success.  It is if the texts of both fall into the same pieces; they are the
same texts if, besides, they hold their marks in the same places, as texts without marks do.  So
only marks may move from one text to the next unnoticed. -/
theorem isCurrent_run_iff (l : Language) (id space : String) (cs : List Command)
    (apart : ∀ a ∈ lastSuccess (tried l id space cs),
      Apart ((create l id space).1.run cs).1.environment.parts a.environment.parts) :
    let h := ((create l id space).1.run cs).1
    let last := lastSuccess (tried l id space cs)
    let unchanged := ∃ a ∈ last, h.environment.text = a.environment.text ∧
      h.environment.libraries = a.environment.libraries
    (h.isCurrent = true ↔
      ∃ a ∈ last, pieces h.environment.parts = pieces a.environment.parts) ∧
    ((h.isCurrent = true ↔ unchanged) ↔
      ∀ a ∈ last, pieces h.environment.parts = pieces a.environment.parts →
        nuls h.environment.parts = nuls a.environment.parts) ∧
    ((∀ a ∈ last, ∀ s ∈ h.environment.parts ++ a.environment.parts, nul ∉ s.toList) →
      (h.isCurrent = true ↔ unchanged)) ∧
    ∀ a b s m t, Apart (a ++ (s ++ m) :: t :: b) (a ++ s :: (m ++ t) :: b) →
      (ofParts (a ++ (s ++ m) :: t :: b) = ofParts (a ++ s :: (m ++ t) :: b) ↔
        ∀ c ∈ m.toList, c = nul) := by
  intro h last unchanged
  have current : h.isCurrent = true ↔
      ∃ a ∈ last, pieces h.environment.parts = pieces a.environment.parts := by
    rw [isCurrent_iff, fingerprint_run, Option.map_eq_some_iff]
    refine exists_congr fun a => and_congr_right fun ha => ?_
    rw [eq_comm, ← Fingerprint.ofParts_eq_iff (apart a ha)]
    rfl
  have exact_iff : (h.isCurrent = true ↔ unchanged) ↔
      ∀ a ∈ last, pieces h.environment.parts = pieces a.environment.parts →
        nuls h.environment.parts = nuls a.environment.parts := by
    simp only [current, unchanged, text_libraries_iff]
    cases last with
    | none => simp
    | some a => simp
  refine ⟨current, exact_iff, ?_, ?_⟩
  · intro clean
    refine exact_iff.mpr fun a ha hp => ?_
    have hc := clean a ha
    rw [Fingerprint.eq_of_pieces (fun s hs => hc s (List.mem_append_left _ hs))
      (fun s hs => hc s (List.mem_append_right _ hs)) hp]
  · intro a b s m t
    exact Fingerprint.ofParts_move_iff

/-- a language that takes no default name and answers every compile with a unit -/
def bare : Language :=
  (Dialect.Canned.mk "bare" (defaultReferences.map (·.name)) "" "" []).language

/-- a text that comes back after a compile -/
def returned : List Command := [.setSource "a", .compile, .setSource "b", .setSource "a"]

theorem isCurrent_returned :
    let h := ((create bare "bare" "N").1.run returned).1
    let last := lastSuccess (tried bare "bare" "N" returned)
    last.isSome = true ∧
      (∀ a ∈ last, Apart h.environment.parts a.environment.parts) ∧
      (h.isCurrent = true ↔ ∃ a ∈ last, h.environment.text = a.environment.text ∧
        h.environment.libraries = a.environment.libraries) :=
  have apart : ∀ a ∈ lastSuccess (tried bare "bare" "N" returned),
      Apart ((create bare "bare" "N").1.run returned).1.environment.parts
        a.environment.parts := by
    decide +kernel
  ⟨by decide +kernel, apart,
    (isCurrent_run_iff bare "bare" "N" returned apart).2.2.1 (by decide +kernel)⟩

/-- behind a compile, the end of the text turns into a library -/
def moved : List Command :=
  [.setSource "a\x00b", .compile, .setSource "a", .addReference "X" "b"]

/-- a host may be current although neither its text nor its libraries are those of then -/
theorem isCurrent_moved :
    let h := ((create bare "bare" "N").1.run moved).1
    let last := lastSuccess (tried bare "bare" "N" moved)
    (∀ a ∈ last, Apart h.environment.parts a.environment.parts) ∧
      ¬ (h.isCurrent = true ↔ ∃ a ∈ last, h.environment.text = a.environment.text ∧
        h.environment.libraries = a.environment.libraries) := by
  decide +kernel

end Host

end Scripting
