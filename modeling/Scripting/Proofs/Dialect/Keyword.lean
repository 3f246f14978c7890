import Scripting.Proofs.Dialect.Running
import Scripting.Proofs.Host.Twin
import Scripting.Proofs.Script.Import

/-!
# Scripts whose imports are spelled with a keyword

A script dialect spells imports in two styles, and in the `imports` style it writes every import
line of a text out before the engine reads it, those of the body included.

* `written_headerOf`   written out, the header of one style is that of the other;
* `answer_of_translated`   so both styles answer alike if the engine makes the same of both bodies;
* `twin_run`       a host of the `imports` style replies as one of the other style that is given its
                   texts with the import lines written out;
* `keyword_run`    and so as one that is given the same texts, if these have no import lines;
* `keyword_quoting` a line of a literal is an import line like any other, and is written out.
-/

namespace Scripting

instance Reply.decidableFlag : (r : Reply) → (b : Bool) → Decidable (r = .flag b)
  | .flag a, b => decidable_of_iff (a = b) (by simp)
  | .done, _ | .handler _, _ | .value _, _ | .refused _, _ => .isFalse nofun

namespace Dialect.Scripted

open Environment (headerOf)
open Host (Agree SameOutcomes Twin)
open Script.Import

/-- a dialect with its imports in some style -/
def styled (d : Scripted) (style : Style) : Scripted := { d with style }

section
variable (d : Scripted)

/-! ## one compile -/

theorem importStatement_styled (style : Style) :
    (d.styled style).language.importStatement = header style := rfl

theorem written_headerOf {imports : List String} (words : ∀ s ∈ imports, IsWord s.toList)
    (body : String) : written (headerOf (d.styled .keyword).language imports ++ body) =
      headerOf (d.styled .plain).language imports ++ written body := by
  -- the import added last stands first
  induction imports using List.reverseRecOn with
  | nil => rw [headerOf, headerOf, List.foldl_nil, List.foldl_nil, String.empty_append,
      String.empty_append]
  | append_singleton imports s ih =>
    have hs : IsWord s.toList := words s (List.mem_append_right _ List.mem_cons_self)
    rw [Environment.headerOf_concat, Environment.headerOf_concat, importStatement_styled,
      importStatement_styled, String.append_assoc, String.append_assoc,
      written_append (endsLine_header .keyword s), written_header hs,
      ih fun t ht => words t (List.mem_append_left _ ht)]

/-- the style has no part in an answer, but for the text that the engine reads -/
theorem compile_styled_congr {style style' : Style} {r r' : Request} (space : r.space = r'.space)
    (libraries : r.libraries = r'.libraries) (flags : r.flags = r'.flags)
    (same : d.engine d.settings r'.flags (spaces (d.known r'.libraries))
        ((d.styled style).expanded r.source) =
      d.engine d.settings r'.flags (spaces (d.known r'.libraries))
        ((d.styled style').expanded r'.source)) :
    ((d.styled style).compile r).answer = ((d.styled style').compile r').answer := by
  have answer : (d.styled style).answer r = (d.styled style').answer r' := by
    unfold answer
    rw [space, libraries, flags]
    simp only [styled, known, missing] at same ⊢
    rw [same]
    rfl
  unfold compile
  rw [flags, answer]
  cases checkFlags r'.flags <;> rfl

/-- **One compile in both styles.** -/
theorem answer_of_translated {f : String → String} {h k : Host} (space : h.space = k.space)
    (gathered : h.environment = k.environment.translated (d.styled .plain).language f)
    (language : k.environment.language = (d.styled .keyword).language)
    (regular : k.environment.Regular)
    (words : ∀ s ∈ k.environment.imports, IsWord s.toList)
    (same : d.makes k.environment
        (headerOf (d.styled .plain).language k.environment.imports ++ f k.environment.body) =
      d.makes k.environment
        (headerOf (d.styled .plain).language k.environment.imports ++
          written k.environment.body)) :
    h.attempt.answer = k.attempt.answer := by
  have expanded : written k.environment.text =
      headerOf (d.styled .plain).language k.environment.imports ++ written k.environment.body := by
    rw [Environment.text, regular, language]
    exact written_headerOf d words _
  unfold Host.attempt Environment.attempt
  dsimp only
  rw [gathered, language]
  refine compile_styled_congr d space rfl rfl ?_
  rw [← expanded] at same
  exact same

/-! ## all compiles of a run -/

section
variable (id id' space : String) (cs : List Command)

theorem accepts_styled (style style' : Style) :
    (d.styled style).language.accepts = (d.styled style').language.accepts := rfl

/-- what a new host has gathered depends on the style in its header alone -/
theorem environment_run (f : String → String) (hf : f "" = "") :
    ((Host.create (d.styled .plain).language id space).1.run
        (cs.map (Command.mapText f))).1.environment =
      ((Host.create (d.styled .keyword).language id' space).1.run cs).1.environment.translated
        (d.styled .plain).language f := by
  rw [Host.run_environment, Host.run_environment,
    Host.create_translated (accepts_styled d .plain .keyword) hf id' id]
  exact Environment.after_translated f (accepts_styled d .plain .keyword) cs

theorem keyword_language : ((Host.create (d.styled .keyword).language id' space).1.run
    cs).1.environment.language = (d.styled .keyword).language := by
  rw [Host.run_environment]
  exact Host.run_language _ id' space cs

/-- **A run in the `imports` style** is one in the other style, with every text written out. -/
theorem twin_run
    (words : ∀ s ∈ ((Host.create (d.styled .keyword).language id' space).1.run
      cs).1.environment.imports, IsWord s.toList) :
    let w := (Host.create (d.styled .plain).language id space).1.run
      (cs.map (Command.mapText written))
    let k := (Host.create (d.styled .keyword).language id' space).1.run cs
    Twin (d.styled .plain).language written w.1 k.1 ∧ w.2.map (·.1) = k.2.map (·.1) := by
  -- the induction is on the last command, as no command takes an import back
  induction cs using List.reverseRecOn with
  | nil => exact ⟨Host.twin_create (accepts_styled d .plain .keyword) rfl id' id space, rfl⟩
  | append_singleton cs c ih =>
    rw [Host.run_concat, Host.step_environment] at words
    have earlier := fun s hs => words s ((Environment.imports_change _ c).subset hs)
    obtain ⟨twin, replies⟩ := ih earlier
    have language := keyword_language d id' space cs
    have accepts : (d.styled .plain).language.accepts =
        ((Host.create (d.styled .keyword).language id' space).1.run
          cs).1.environment.language.accepts := by
      rw [language]
      rfl
    have same := answer_of_translated d twin.space twin.environment language
      (Host.regular_run _ id' space cs) earlier rfl
    simp only [List.map_append, List.map_cons, List.map_nil, Host.run_append, Host.run_cons,
      Host.run_nil]
    refine ⟨twin.step accepts fun _ => same, ?_⟩
    rw [replies, twin.reply accepts fun _ => same]

end

end

/-- **The `imports` style and the other one**, behind all commands that import words.  If the body
has no import line, or none that makes a difference to the engine when it is written out, then both
hosts answer a compile alike, and behind one that succeeds they show the same and answer every call
alike until the next compile.  With any bodies at all, a host of the `imports` style replies to
every command as one of the other style does that is given the bodies with their import lines
written out. -/
theorem keyword_run (d : Scripted) (id id' space : String) (cs : List Command)
    (words : ∀ s ∈ ((Host.create (d.styled .keyword).language id' space).1.run
      cs).1.environment.imports, IsWord s.toList) :
    let start := (Host.create (d.styled .plain).language id space).1
    let start' := (Host.create (d.styled .keyword).language id' space).1
    let h := (start.run cs).1
    let k := (start'.run cs).1
    let e := h.environment
    let w := start.run (cs.map (Command.mapText written))
    ((Importless e.body.toList ∨ d.makes e (e.header ++ written e.body) = d.makes e e.text) →
      (k.step .compile).2.1 = (h.step .compile).2.1 ∧
      ((h.step .compile).2.1 = .flag true →
        ∀ later : List Command, (∀ c ∈ later, c.isCompile = false) →
          SameOutcomes (h.run (.compile :: later)).1 (k.run (.compile :: later)).1)) ∧
    (start'.run cs).2.map (·.1) = w.2.map (·.1) ∧ SameOutcomes w.1 k := by
  intro start start' h k e w
  obtain ⟨twin, replies⟩ := twin_run d id id' space cs words
  refine ⟨fun unchanged => ?_, replies.symm, twin.outcomes⟩
  have gathered : e = k.environment.translated (d.styled .plain).language fun s => s := by
    have run := environment_run d id id' space cs (fun s => s) rfl
    rwa [Command.map_mapText_self] at run
  have makes_same : d.makes e (e.header ++ written e.body) = d.makes e e.text := by
    rcases unchanged with importless | made
    · rw [written_eq_self importless]
      rfl
    · exact made
  have called : h.space = k.space := by
    rw [Host.run_space, Host.run_space]
    rfl
  have answers : h.attempt.answer = k.attempt.answer := by
    rw [gathered] at makes_same
    exact answer_of_translated d called gathered (keyword_language d id' space cs)
      (Host.regular_run _ id' space cs) words makes_same.symm
  refine ⟨(Host.compile_reply_congr answers).symm, fun ok later quiet => ?_⟩
  have agree : Agree (h.step .compile).1 (k.step .compile).1 :=
    Host.agree_of_success answers called ok
  exact (agree.run_of_not_compile quiet).outcomes

/-- a script with a variable that is called like the keyword -/
def counting : List Command :=
  [.addImport "Drawing",
    .setSource "fn M__F() \x7b\n  let imports = 2;\n  imports + 1\n\x7d"]

theorem keyword_counting :
    let d : Scripted := { engine := Engine.standard {} }
    let h := ((Host.create (d.styled .plain).language "Rhai" "N").1.run counting).1
    let k := ((Host.create (d.styled .keyword).language "RhaiBasic" "N").1.run counting).1
    (∀ s ∈ k.environment.imports, IsWord s.toList) ∧
      Importless h.environment.body.toList ∧
      (h.step .compile).2.1 = .flag true ∧
      SameOutcomes (h.run [.compile]).1 (k.run [.compile]).1 := by
  intro d
  have run := keyword_run d "Rhai" "RhaiBasic" "N" counting
  -- with the hosts written out on both sides, no host is run to compare them
  dsimp only at run ⊢
  refine ⟨by decide +kernel, by decide +kernel, by decide +kernel, ?_⟩
  have same := (run (by decide +kernel)).1 (.inl (by decide +kernel))
  exact same.2 (by decide +kernel) [] (List.forall_mem_nil _)

/-- a literal of three lines, one of which imports something -/
def quoting : List Command :=
  [.setSource "fn M__F() \x7b \x60\nimports A\n\x60 \x7d"]

/-- the text that a call returned -/
def answered : Except HostFault Data × Trace → String
  | (.ok (.text s), _) => s
  | _ => ""

/-- import lines are written out wherever they stand, in literals too -/
theorem keyword_quoting :
    let d : Scripted := { engine := Engine.standard {} }
    let h := ((Host.create (d.styled .plain).language "Rhai" "N").1.run quoting).1
    let k := ((Host.create (d.styled .keyword).language "RhaiBasic" "N").1.run quoting).1
    (∀ s ∈ k.environment.imports, IsWord s.toList) ∧
      (h.step .compile).2.1 = .flag true ∧ (k.step .compile).2.1 = .flag true ∧
      ¬ SameOutcomes (h.step .compile).1 (k.step .compile).1 := by
  intro d h k
  refine ⟨by decide +kernel, by decide +kernel, by decide +kernel, fun same => ?_⟩
  have differ : answered ((h.step .compile).1.call "M" "F" []) ≠
      answered ((k.step .compile).1.call "M" "F" []) := by
    decide +kernel
  exact differ (congrArg answered (same.call "M" "F" []))

end Dialect.Scripted

end Scripting
