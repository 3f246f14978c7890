import Scripting.Proofs.Dialect.Answer
import Scripting.Proofs.Dialect.Declaration
import Scripting.Proofs.Host.Replay
import Scripting.Proofs.Text.Lines

/-!
# Compiles of the line dialect, line by line

* `reports_append`   every report stands on the line that it is about;
* `reports_lowered`  lines before a text move its reports down, and do nothing else to them;
* `Linewise`         what an answer has to do with the lines of the text, and `linewise_compile`;
* `statements_header`   an import header says nothing, one line for each import;
* `compile_linewise`    all of it, for every request and for every host over the dialect.
-/

namespace Scripting

open Text

/-- a diagnostic of a text that `n` more lines stand before; one that has no place stays as it is -/
def Diagnostic.lowered (n : Nat) (d : Diagnostic) : Diagnostic :=
  match d.part with
  | some _ => { d with row := d.row + n }
  | none => d

/-- the answer to a text that `n` more lines stand before -/
def Answer.lowered (n : Nat) (a : Answer) : Answer := ⟨a.report.map (Diagnostic.lowered n), a.unit?⟩

namespace Dialect.Line

open Environment (headerOf)

/-! ## reports -/

/-- what is reported of a statement on line `row` -/
def Statement.reported (row : Nat) : Statement → Report
  | .report severity message => [⟨severity, message, some "script", row, 1⟩]
  | _ => []

theorem reports_cons (row : Nat) (s : Statement) (ss : List Statement) :
    reports row (s :: ss) = s.reported row ++ reports (row + 1) ss := by
  cases s <;> rfl

theorem reports_append (row : Nat) (ss ts : List Statement) :
    reports row (ss ++ ts) = reports row ss ++ reports (row + ss.length) ts := by
  induction ss generalizing row with
  | nil => rfl
  | cons s ss ih =>
    rw [List.cons_append, reports_cons, ih, reports_cons, List.append_assoc, List.length_cons,
      Nat.add_assoc, Nat.add_comm 1]

theorem reports_replicate (row n : Nat) : reports row (List.replicate n .nothing) = [] := by
  induction n generalizing row with
  | zero => rfl
  | succ n ih => exact ih (row + 1)

theorem reports_lowered (row n : Nat) (ss : List Statement) :
    reports (row + n) ss = (reports row ss).map (Diagnostic.lowered n) := by
  induction ss generalizing row with
  | nil => rfl
  | cons s ss ih =>
    have hs : s.reported (row + n) = (s.reported row).map (Diagnostic.lowered n) := by
      cases s <;> rfl
    rw [reports_cons, reports_cons, List.map_append, hs, Nat.add_right_comm, ih]

theorem mem_reports_iff {row : Nat} {ss : List Statement} {x : Diagnostic} :
    x ∈ reports row ss ↔ ∃ i severity message, ss[i]? = some (.report severity message) ∧
      x = ⟨severity, message, some "script", row + i, 1⟩ := by
  induction ss generalizing row with
  | nil => simp [reports]
  | cons s ss ih =>
    rw [reports_cons, List.mem_append, ih]
    constructor
    · rintro (h | ⟨i, severity, message, hi, rfl⟩)
      · cases s with
        | report severity message => exact ⟨0, severity, message, rfl, List.mem_singleton.mp h⟩
        | _ => cases h
      · exact ⟨i + 1, severity, message, hi, by rw [Nat.add_assoc, Nat.add_comm 1]⟩
    · rintro ⟨i, severity, message, hi, rfl⟩
      cases i with
      | zero =>
        obtain rfl := Option.some_inj.mp hi
        exact .inl List.mem_cons_self
      | succ i => exact .inr ⟨i, severity, message, hi, by rw [Nat.add_assoc, Nat.add_comm 1]⟩

/-- no two reports stand on one line, and the first one on the first line -/
theorem pairwise_reports (row : Nat) (ss : List Statement) :
    (reports row ss).Pairwise fun x y => x.row < y.row := by
  induction ss generalizing row with
  | nil => exact .nil
  | cons s ss ih =>
    rw [reports_cons, List.pairwise_append]
    refine ⟨?_, ih (row + 1), fun x hx y hy => ?_⟩
    · cases s with
      | report severity message => exact List.pairwise_singleton _ _
      | _ => exact .nil
    · obtain ⟨i, severity, message, -, rfl⟩ := mem_reports_iff.mp hy
      cases s with
      | report severity message =>
        obtain rfl := List.mem_singleton.mp hx
        show row < row + 1 + i
        omega
      | _ => cases hx

/-! ## one text -/

/-- the lines of a text, without the blanks around each of them -/
def trimmed (text : String) : List (List Char) := (lines text.toList).map trim

theorem statements_eq (space text : String) :
    statements space text = (trimmed text).map (statement space) := by
  rw [trimmed, List.map_map]
  rfl

theorem says_getElem?_iff {space text : String} {i : Nat} {s : Statement} :
    (statements space text)[i]? = some s ↔
      ∃ line, (trimmed text)[i]? = some line ∧ Says space line s := by
  rw [statements_eq, List.getElem?_map, Option.map_eq_some_iff]
  simp only [says_iff]

theorem says_fatal_iff {space : String} {line : List Char} :
    Says space line .fatal ↔ line = "fatal".toList := by
  constructor
  · rintro (h | h)
    cases h
    rfl
  · rintro rfl
    exact .known .fatal

theorem fatal_mem_iff {space text : String} :
    .fatal ∈ statements space text ↔ "fatal".toList ∈ trimmed text := by
  rw [statements_eq, List.mem_map]
  constructor
  · rintro ⟨line, hline, hsaid⟩
    rwa [← says_fatal_iff.mp (says_iff.mp hsaid)]
  · intro h
    exact ⟨_, h, says_iff.mpr (says_fatal_iff.mpr rfl)⟩

/-! ### exports -/

/-- only a line that begins with `sub ` declares something -/
theorem isPrefix_of_declare {space : String} {line : List Char} {s : Sub}
    (h : Says space line (.declare s)) : "sub ".toList <+: line := by
  cases h with
  | known h =>
    cases h with
    | sub h => exact List.prefix_append _ _

/-- a line that begins with `sub ` declares something, or it is an error -/
theorem declares_of_isPrefix {space : String} {line : List Char} {s : Statement}
    (h : "sub ".toList <+: line) (hsaid : Says space line s) :
    (∃ m, s = .declare m) ∨ ∃ severity message, s = .report severity message := by
  obtain ⟨declaration, rfl⟩ := h
  cases hsaid with
  | unknown _ => exact .inr ⟨_, _, rfl⟩
  | known h =>
    generalize hline : "sub ".toList ++ declaration = line at h
    cases h with
    | blank => cases hline
    | imports rest => cases hline
    | fatal => cases hline
    | error message => cases hline
    | warning message => cases hline
    | sub h => exact .inl ⟨_, rfl⟩

/-- where nothing is reported, the lines that begin with `sub ` are the declarations -/
theorem forall₂_subs {space : String} {ls : List (List Char)}
    (h : reports 1 (ls.map (statement space)) = []) :
    List.Forall₂ (fun line s => Says space line (.declare s))
      (ls.filter fun line => "sub ".toList.isPrefixOf line)
      (subs (ls.map (statement space))) := by
  -- the number of the first line is another one on the way
  generalize 1 = row at h
  induction ls generalizing row with
  | nil => exact .nil
  | cons line ls ih =>
    rw [List.map_cons, reports_cons, List.append_eq_nil_iff] at h
    have hrest := ih _ h.2
    by_cases hsub : "sub ".toList <+: line
    · rw [List.filter_cons_of_pos (List.isPrefixOf_iff_prefix.mpr hsub), List.map_cons]
      rcases declares_of_isPrefix hsub says_statement with ⟨m, hm⟩ | ⟨severity, message, hm⟩
      · rw [hm]
        exact .cons (says_iff.mp hm) hrest
      · rw [hm] at h
        cases h.1
    · have hfilter : ¬ "sub ".toList.isPrefixOf line = true :=
        fun h => hsub (List.isPrefixOf_iff_prefix.mp h)
      rw [List.filter_cons_of_neg hfilter, List.map_cons]
      cases hm : statement space line with
      | declare m => exact absurd (isPrefix_of_declare (says_iff.mp hm)) hsub
      | _ => exact hrest

/-- an export can be called: it returns or raises what was declared -/
theorem call_export {ms : List Sub} {x : Export} (hx : x ∈ (unitOf ms).exports)
    (args : List Data) (message : String) :
    ((unitOf ms).call x args).result ≠ .error (.other message) := by
  obtain ⟨m, hm, rfl⟩ := List.mem_map.mp hx
  have hfound : (ms.find? fun m' => m'.method == m.method).isSome = true :=
    List.find?_isSome.mpr ⟨m, hm, beq_self_eq_true m.method⟩
  obtain ⟨m', hm'⟩ := Option.isSome_iff_exists.mp hfound
  have hcall : ((unitOf ms).call m.method args).result = m'.outcome m.method.symbol := by
    show (callAmong ms m.method args).result = _
    rw [callAmong, hm']
  rw [hcall, Sub.outcome]
  cases m'.raises with
  | none => exact nofun
  | some raised => exact nofun

/-! ### answers -/

/-- the error for a library that cannot be found -/
def notFound (library : String) : Diagnostic :=
  { severity := .error, message := "library '" ++ library ++ "' could not be found" }

/-- **What an answer has to do with the lines of a text.** -/
structure Linewise (r : Request) (a : Answer) : Prop where
  /-- first the libraries that cannot be found, in order and with repetitions, then the lines that
  are reported, by their number -/
  report : ∃ located,
    a.report = (r.libraries.filter fun l => l ∉ knownLibraries).map notFound ++ located ∧
    (located.Pairwise fun x y => x.row < y.row) ∧
    ∀ x, x ∈ located ↔ ∃ i line severity message, (trimmed r.source)[i]? = some line ∧
      Says r.space line (.report severity message) ∧
      x = ⟨severity, message, some "script", i + 1, 1⟩
  unit : a.unit?.isSome = true ↔ a.report = []
  /-- the methods that are declared, in the order of their lines -/
  exports : ∀ u ∈ a.unit?, ∃ ms, u.exports = ms.map Sub.method ∧
    List.Forall₂ (fun line s => Says r.space line (.declare s))
      ((trimmed r.source).filter fun line => "sub ".toList.isPrefixOf line) ms
  calls : ∀ u ∈ a.unit?, ∀ x ∈ u.exports, ∀ args message,
    (u.call x args).result ≠ .error (.other message)

theorem missing_eq (libraries : List String) :
    missing libraries = (libraries.filter fun l => l ∉ knownLibraries).map notFound := by
  unfold missing
  congr 1
  refine List.filter_congr fun l _ => ?_
  rw [List.contains_eq_mem, decide_not]

section
variable {r : Request}

theorem compile_fatal (h : "fatal".toList ∈ trimmed r.source) :
    compile r = .error (.unavailable "compiler resources are missing") := by
  have hfatal : (statements r.space r.source).contains .fatal = true :=
    List.contains_iff_mem.mpr (fatal_mem_iff.mpr h)
  unfold compile
  dsimp only
  rw [if_pos hfatal]

/-- the answer to a text without a `fatal` line -/
def answer (r : Request) : Answer :=
  let ss := statements r.space r.source
  let report := missing r.libraries ++ reports 1 ss
  if report.isEmpty then .success (unitOf (subs ss)) else .failure report

theorem compile_of_not_fatal (h : "fatal".toList ∉ trimmed r.source) :
    compile r = .ok (answer r) := by
  have hfatal : ¬ (statements r.space r.source).contains .fatal = true :=
    fun hc => h (fatal_mem_iff.mp (List.contains_iff_mem.mp hc))
  unfold compile answer
  dsimp only
  rw [if_neg hfatal]
  split <;> rfl

theorem eq_answer {a : Answer} (h : compile r = .ok a) : a = answer r := by
  by_cases hfatal : "fatal".toList ∈ trimmed r.source
  · rw [compile_fatal hfatal] at h
    cases h
  · rw [compile_of_not_fatal hfatal] at h
    exact (Except.ok.inj h).symm

theorem answer_cases (r : Request) :
    let ss := statements r.space r.source
    let report := missing r.libraries ++ reports 1 ss
    (report = [] ∧ answer r = .success (unitOf (subs ss))) ∨
      (report ≠ [] ∧ answer r = .failure report) := by
  intro ss report
  unfold answer
  dsimp only
  split
  · rename_i h
    exact .inl ⟨List.isEmpty_iff.mp h, rfl⟩
  · rename_i h
    exact .inr ⟨fun hn => h (List.isEmpty_iff.mpr hn), rfl⟩

theorem answer_report (r : Request) :
    (answer r).report = missing r.libraries ++ reports 1 (statements r.space r.source) := by
  rcases answer_cases r with ⟨hnone, h⟩ | ⟨-, h⟩
  · rw [h, hnone]
    rfl
  · rw [h]
    rfl

theorem answer_unit_iff (r : Request) : (answer r).unit?.isSome = true ↔ (answer r).report = [] := by
  rcases answer_cases r with ⟨-, h⟩ | ⟨hsome, h⟩
  · rw [h]
    exact iff_of_true rfl rfl
  · rw [h]
    exact iff_of_false Bool.false_ne_true hsome

theorem answer_unit {u : CompiledUnit} (h : u ∈ (answer r).unit?) :
    reports 1 (statements r.space r.source) = [] ∧
      u = unitOf (subs (statements r.space r.source)) := by
  rcases answer_cases r with ⟨hnone, ha⟩ | ⟨-, ha⟩
  · rw [ha] at h
    exact ⟨(List.append_eq_nil_iff.mp hnone).2, (Option.some_inj.mp h).symm⟩
  · rw [ha] at h
    cases h

theorem linewise_answer (r : Request) : Linewise r (answer r) where
  report := by
    refine ⟨reports 1 (statements r.space r.source), ?_, pairwise_reports _ _, fun x => ?_⟩
    · rw [answer_report, missing_eq]
    · rw [mem_reports_iff]
      simp only [says_getElem?_iff, Nat.add_comm 1]
      constructor
      · rintro ⟨i, severity, message, ⟨line, hline, hsaid⟩, rfl⟩
        exact ⟨i, line, severity, message, hline, hsaid, rfl⟩
      · rintro ⟨i, line, severity, message, hline, hsaid, rfl⟩
        exact ⟨i, severity, message, ⟨line, hline, hsaid⟩, rfl⟩
  unit := answer_unit_iff r
  exports := by
    intro u hu
    obtain ⟨hnone, rfl⟩ := answer_unit hu
    rw [statements_eq] at hnone ⊢
    exact ⟨_, rfl, forall₂_subs hnone⟩
  calls := by
    intro u hu x hx args message
    obtain ⟨-, rfl⟩ := answer_unit hu
    exact call_export hx args message

end

/-! ## texts with import lines -/

/-- whether the namespace of an import fills a line, and no more than one -/
def Fits (space : String) : Prop := (∃ c ∈ space.toList, isBlank c = false) ∧ '\n' ∉ space.toList

instance (space : String) : Decidable (Fits space) :=
  decidable_of_iff ((space.toList.any fun c => !isBlank c) = true ∧ '\n' ∉ space.toList)
    (by simp [Fits])

theorem trimmed_line {line : List Char} (h : '\n' ∉ line) (text : String) :
    trimmed (String.ofList (line ++ ['\n']) ++ text) = trim (line ++ ['\n']) :: trimmed text := by
  unfold trimmed lines
  rw [String.toList_append, String.toList_ofList, chunks_append (endsLine_concat line),
    chunks_line h, List.singleton_append, List.map_cons, List.map_cons, trim_stripLineEnd]

theorem trim_import {space : String} (h : Fits space) :
    ∃ rest, trim ("imports ".toList ++ space.toList ++ ['\n']) = "imports ".toList ++ rest := by
  obtain ⟨⟨c, hc, hblank⟩, -⟩ := h
  have hne : trimEnd (space.toList ++ ['\n']) ≠ [] :=
    trimEnd_ne_nil (List.mem_append_left _ hc) hblank
  refine ⟨trimEnd (space.toList ++ ['\n']), ?_⟩
  rw [List.append_assoc, trim]
  exact trimEnd_append "imports ".toList hne

theorem statements_import {space : String} (h : Fits space) (home text : String) :
    statements home (importStatement space ++ text) = .nothing :: statements home text := by
  have hline : '\n' ∉ "imports ".toList ++ space.toList := by
    rw [List.mem_append, not_or]
    exact ⟨by decide, h.2⟩
  have hstatement : importStatement space =
      String.ofList ("imports ".toList ++ space.toList ++ ['\n']) := by
    rw [String.ofList_append, String.ofList_append, String.ofList_toList, String.ofList_toList]
    rfl
  obtain ⟨rest, hrest⟩ := trim_import h
  rw [statements_eq, statements_eq, hstatement, trimmed_line hline, hrest, List.map_cons,
    says_iff.mpr (.known (.imports rest))]

theorem statements_header {imports : List String} (h : ∀ s ∈ imports, Fits s)
    (home text : String) : statements home (headerOf line imports ++ text) =
      List.replicate imports.length .nothing ++ statements home text := by
  -- from the end: the import that was added last has the first line
  induction imports using List.reverseRecOn with
  | nil =>
    show statements home ("" ++ text) = statements home text
    rw [String.empty_append]
  | append_singleton imports s ih =>
    obtain ⟨h, hs⟩ := List.forall_mem_append.mp h
    have hfits := hs s List.mem_cons_self
    rw [Environment.headerOf_concat, String.append_assoc, List.length_append, List.length_singleton,
      List.replicate_succ, List.cons_append, ← ih h]
    exact statements_import hfits home (headerOf line imports ++ text)

theorem missing_lowered (n : Nat) (libraries : List String) :
    (missing libraries).map (Diagnostic.lowered n) = missing libraries := by
  rw [missing_eq, List.map_map]
  rfl

theorem compile_nothings {r s : Request} {n : Nat} (libraries : s.libraries = r.libraries)
    (h : statements s.space s.source =
      List.replicate n .nothing ++ statements r.space r.source) :
    compile s = (compile r).map (Answer.lowered n) := by
  have hfatal : (statements s.space s.source).contains .fatal =
      (statements r.space r.source).contains .fatal := by
    rw [h, List.contains_append]
    simp
  have hreports : missing s.libraries ++ reports 1 (statements s.space s.source) =
      (missing r.libraries ++ reports 1 (statements r.space r.source)).map
        (Diagnostic.lowered n) := by
    rw [libraries, h, reports_append, reports_replicate, List.nil_append, List.length_replicate,
      reports_lowered, List.map_append, missing_lowered]
  have hsubs : subs (statements s.space s.source) = subs (statements r.space r.source) := by
    rw [h, subs, List.filterMap_append]
    simp [subs]
  unfold compile
  dsimp only
  rw [hfatal, hreports, hsubs, List.isEmpty_map]
  split
  · rfl
  · split <;> rfl

/-! ## hosts -/

section
variable (id space : String) (cs : List Command)

/-- the text of a host is its body with a line for each import before it -/
theorem compile_run :
    let e := ((Host.create Dialect.line id space).1.run cs).1.environment
    let request := Host.requestOf e space
    (∀ s ∈ e.imports, Fits s) → compile request =
      (compile { request with source := e.body }).map (Answer.lowered e.imports.length) := by
  intro e request himports
  have hregular : e.header = headerOf e.language e.imports :=
    Host.regular_run Dialect.line id space cs
  have hlanguage : e.language = Dialect.line :=
    (congrArg Environment.language (Host.run_environment _ cs)).trans
      (Host.run_language Dialect.line id space cs)
  have htext : e.text = headerOf Dialect.line e.imports ++ e.body := by
    rw [Environment.text, hregular, hlanguage]
  have hstatements := statements_header himports space e.body
  rw [← htext] at hstatements
  exact compile_nothings rfl hstatements

/-- a host passes the answer of the dialect on, and its refusal -/
theorem step_compile_run :
    let h := ((Host.create Dialect.line id space).1.run cs).1
    let answered := compile (Host.requestOf h.environment space)
    ((∃ fault, (h.step .compile).2.1 = .refused fault) ↔ ∃ fault, answered = .error fault) ∧
      ∀ a, answered = .ok a → (h.step .compile).2.1 = .flag a.unit?.isSome ∧
        (h.step .compile).1.report = a.report := by
  intro h answered
  have he : h.environment = _ := Host.run_environment _ cs
  have hattempt : h.attempt.answer = answered := by
    rw [congrArg Attempt.answer (Host.attempt_run Dialect.line id space cs), ← he]
    rfl
  have hunit (a : Answer) (ha : answered = .ok a) : a.unit?.isSome = true ↔ a.report = [] := by
    obtain rfl := eq_answer ha
    exact answer_unit_iff _
  refine ⟨?_, fun a ha => Scripted.step_compile_of_answer (hattempt.trans ha) (hunit a ha)⟩
  rw [(Host.step_compile_reply h).2.2, hattempt]
  refine or_iff_left fun hnone => ?_
  have hsome := (hunit _ hnone).mpr rfl
  cases hsome

end

/-- **Compiles of the line dialect.**  A line `fatal` stops a compile; otherwise it answers what the
lines say.  What a host sends has one more line for each import, and nothing changes but that the
reports stand so much lower. -/
theorem compile_linewise :
    (∀ r : Request,
      ("fatal".toList ∈ trimmed r.source →
        compile r = .error (.unavailable "compiler resources are missing")) ∧
      ("fatal".toList ∉ trimmed r.source → ∃ a, compile r = .ok a ∧ Linewise r a)) ∧
    ∀ (id space : String) (cs : List Command),
      let h := ((Host.create Dialect.line id space).1.run cs).1
      let e := h.environment
      let request := Host.requestOf e space
      let alone := compile { request with source := e.body }
      (∀ s ∈ e.imports, Fits s) →
      (h.step .compile).2.2.requests = [request] ∧
      compile request = alone.map (Answer.lowered e.imports.length) ∧
      ((∃ fault, (h.step .compile).2.1 = .refused fault) ↔ ∃ fault, alone = .error fault) ∧
      ∀ a, alone = .ok a → (h.step .compile).2.1 = .flag a.unit?.isSome ∧
        (h.step .compile).1.report = a.report.map (Diagnostic.lowered e.imports.length) := by
  refine ⟨fun r => ⟨compile_fatal, fun h => ⟨answer r, compile_of_not_fatal h, linewise_answer r⟩⟩,
    fun id space cs => ?_⟩
  intro h e request alone himports
  have he : e = _ := Host.run_environment _ cs
  have hf : e.flags = Flags.standard :=
    (congrArg Environment.flags he).trans (Host.run_flags Dialect.line id space cs)
  have hs : h.space = space := Host.run_space _ cs
  have hshift : compile request = alone.map (Answer.lowered e.imports.length) :=
    compile_run id space cs himports
  obtain ⟨hrefused, hpassed⟩ := step_compile_run id space cs
  refine ⟨?_, hshift, hrefused.trans ?_, fun a ha => ?_⟩
  · rw [Host.step_requests h hf, hs]
    rfl
  · show (∃ fault, compile request = .error fault) ↔ _
    rw [hshift]
    cases alone <;> simp [Except.map]
  · rw [ha] at hshift
    exact hpassed _ hshift

/-- a warning behind a declaration, and three imports before them -/
theorem compile_linewise_old :
    let cs : List Command := [.addImport "My.Lib", .setSource "sub M.f/1\n warning old"]
    let h := ((Host.create Dialect.line "Vb" "Calc").1.run cs).1
    let body := { Host.requestOf h.environment "Calc" with source := h.environment.body }
    let old : Diagnostic := ⟨.warning, "old", some "script", 2, 1⟩
    (∀ s ∈ h.environment.imports, Fits s) ∧
      (∃ a, compile body = .ok a ∧ Linewise body a ∧ a.report = [old]) ∧
      (h.step .compile).2.1 = .flag false ∧
      (h.step .compile).1.report = [{ old with row := 5 }] := by
  have linewise := compile_linewise.2 "Vb" "Calc"
    [.addImport "My.Lib", .setSource "sub M.f/1\n warning old"]
  -- the host is run for two facts about it, and never to compare two of its steps
  dsimp only at linewise ⊢
  generalize hhost : ((Host.create Dialect.line "Vb" "Calc").1.run
    [.addImport "My.Lib", .setSource "sub M.f/1\n warning old"]).1 = h at linewise ⊢
  have himports : h.environment.imports = ["System", "Forms", "My.Lib"] := by
    rw [← hhost]
    decide +kernel
  let body : Request := ⟨"sub M.f/1\n warning old", "Calc", ["system", "forms", "drawing", "xml"],
    Flags.standard⟩
  have hbody : { Host.requestOf h.environment "Calc" with source := h.environment.body } = body := by
    rw [← hhost]
    decide +kernel
  have hfits : ∀ s ∈ h.environment.imports, Fits s := by
    rw [himports]
    decide
  rw [hbody] at linewise ⊢
  obtain ⟨-, -, -, hall⟩ := linewise hfits
  obtain ⟨a, ha, hlines⟩ := (compile_linewise.1 body).2 (by decide +kernel)
  obtain ⟨hreply, hlowered⟩ := hall a ha
  have hreport : a.report = [⟨.warning, "old", some "script", 2, 1⟩] := by
    rw [eq_answer ha, answer_report]
    decide +kernel
  have hunit : a.unit?.isSome = false := by
    rw [Bool.eq_false_iff, ne_eq, hlines.unit, hreport]
    exact List.cons_ne_nil _ []
  rw [hunit] at hreply
  rw [hreport, himports] at hlowered
  exact ⟨hfits, ⟨a, ha, hlines, hreport⟩, hreply, hlowered⟩

end Dialect.Line
end Scripting
