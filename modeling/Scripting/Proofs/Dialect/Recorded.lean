import Scripting.Dialect.Line
import Scripting.Dialect.Scripted
import Scripting.Proofs.Host.Replay

/-!
# Recorded names are identifiers

A host asks its language before it records a name, but for one kind of names: the reference of an
event source is called by the name of the source with `Ref` behind it, and nobody is asked.

* `isIdentifier_iff`    the identifiers of the script dialect, spelled out;
* `isIdentifier_scan`   they can be told in one pass that remembers one bit;
* `isIdentifier_referenceName`   in both dialects an identifier stays one with `Ref` behind it;
* `recorded_run`        so no run of a host records anything but identifiers, for every language
                        whose identifiers do;
* `recorded_names`      all of it, for hosts over both dialects.
-/

namespace Scripting

open Text

/-! ## letters and digits -/

theorem isLetter_eq (c : Char) : isLetter c = c.isAlpha := by
  have hlower : (decide ('a' ≤ c) && decide (c ≤ 'z')) = c.isLower := rfl
  have hupper : (decide ('A' ≤ c) && decide (c ≤ 'Z')) = c.isUpper := (Bool.decide_and _ _).symm
  have halpha : c.isAlpha = (c.isUpper || c.isLower) := rfl
  rw [halpha, isLetter, hlower, hupper, Bool.or_comm]

theorem isWordChar_iff (c : Char) : isWordChar c = true ↔ c.isAlphanum = true ∨ c = '_' := by
  have hdigit : isDigit c = c.isDigit := rfl
  rw [isWordChar, isLetter_eq, hdigit, Char.isAlphanum, Bool.or_eq_true, beq_iff_eq]

theorem isWordChar_all_iff (cs : List Char) :
    cs.all isWordChar = true ↔ ∀ c ∈ cs, c.isAlphanum = true ∨ c = '_' := by
  simp only [List.all_eq_true, isWordChar_iff]

/-- the name of an event source's reference is made of the characters of the source's name -/
theorem toList_referenceName (name : String) :
    (Environment.referenceName name).toList = name.toList ++ "Ref".toList := String.toList_append

namespace Script

/-! ## identifiers of the script dialect -/

/-- underscores or none, then a letter, then letters, digits and underscores or nothing -/
def Spelled (cs : List Char) : Prop :=
  ∃ n c rest, cs = List.replicate n '_' ++ c :: rest ∧ c.isAlpha = true ∧
    ∀ d ∈ rest, d.isAlphanum = true ∨ d = '_'

theorem hasWordShape_of_ne {c : Char} (h : c ≠ '_') (cs : List Char) :
    hasWordShape (c :: cs) = (isLetter c && cs.all isWordChar) := by
  rw [hasWordShape, List.dropWhile_cons_of_neg (by simpa using h)]

theorem hasWordShape_iff (cs : List Char) : hasWordShape cs = true ↔ Spelled cs := by
  induction cs with
  | nil => exact iff_of_false Bool.false_ne_true fun ⟨n, c, rest, h, _⟩ => by simp at h
  | cons c cs ih =>
    by_cases hc : c = '_'
    · subst hc
      rw [hasWordShape_underscore, ih]
      constructor
      · rintro ⟨n, c, rest, rfl, hrest⟩
        exact ⟨n + 1, c, rest, rfl, hrest⟩
      · rintro ⟨n, d, rest, h, hd, hrest⟩
        cases n with
        | zero =>
          obtain rfl := (List.cons.inj h).1
          exact absurd hd (by decide)
        | succ n => exact ⟨n, d, rest, (List.cons.inj h).2, hd, hrest⟩
    · rw [hasWordShape_of_ne hc, Bool.and_eq_true, isLetter_eq, isWordChar_all_iff]
      constructor
      · exact fun ⟨hletter, hrest⟩ => ⟨0, c, cs, rfl, hletter, hrest⟩
      · rintro ⟨n, d, rest, h, hd, hrest⟩
        cases n with
        | zero =>
          obtain ⟨rfl, rfl⟩ := List.cons.inj h
          exact ⟨hd, hrest⟩
        | succ n => exact absurd (List.cons.inj h).1 hc

theorem isIdentifier_iff (name : String) :
    isIdentifier name = true ↔ Spelled name.toList ∧ name ∉ reservedWords := by
  rw [isIdentifier, Bool.and_eq_true, hasWordShape_iff, Bool.not_eq_true',
    List.contains_eq_mem, decide_eq_false_iff_not]

/-- reads characters one after the other and remembers whether a letter was among them -/
def scan (seen : Bool) : List Char → Bool
  | [] => seen
  | c :: cs =>
    if c = '_' then scan seen cs
    else if isLetter c then scan true cs
    else if isDigit c && seen then scan seen cs
    else false

theorem scan_true (cs : List Char) : scan true cs = cs.all isWordChar := by
  induction cs with
  | nil => rfl
  | cons c cs ih =>
    rw [scan, List.all_cons, isWordChar, ih, Bool.and_true]
    by_cases hc : c = '_'
    · rw [if_pos hc, beq_iff_eq.mpr hc, Bool.or_true, Bool.true_and]
    · rw [if_neg hc, beq_eq_false_iff_ne.mpr hc, Bool.or_false]
      cases isLetter c <;> cases isDigit c <;> rfl

theorem scan_false (cs : List Char) : scan false cs = hasWordShape cs := by
  induction cs with
  | nil => rfl
  | cons c cs ih =>
    by_cases hc : c = '_'
    · subst hc
      exact ih
    · rw [scan, if_neg hc, hasWordShape_of_ne hc, scan_true, Bool.and_false]
      cases isLetter c <;> rfl

theorem isIdentifier_scan (name : String) :
    isIdentifier name = (scan false name.toList && !reservedWords.contains name) := by
  rw [scan_false]
  rfl

/-- no reserved word ends in `Ref` -/
theorem referenceName_not_reserved (name : String) :
    Environment.referenceName name ∉ reservedWords := by
  have ends : ∀ word ∈ reservedWords, ¬ "Ref".toList <:+ word.toList := by decide +kernel
  intro h
  refine ends _ h ?_
  rw [toList_referenceName]
  exact List.suffix_append ..

theorem isIdentifier_referenceName {name : String} (h : isIdentifier name = true) :
    isIdentifier (Environment.referenceName name) = true := by
  obtain ⟨⟨n, c, rest, hname, hc, hrest⟩, -⟩ := (isIdentifier_iff name).mp h
  refine (isIdentifier_iff _).mpr ⟨⟨n, c, rest ++ "Ref".toList, ?_, hc, ?_⟩,
    referenceName_not_reserved name⟩
  · rw [toList_referenceName, hname, List.append_assoc]
    rfl
  · exact List.forall_mem_append.mpr ⟨hrest, (isWordChar_all_iff _).mp (by decide)⟩

end Script

namespace Dialect.Line

/-! ## identifiers of the line dialect -/

theorem isIdentifier_iff (name : String) : isIdentifier name = true ↔
    ∃ c rest, name.toList = c :: rest ∧ c.isAlpha = true ∧
      ∀ d ∈ rest, d.isAlphanum = true ∨ d = '_' := by
  unfold isIdentifier
  cases name.toList with
  | nil => exact iff_of_false Bool.false_ne_true nofun
  | cons c cs =>
    dsimp only
    rw [Bool.and_eq_true, isLetter_eq, isWordChar_all_iff]
    constructor
    · exact fun h => ⟨c, cs, rfl, h⟩
    · rintro ⟨_, _, ⟨⟩, h⟩
      exact h

theorem isIdentifier_referenceName {name : String} (h : isIdentifier name = true) :
    isIdentifier (Environment.referenceName name) = true := by
  obtain ⟨c, rest, hname, hc, hrest⟩ := (isIdentifier_iff name).mp h
  refine (isIdentifier_iff _).mpr ⟨c, rest ++ "Ref".toList, ?_, hc, ?_⟩
  · rw [toList_referenceName, hname]
    rfl
  · exact List.forall_mem_append.mpr ⟨hrest, (isWordChar_all_iff _).mp (by decide)⟩

end Dialect.Line

/-! ## what is recorded -/

/-- every name that an environment holds is one that `valid` takes -/
structure Environment.Recorded (valid : String → Bool) (e : Environment) : Prop where
  references : ∀ r ∈ e.references, valid r.name = true
  globals : ∀ g ∈ e.globals, valid g.1 = true
  sources : ∀ s ∈ e.sources, valid s.name = true

/-- an identifier of the language is one with `Ref` behind it, too -/
def Language.TakesReferences (l : Language) : Prop :=
  ∀ name, l.accepts name = true → l.accepts (Environment.referenceName name) = true

namespace Command

variable {l : Language}

theorem accepts_source? {c : Command} {s : EventSource} (h : s ∈ c.source? l) :
    l.accepts s.name = true := by
  cases c with
  | addSource name type =>
    rw [source?] at h
    split at h
    · rename_i ha
      obtain rfl := Option.some_inj.mp h
      exact ha
    · cases h
  | _ => cases h

/-- the name of an event source was asked for, and that is enough -/
theorem accepts_reference? (hl : l.TakesReferences) {c : Command} {r : Reference}
    (h : r ∈ c.reference? l) : l.accepts r.name = true := by
  have sourced {s : Option EventSource} (hs : ∀ x ∈ s, l.accepts x.name = true)
      (hr : r ∈ s.map fun x => ⟨Environment.referenceName x.name, x.path.library⟩) :
      l.accepts r.name = true := by
    obtain ⟨x, hx, rfl⟩ := Option.map_eq_some_iff.mp hr
    exact hl _ (hs x hx)
  cases c with
  | addReference name library =>
    rw [reference?] at h
    split at h
    · rename_i ha
      obtain rfl := Option.some_inj.mp h
      exact ha
    · cases h
  | addSource name type => exact sourced (fun _ => accepts_source?) h
  | _ => cases h

theorem accepts_binds {globals : List (String × Data)} (hg : ∀ g ∈ globals, l.accepts g.1 = true)
    (c : Command) : ∀ g ∈ c.binds l globals, l.accepts g.1 = true := by
  cases c with
  | addGlobal name object =>
    rw [binds]
    split
    · rename_i ha
      intro g hmem
      rw [← Assoc.update_const] at hmem
      rcases Assoc.mem_update hmem with rfl | hmem
      · exact ha
      · exact hg g hmem
    · exact hg
  | removeGlobal name => exact fun g hmem => hg g ((Assoc.erase_sublist name globals).subset hmem)
  | _ => exact hg

end Command

namespace Environment.Recorded

theorem change {e : Environment} (hl : e.language.TakesReferences)
    (h : e.Recorded e.language.accepts) (c : Command) :
    (c.change e).Recorded e.language.accepts := by
  rw [change_eq]
  constructor
  · refine List.forall_mem_append.mpr ⟨h.references, fun r hr => ?_⟩
    exact Command.accepts_reference? hl (Option.mem_toList.mp hr)
  · exact Command.accepts_binds h.globals c
  · refine List.forall_mem_append.mpr ⟨h.sources, fun s hs => ?_⟩
    exact Command.accepts_source? (Option.mem_toList.mp hs)

theorem after {e : Environment} (hl : e.language.TakesReferences)
    (h : e.Recorded e.language.accepts) (cs : List Command) :
    (e.after cs).Recorded e.language.accepts := by
  induction cs generalizing e with
  | nil => exact h
  | cons c cs ih =>
    have hc := h.change hl c
    rw [← language_change e c] at hc hl ⊢
    exact ih hl hc

end Environment.Recorded

namespace Host

/-- **No run records a name that the language does not take**, if its identifiers are identifiers
with `Ref` behind them, too. -/
theorem recorded_run {l : Language} (hl : l.TakesReferences) (id space : String)
    (cs : List Command) : ((create l id space).1.run cs).1.environment.Recorded l.accepts := by
  rw [environment_run]
  exact Environment.Recorded.after (e := { language := l, flags := Flags.standard }) hl
    ⟨nofun, nofun, nofun⟩ _

/-- **Recorded names are identifiers.**  The identifiers of the script dialect are underscores, a
letter, and any letters, digits and underscores, but for the reserved words, and that is what a pass
tells that remembers only whether it has met a letter.  With `Ref` behind it an identifier is one
again.  So all that hosts over the script dialect, in either style, and over the line dialect ever
record is named by identifiers: references, those of event sources among them, globals and event
sources. -/
theorem recorded_names :
    (∀ name, Script.isIdentifier name = true ↔
      Script.Spelled name.toList ∧ name ∉ Script.reservedWords) ∧
    (∀ name, Script.isIdentifier name =
      (Script.scan false name.toList && !Script.reservedWords.contains name)) ∧
    (∀ name, Script.isIdentifier name = true → Script.isIdentifier (name ++ "Ref") = true) ∧
    (∀ (d : Dialect.Scripted) (id space : String) (cs : List Command),
      ((create d.language id space).1.run cs).1.environment.Recorded Script.isIdentifier) ∧
    ∀ (id space : String) (cs : List Command),
      ((create Dialect.line id space).1.run cs).1.environment.Recorded
        Dialect.Line.isIdentifier := by
  refine ⟨Script.isIdentifier_iff, Script.isIdentifier_scan,
    fun name => Script.isIdentifier_referenceName, fun d id space cs => ?_, fun id space cs => ?_⟩
  · exact recorded_run (l := d.language) (fun _ => Script.isIdentifier_referenceName) id space cs
  · exact recorded_run (l := Dialect.line) (fun _ => Dialect.Line.isIdentifier_referenceName)
      id space cs

/-- a name with underscores in front, and the reference of an event source -/
theorem recorded_names_clicks :
    let h := (create Dialect.line "" "").1
    Script.isIdentifier "__a1" = true ∧ Script.isIdentifier ("__a1" ++ "Ref") = true ∧
      Dialect.Line.isIdentifier "__a1" = false ∧
      (h.run [.addSource "clicks" "u8"]).1.environment.references.getLast? =
        some ⟨"clicksRef", "std"⟩ ∧
      (h.run [.addSource "clicks" "u8"]).1.environment.Recorded Dialect.Line.isIdentifier := by
  intro h
  obtain ⟨-, -, named, -, recorded⟩ := recorded_names
  have hname : Script.isIdentifier "__a1" = true := by decide +kernel
  exact ⟨hname, named _ hname, by decide +kernel, by decide +kernel, recorded _ _ _⟩

end Host

end Scripting
