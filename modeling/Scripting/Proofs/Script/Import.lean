import Scripting.Proofs.Text.Lines
import Scripting.Proofs.Text.Pieces
import Scripting.Script.Import

/-!
# Import lines written out

* `namespace?_eq_some_iff`   what an import line is: one word behind the keyword, amid blanks;
* `expandLine_spec`   one line written out: the statement, or the line as it is, and the same ends;
* `chunks_expand`     the lines of a text are written out one by one, and no line is gained or lost;
* `expand_expand`     a text that is written out has no import lines, so it is written out once;
* `written_append`    what stands behind a line is written out by itself;
* `written_header`    the line that a host puts before a script becomes the statement that it would
                      have put there in the other style;
* `written_eq_self`   a text without import lines stays as it is.
-/

namespace Scripting.Script.Import

open Text

/-- what a line may import: a text without blanks -/
def IsWord (cs : List Char) : Prop := cs ≠ [] ∧ ∀ c ∈ cs, isBlank c = false

-- character by character: a search for an instance may go through all characters there are
instance (cs : List Char) : Decidable (IsWord cs) :=
  decidable_of_iff ((!cs.isEmpty && cs.all fun c => !isBlank c) = true) (by simp [IsWord])

/-- a text none of whose lines imports anything -/
def Importless (cs : List Char) : Prop :=
  ∀ line ∈ chunks cs, namespace? (cutLineEnds line).1 = none

instance (cs : List Char) : Decidable (Importless cs) :=
  inferInstanceAs (Decidable (∀ line ∈ chunks cs, _))

/-- a text with its import lines written out -/
def written (s : String) : String := String.ofList (expand s.toList)

theorem expand_append {a : List Char} (h : EndsLine a) (b : List Char) :
    expand (a ++ b) = expand a ++ expand b := by
  rw [expand, chunks_append h, List.flatMap_append]
  rfl

theorem expand_eq_self {cs : List Char} (h : Importless cs) : expand cs = cs := by
  have hlines : (chunks cs).map expandLine = chunks cs :=
    (List.map_congr_left fun line hl => expandLine_of_none (h line hl)).trans (List.map_id' _)
  rw [expand, List.flatMap_def, hlines, chunks_flatten]

/-! ## line ends -/

theorem cutLineEnds_of_ends {ends : List Char} (h : ∀ c ∈ ends, isLineEnd c = true) :
    cutLineEnds ends = ([], ends) := by
  induction ends with
  | nil => rfl
  | cons c cs ih =>
    rw [cutLineEnds, ih fun d hd => h d (List.mem_cons_of_mem c hd)]
    dsimp only
    rw [if_pos (h c List.mem_cons_self)]

theorem cutLineEnds_of_content {line : List Char} (h : ∀ c ∈ line, isLineEnd c = false) :
    cutLineEnds line = (line, []) := by
  induction line with
  | nil => rfl
  | cons c cs ih =>
    rw [cutLineEnds, ih fun d hd => h d (List.mem_cons_of_mem c hd)]
    cases cs with
    | nil =>
      dsimp only
      rw [h c List.mem_cons_self]
      rfl
    | cons d ds => rfl

/-- line ends behind a line are cut off with those that it has -/
theorem cutLineEnds_append_ends (line : List Char) {ends : List Char}
    (h : ∀ c ∈ ends, isLineEnd c = true) :
    cutLineEnds (line ++ ends) = ((cutLineEnds line).1, (cutLineEnds line).2 ++ ends) := by
  induction line with
  | nil => exact cutLineEnds_of_ends h
  | cons c cs ih =>
    rw [List.cons_append, cutLineEnds, cutLineEnds, ih]
    obtain ⟨content, behind⟩ := cutLineEnds cs
    cases content with
    | nil => cases hc : isLineEnd c <;> rfl
    | cons d ds => rfl

theorem cutLineEnds_append_of {line ends : List Char} (hl : ∀ c ∈ line, isLineEnd c = false)
    (he : ∀ c ∈ ends, isLineEnd c = true) : cutLineEnds (line ++ ends) = (line, ends) := by
  rw [cutLineEnds_append_ends line he, cutLineEnds_of_content hl]
  rfl

theorem cutLineEnds_concat_content (line : List Char) {c : Char} (h : isLineEnd c = false) :
    cutLineEnds (line ++ [c]) = (line ++ [c], []) := by
  induction line with
  | nil => exact cutLineEnds_of_content (List.forall_mem_singleton.mpr h)
  | cons d line ih =>
    rw [List.cons_append, cutLineEnds, ih]
    cases line <;> rfl

theorem cutLineEnds_eq (line : List Char) :
    cutLineEnds line = (line.rdropWhile isLineEnd, line.rtakeWhile isLineEnd) := by
  induction line using List.reverseRecOn with
  | nil => rfl
  | append_singleton line c ih =>
    by_cases hc : isLineEnd c = true
    · rw [cutLineEnds_append_ends line (List.forall_mem_singleton.mpr hc), ih,
        List.rdropWhile_concat_pos isLineEnd line c hc,
        List.rtakeWhile_concat_pos isLineEnd line c hc]
    · rw [cutLineEnds_concat_content line (eq_false_of_ne_true hc),
        List.rdropWhile_concat_neg isLineEnd line c hc,
        List.rtakeWhile_concat_neg isLineEnd line c hc]

theorem cutLineEnds_ends (line : List Char) : ∀ c ∈ (cutLineEnds line).2, isLineEnd c = true := by
  rw [cutLineEnds_eq]
  exact fun c hc => List.mem_rtakeWhile_imp hc

theorem isLineEnd_of_not_isBlank {c : Char} (h : isBlank c = false) : isLineEnd c = false := by
  rw [isLineEnd, Bool.or_eq_false_iff, beq_eq_false_iff_ne, beq_eq_false_iff_ne]
  exact ⟨fun e => absurd h (e ▸ by decide), fun e => absurd h (e ▸ by decide)⟩

/-! ## import lines -/

/-- A line, its ends cut off, that imports `space`: one word behind the keyword and its blank, with
blanks before, between and behind them or none. -/
def Imports (content space : List Char) : Prop :=
  IsWord space ∧ ∃ before between after, Blank before ∧ Blank between ∧ Blank after ∧
    content = before ++ ("imports ".toList ++ between ++ space) ++ after

theorem isWord_iff {word : List Char} :
    (word.isEmpty || word.any isBlank) = false ↔ IsWord word := by
  rw [Bool.or_eq_false_iff, List.isEmpty_eq_false_iff, List.any_eq_false, IsWord]
  simp only [Bool.not_eq_true]

section
variable {content space : List Char}

theorem namespace?_of_imports (h : Imports content space) : namespace? content = some space := by
  obtain ⟨word, before, between, after, hbefore, hbetween, hafter, rfl⟩ := h
  have hend : trimEnd space = space := trimEnd_eq_self word.2
  have hne : trimEnd space ≠ [] := by
    rw [hend]
    exact word.1
  -- the keyword starts the trimmed line and the word ends it
  have htrim : trim (before ++ ("imports ".toList ++ between ++ space) ++ after) =
      "imports ".toList ++ (between ++ space) := by
    have hstart : trimStart ("imports ".toList ++ between ++ space) =
        "imports ".toList ++ between ++ space := trimStart_of_not_isBlank (by decide) _
    rw [trim_blanks hbefore hafter, trim, hstart, trimEnd_append _ hne, hend, List.append_assoc]
  have hrest : trim (between ++ space) = space := by
    have hblanks := trim_blanks hbetween blank_nil space
    rwa [List.append_nil, trim_eq_self word.2] at hblanks
  rw [namespace?, htrim, dropWord?_append]
  simp only [bind, Option.bind, hrest, isWord_iff.mpr word, Bool.false_eq_true, if_false]

theorem imports_of_namespace? (h : namespace? content = some space) : Imports content space := by
  rw [namespace?] at h
  cases hd : dropWord? "imports ".toList (trim content) with
  | none =>
    rw [hd] at h
    exact nomatch h
  | some rest =>
    rw [hd] at h
    simp only [bind, Option.bind] at h
    split at h
    · exact nomatch h
    · rename_i hword
      obtain rfl := Option.some_inj.mp h
      obtain ⟨before, after, hbefore, hafter, hcontent⟩ := exists_trim content
      obtain ⟨between, behind, hbetween, hbehind, hrest⟩ := exists_trim rest
      refine ⟨isWord_iff.mp (eq_false_of_ne_true hword), before, between, behind ++ after,
        hbefore, hbetween, hbehind.append hafter, ?_⟩
      calc content
        _ = before ++ ("imports ".toList ++ rest) ++ after := by
          rw [← eq_of_dropWord? hd]
          exact hcontent
        _ = before ++ ("imports ".toList ++ (between ++ trim rest ++ behind)) ++ after := by
          rw [← hrest]
        _ = _ := by simp only [List.append_assoc]

theorem namespace?_eq_some_iff : namespace? content = some space ↔ Imports content space :=
  ⟨imports_of_namespace?, namespace?_of_imports⟩

end

theorem imports_keyword {word : List Char} (h : IsWord word) :
    Imports ("imports ".toList ++ word) word := by
  refine ⟨h, [], [], [], blank_nil, blank_nil, blank_nil, ?_⟩
  rw [List.append_nil, List.append_nil, List.nil_append]

/-! ## statements -/

theorem mem_shortName {space : List Char} {c : Char} (h : c ∈ shortName space) : c ∈ space := by
  rw [shortName] at h
  split at h
  · exact h
  · have htail : c ∈ space.reverse.dropWhile isSeparator :=
      (List.takeWhile_prefix _).subset (List.mem_reverse.mp h)
    exact List.mem_reverse.mp ((List.dropWhile_suffix _).subset htail)

section
variable {word : List Char} (h : IsWord word)
include h

/-- a statement stays on one line -/
theorem isLineEnd_statement : ∀ c ∈ statement word, isLineEnd c = false := by
  have hword : ∀ c ∈ word, isLineEnd c = false := fun c hc => isLineEnd_of_not_isBlank (h.2 c hc)
  have hpath : ("import \"".toList.all fun c => !isLineEnd c) = true := by decide
  have halias : ("\" as ".toList.all fun c => !isLineEnd c) = true := by decide
  rw [List.all_eq_true] at hpath halias
  intro c hc
  unfold statement at hc
  simp only [List.mem_append] at hc
  rcases hc with (((hc | hc) | hc) | hc) | hc
  · exact Bool.not_eq_true' _ ▸ hpath c hc
  · exact hword c hc
  · exact Bool.not_eq_true' _ ▸ halias c hc
  · exact hword c (mem_shortName hc)
  · exact List.mem_singleton.mp hc ▸ rfl

omit h in
/-- the keyword of a statement is another one than that of an import line -/
theorem namespace?_statement (space : List Char) : namespace? (statement space) = none := by
  have hstart : trimStart (statement space) = statement space :=
    trimStart_of_not_isBlank (by decide) _
  have hsemicolon : trimEnd [';'] = [';'] := rfl
  have hne : trimEnd [';'] ≠ [] := by
    rw [hsemicolon]
    exact List.cons_ne_nil ';' []
  have hend : trimEnd (statement space) = statement space := by
    unfold statement
    rw [trimEnd_append _ hne, hsemicolon]
  rw [namespace?, trim, hstart, hend]
  rfl

end

theorem statement_ne_nil (space : List Char) : statement space ≠ [] :=
  List.append_ne_nil_of_right_ne_nil _ (List.cons_ne_nil ';' [])

/-! ## one line -/

/-- what is made of a line: the statement of what it imports, or the line itself, and behind it the
line ends that the line has -/
structure Expanded (line row : List Char) : Prop where
  ends : row.rtakeWhile isLineEnd = line.rtakeWhile isLineEnd
  imported : ∀ space, Imports (line.rdropWhile isLineEnd) space →
    row = statement space ++ line.rtakeWhile isLineEnd
  copied : (∀ space, ¬ Imports (line.rdropWhile isLineEnd) space) → row = line

theorem expandLine_of_some {line space : List Char}
    (h : namespace? (cutLineEnds line).1 = some space) :
    expandLine line = statement space ++ (cutLineEnds line).2 := by
  rw [expandLine]
  dsimp only
  rw [h]

/-- there are two kinds of lines -/
theorem expandLine_cases (line : List Char) :
    (namespace? (cutLineEnds line).1 = none ∧ expandLine line = line) ∨
      ∃ space, IsWord space ∧ namespace? (cutLineEnds line).1 = some space ∧
        expandLine line = statement space ++ (cutLineEnds line).2 := by
  cases h : namespace? (cutLineEnds line).1 with
  | none => exact .inl ⟨rfl, expandLine_of_none h⟩
  | some space => exact .inr ⟨space, (namespace?_eq_some_iff.mp h).1, rfl, expandLine_of_some h⟩

/-- a line that is written out ends as it did, and imports nothing -/
theorem cutLineEnds_expandLine (line : List Char) :
    let row := cutLineEnds (expandLine line)
    row.2 = (cutLineEnds line).2 ∧ namespace? row.1 = none := by
  intro row
  unfold row
  rcases expandLine_cases line with ⟨hnone, hline⟩ | ⟨space, word, -, hline⟩
  · rw [hline]
    exact ⟨rfl, hnone⟩
  · rw [hline, cutLineEnds_append_of (isLineEnd_statement word) (cutLineEnds_ends line)]
    exact ⟨rfl, namespace?_statement space⟩

theorem expandLine_spec (line : List Char) : Expanded line (expandLine line) := by
  have hcut := cutLineEnds_eq line
  refine ⟨?_, fun space himports => ?_, fun hfree => ?_⟩
  · have hends := (cutLineEnds_expandLine line).1
    rwa [cutLineEnds_eq, cutLineEnds_eq] at hends
  · have hspace : namespace? (cutLineEnds line).1 = some space := by
      rw [hcut]
      exact namespace?_eq_some_iff.mpr himports
    rw [expandLine_of_some hspace, hcut]
  · rcases expandLine_cases line with ⟨-, hline⟩ | ⟨space, -, hsome, -⟩
    · exact hline
    · rw [hcut] at hsome
      exact absurd (namespace?_eq_some_iff.mp hsome) (hfree space)

theorem expandLine_lf (line : List Char) :
    expandLine (line ++ ['\n']) = expandLine line ++ ['\n'] := by
  rw [expandLine, cutLineEnds_append_ends line (List.forall_mem_singleton.mpr rfl), expandLine]
  dsimp only
  cases namespace? (cutLineEnds line).1 with
  | none => rfl
  | some space => exact (List.append_assoc ..).symm

theorem lf_not_mem_expandLine {line : List Char} (h : '\n' ∉ line) : '\n' ∉ expandLine line := by
  rcases expandLine_cases line with ⟨-, hline⟩ | ⟨space, word, -, hline⟩
  · rwa [hline]
  · rw [hline, List.mem_append, not_or]
    refine ⟨fun hc => absurd (isLineEnd_statement word _ hc) (by decide), fun hc => h ?_⟩
    rw [← cutLineEnds_append line]
    exact List.mem_append_right _ hc

theorem expandLine_ne_nil {line : List Char} (h : line ≠ []) : expandLine line ≠ [] := by
  rcases expandLine_cases line with ⟨-, hline⟩ | ⟨space, -, -, hline⟩
  · rwa [hline]
  · rw [hline]
    exact List.append_ne_nil_of_left_ne_nil (statement_ne_nil space) _

/-! ## all lines -/

theorem expand_last {line : List Char} (h : '\n' ∉ line) (hne : line ≠ []) :
    expand line = expandLine line := by
  rw [expand, chunks_last h hne, List.flatMap_singleton]

theorem expand_line {line : List Char} (h : '\n' ∉ line) :
    expand (line ++ ['\n']) = expandLine line ++ ['\n'] := by
  rw [expand, chunks_line h, List.flatMap_singleton, expandLine_lf]

/-- **Line by line**, and no line is gained or lost. -/
theorem chunks_expand (cs : List Char) : chunks (expand cs) = (chunks cs).map expandLine := by
  induction cs using lines_induction with
  | nil => rfl
  | last line h hne =>
    rw [expand_last h hne, chunks_last h hne,
      chunks_last (lf_not_mem_expandLine h) (expandLine_ne_nil hne)]
    rfl
  | line line rest h ih =>
    rw [expand_append (endsLine_concat line), expand_line h, chunks_append (endsLine_concat _),
      chunks_append (endsLine_concat line), chunks_line h, chunks_line (lf_not_mem_expandLine h), ih,
      List.map_append, List.map_singleton, expandLine_lf]

theorem importless_expand (cs : List Char) : Importless (expand cs) := by
  intro row hrow
  rw [chunks_expand] at hrow
  obtain ⟨line, -, rfl⟩ := List.mem_map.mp hrow
  exact (cutLineEnds_expandLine line).2

theorem expand_expand (cs : List Char) : expand (expand cs) = expand cs :=
  expand_eq_self (importless_expand cs)

theorem expand_keyword {word : List Char} (h : IsWord word) :
    expand ("imports ".toList ++ word ++ ['\n']) = statement word ++ ['\n'] := by
  have hkey : ("imports ".toList.all fun c => !isLineEnd c) = true := by decide
  rw [List.all_eq_true] at hkey
  have hline : ∀ c ∈ "imports ".toList ++ word, isLineEnd c = false := by
    intro c hc
    rcases List.mem_append.mp hc with hc | hc
    · exact Bool.not_eq_true' _ ▸ hkey c hc
    · exact isLineEnd_of_not_isBlank (h.2 c hc)
  have hlf : '\n' ∉ "imports ".toList ++ word := fun hc => absurd (hline _ hc) (by decide)
  have hcut := cutLineEnds_of_content hline
  have hspace : namespace? (cutLineEnds ("imports ".toList ++ word)).1 = some word := by
    rw [hcut]
    exact namespace?_eq_some_iff.mpr (imports_keyword h)
  rw [expand_line hlf, expandLine_of_some hspace, hcut, List.append_nil]

/-! ## texts -/

theorem written_append {a : String} (h : EndsLine a.toList) (b : String) :
    written (a ++ b) = written a ++ written b := by
  rw [written, String.toList_append, expand_append h, String.ofList_append]
  rfl

theorem written_eq_self {s : String} (h : Importless s.toList) : written s = s := by
  rw [written, expand_eq_self h, String.ofList_toList]

theorem toList_header_keyword (space : String) :
    (header .keyword space).toList = "imports ".toList ++ space.toList ++ ['\n'] := by
  rw [header, String.toList_append, String.toList_append]
  rfl

theorem endsLine_header (style : Style) (space : String) :
    EndsLine (header style space).toList := by
  cases style with
  | plain =>
    rw [header, String.toList_ofList]
    exact endsLine_concat _
  | keyword =>
    rw [toList_header_keyword]
    exact endsLine_concat _

theorem written_header {space : String} (h : IsWord space.toList) :
    written (header .keyword space) = header .plain space := by
  rw [written, toList_header_keyword, expand_keyword h]
  rfl

end Scripting.Script.Import
