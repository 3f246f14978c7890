import Scripting.Proofs.Script.Import
import Scripting.Proofs.Script.Reread
import Scripting.Proofs.Script.Tokens

/-!
# A script behind one more import

* `plain_scan`        no name that is cut out of a script has the sign of functions without a name;
* `outerRound_line`   a line that imports a namespace is read as one statement, and its alias counts
                      as imported from there on;
* `readable_line`     so a script that can be read can be read with such a line among its first ones.
-/

namespace Scripting.Script

open Text

/-! ## names -/

namespace Lexer

/-- whether a token is no name, or one of the script -/
def PlainToken (t : Token) : Prop := ∀ name, t = .name name → Parser.Plain name

theorem plain_eof : PlainToken .eof := by rintro _ ⟨⟩

theorem plain_bad (fault : LexFault) : PlainToken (.bad fault) := by rintro _ ⟨⟩

theorem plain_int (i : Int) : PlainToken (.int i) := by rintro _ ⟨⟩

theorem plain_text (s : String) : PlainToken (.text s) := by rintro _ ⟨⟩

theorem plain_ite {c : Prop} [Decidable c] {t u : Token} (ht : PlainToken t) (hu : PlainToken u) :
    PlainToken (if c then t else u) := by
  split
  · exact ht
  · exact hu

theorem plain_identifier {s : String} (h : isIdentifier s = true) : Parser.Plain s :=
  fun hm => absurd (isWordChar_of_isIdentifier h _ hm) (by decide)

theorem plain_ofWord (cs : List Char) : PlainToken (Token.ofWord cs) := by
  intro name h
  unfold Token.ofWord at h
  dsimp only at h
  split at h
  · cases h
  · split at h
    · cases h
    · rename_i hreserved
      split at h
      · rename_i hshape
        cases h
        refine plain_identifier (Bool.and_eq_true_iff.mpr ⟨?_, ?_⟩)
        · rw [String.toList_ofList]
          exact hshape
        · rw [eq_false_of_ne_true hreserved]
          rfl
      · cases h

theorem plain_number (negative : Bool) (k : Cursor) : PlainToken (number negative k).1 := by
  have decimal (cs : List Char) : PlainToken (decimalToken negative cs) := by
    unfold decimalToken
    refine plain_ite (plain_int _) ?_
    split
    · rintro _ ⟨⟩
    · exact plain_bad _
  have radix (mark : Char) (n : Nat) (cs : List Char) :
      PlainToken (radixToken negative mark n cs) := by
    unfold radixToken
    exact plain_ite (plain_bad _) (plain_int _)
  unfold number
  dsimp only
  split
  · split
    · exact radix _ _ _
    · exact decimal _
  · exact decimal _

theorem plain_symbol (k : Cursor) : PlainToken (symbol k).1 := by
  intro name h
  unfold symbol at h
  dsimp only at h
  split at h <;> cases h

theorem plain_backtick (limit : Nat) (start : Pos) (nesting : Nesting) (k : Cursor) :
    PlainToken (backtick limit start nesting k).1 := by
  intro name h
  unfold backtick at h
  split at h <;> cases h

theorem plain_quoted (style : TextStyle) (limit : Nat) (start : Pos) (k : Cursor)
    {make : String → Token} (hmake : ∀ s, PlainToken (make s)) :
    PlainToken (quoted style limit start k make).1.token := by
  unfold quoted
  split
  · exact plain_bad _
  · exact hmake _

theorem plain_charToken (s : String) : PlainToken (charToken s) := by
  intro name h
  unfold charToken at h
  split at h <;> cases h

theorem plain_token (limit : Nat) (nesting : Nesting) (operand : Bool) (k : Cursor) :
    PlainToken (token limit nesting operand k).1.token := by
  unfold token
  split
  · exact plain_eof
  · split
    · exact plain_number _ _
    · split
      · exact plain_number _ _
      · split
        · exact plain_ofWord _
        · split
          · exact plain_quoted _ _ _ _ plain_text
          · split
            · exact plain_bad _
            · split
              · exact plain_quoted _ _ _ _ plain_charToken
              · split
                · exact plain_backtick _ _ _ _
                · exact plain_symbol _

theorem plain_following (limit : Nat) {more : Nesting → Bool → Cursor → List Located}
    (hmore : ∀ nesting operand k, ∀ t ∈ more nesting operand k, PlainToken t.token)
    {r : Located × Cursor × Nesting} (h : PlainToken r.1.token) :
    ∀ t ∈ following limit more r, PlainToken t.token := by
  have cons {ts : List Located} (hts : ∀ t ∈ ts, PlainToken t.token) :
      ∀ t ∈ r.1 :: ts, PlainToken t.token := List.forall_mem_cons.mpr ⟨h, hts⟩
  unfold following
  split
  · exact cons (List.forall_mem_nil _)
  · exact cons (List.forall_mem_nil _)
  · split
    · exact cons (hmore _ _ _)
    · exact cons (hmore _ _ _)
    · dsimp only
      split
      · exact cons (List.forall_mem_singleton.mpr (plain_bad _))
      · exact cons (List.forall_mem_cons.mpr ⟨plain_backtick _ _ _ _, hmore _ _ _⟩)
    · exact cons (hmore _ _ _)
  · exact cons (hmore _ _ _)

theorem plain_tokens (limit n : Nat) (nesting : Nesting) (operand : Bool) (k : Cursor) :
    ∀ t ∈ tokens limit n nesting operand k, PlainToken t.token := by
  induction n generalizing nesting operand k with
  | zero => exact List.forall_mem_singleton.mpr plain_eof
  | succ n ih =>
    rw [tokens_succ]
    exact plain_following limit ih (plain_token _ _ _ _)

theorem plain_scan (limit : Nat) (script : String) :
    ∀ t ∈ scan limit script, PlainToken t.token := plain_tokens _ _ _ _ _

end Lexer

namespace Parser

theorem sameToken_of_map {ts us : List Located} (h : ts.map (·.token) = us.map (·.token))
    (hp : ∀ t ∈ ts, Lexer.PlainToken t.token) : List.Forall₂ SameToken ts us := by
  induction ts generalizing us with
  | nil =>
    cases us with
    | nil => exact .nil
    | cons u us => cases h
  | cons t ts ih =>
    cases us with
    | nil => cases h
    | cons u us =>
      obtain ⟨htu, hrest⟩ := List.cons.inj h
      obtain ⟨hplain, hp⟩ := List.forall_mem_cons.mp hp
      refine .cons ?_ (ih hrest hp)
      obtain ⟨token, p⟩ := t
      obtain ⟨_, q⟩ := u
      dsimp only at htu
      subst htu
      exact .mk token p q hplain

/-! ## one line -/

/-- what an import statement is cut into -/
def importTokens (space name : String) : List Token :=
  [.mark "import", .text space, .mark "as", .name name, .mark ";"]

/-- whether an import outside functions and blocks is nested no deeper than may be -/
def Allows (limit : Nat) : Prop := limit = 0 ∨ 4 ≤ limit

instance (limit : Nat) : Decidable (Allows limit) := inferInstanceAs (Decidable (_ ∨ _))

theorem outerRound_line {cut : List Located} {space name : String}
    (hcut : cut.map (·.token) = importTokens space name) {limit : Nat} (hlimit : Allows limit)
    (n : Nat) (s : State) (rest : List Located) :
    ∃ e, outerRound (solve (n + 4)) limit { s with tokens := cut ++ rest } =
      .ok (.item e, { s with tokens := rest, imports := name :: s.imports }) := by
  obtain ⟨⟨_, p⟩, cut, rfl, rfl, hpath⟩ := List.map_eq_cons_iff.mp hcut
  obtain ⟨⟨_, q⟩, cut, rfl, rfl, has⟩ := List.map_eq_cons_iff.mp hpath
  obtain ⟨⟨_, r⟩, cut, rfl, rfl, hname⟩ := List.map_eq_cons_iff.mp has
  obtain ⟨⟨_, u⟩, cut, rfl, rfl, hend⟩ := List.map_eq_cons_iff.mp hname
  obtain ⟨⟨_, v⟩, cut, rfl, rfl, hnil⟩ := List.map_eq_cons_iff.mp hend
  obtain rfl := List.map_eq_nil_iff.mp hnil
  rcases hlimit with rfl | h
  · exact ⟨_, rfl⟩
  · obtain ⟨limit, rfl⟩ : ∃ i, limit = i + 4 := ⟨limit - 4, by omega⟩
    exact ⟨_, rfl⟩

/-! ## the first lines -/

theorem collect_item {α : Type} {round : P (Round α)} {s s' : State} {a : α}
    (h : round s = .ok (.item a, s')) (n : Nat) :
    collect (n + 1) round s = (collect n round s').map fun r => (a :: r.1, r.2) := by
  rw [collect, bind_apply, h]
  show ((collect n round >>= fun as => pure (a :: as)) s') = _
  rw [bind_apply]
  cases collect n round s' <;> rfl

theorem Alike.import {s s' : State} (h : Alike s s') (name : String) :
    Alike { s with imports := name :: s.imports } { s' with imports := name :: s'.imports } :=
  { h with imports := List.cons_subset_cons name h.imports }

/-- the tokens of the lines that import namespaces under names -/
def linesTokens (lines : List (String × String)) : List Token :=
  lines.flatMap fun l => importTokens l.1 l.2

/-- **One more line** that imports a namespace, behind others and before the rest of a script, stops
no reader that gets by without it. -/
theorem collect_line {limit : Nat} (hlimit : Allows limit) {space name : String}
    {line : List Located} (hline : line.map (·.token) = importTokens space name)
    (lines : List (String × String)) {cuts cuts' : List Located}
    (hcuts : cuts.map (·.token) = linesTokens lines)
    (hcuts' : cuts'.map (·.token) = linesTokens lines) {m n i j : Nat} (hmn : m ≤ n) (hij : i ≤ j)
    {s s' : State} (h : Alike s s') {a : List Expr} {t : State}
    (hread : collect m (outerRound (solve (i + 4)) limit) { s with tokens := cuts ++ s.tokens } =
      .ok (a, t)) :
    ∃ r, collect (n + 1) (outerRound (solve (j + 4)) limit)
      { s' with tokens := cuts' ++ (line ++ s'.tokens) } = .ok r := by
  induction lines generalizing cuts cuts' m n s s' a t with
  | nil =>
    obtain rfl := List.map_eq_nil_iff.mp hcuts
    obtain rfl := List.map_eq_nil_iff.mp hcuts'
    obtain ⟨e, he⟩ := outerRound_line hline hlimit j s' s'.tokens
    have hs : Alike s { s' with imports := name :: s'.imports } :=
      { h with imports := List.subset_cons_of_subset name h.imports }
    obtain ⟨b, t', hb, -⟩ := sim_collect (sim_outerRound
      (sim_solve (Nat.add_le_add_right hij 4)) limit) hmn hs a t hread
    exact ⟨(e :: b, t'), by rw [List.nil_append, collect_item he, hb]; rfl⟩
  | cons l lines ih =>
    obtain ⟨cut, cuts, rfl, hcut, hcuts⟩ := List.map_eq_append_iff.mp hcuts
    obtain ⟨cut', cuts', rfl, hcut', hcuts'⟩ := List.map_eq_append_iff.mp hcuts'
    cases m with
    | zero => cases hread
    | succ m =>
      obtain ⟨n, rfl⟩ : ∃ k, n = k + 1 := ⟨n - 1, by omega⟩
      obtain ⟨e, he⟩ := outerRound_line hcut hlimit i s (cuts ++ s.tokens)
      obtain ⟨e', he'⟩ := outerRound_line hcut' hlimit j s' (cuts' ++ (line ++ s'.tokens))
      rw [List.append_assoc, collect_item he] at hread
      rw [List.append_assoc, collect_item he']
      cases hrest : collect m (outerRound (solve (i + 4)) limit)
          { s with tokens := cuts ++ s.tokens, imports := l.2 :: s.imports } with
      | error fault =>
        rw [hrest] at hread
        cases hread
      | ok r =>
        obtain ⟨b, t'⟩ := r
        obtain ⟨r', hr'⟩ := ih hcuts hcuts' (Nat.le_of_succ_le_succ hmn) (h.import l.2) hrest
        exact ⟨_, by rw [hr']; rfl⟩

/-- how a state reads on -/
def reading (s : State) : Except CompileFault (List Expr × State) :=
  collect (2 * s.tokens.length + 2)
    (outerRound (solve (8 * s.tokens.length + 16)) s.settings.maxExprDepth) s

theorem script_apply (s : State) :
    script s = (reading s).map fun r => (⟨r.2.functions, r.1⟩, r.2) := by
  have hscript : script s = (reading s).bind fun r => .ok (⟨r.2.functions, r.1⟩, r.2) := rfl
  rw [hscript]
  cases reading s <;> rfl

end Parser

/-! ## scripts -/

/-- whether a text is free of syntax errors -/
def Readable (settings : Settings) (spaces : List String) (text : String) : Prop :=
  ∃ parsed, Parsed.ofText settings spaces text = .ok parsed

/-- where a text is read from -/
def Parser.State.initial (settings : Settings) (spaces : List String) (text : String) :
    Parser.State :=
  let tokens := Lexer.scan settings.maxStringSize text
  { tokens, finish := ((tokens.getLast?).map (·.pos)).getD ⟨1, 1⟩, settings, spaces }

theorem readable_iff {settings : Settings} {spaces : List String} {text : String} :
    Readable settings spaces text ↔
      ∃ r, Parser.reading (.initial settings spaces text) = .ok r := by
  have h : Parsed.ofText settings spaces text =
      (Parser.script (.initial settings spaces text)).map (·.1) := rfl
  rw [Readable, h, Parser.script_apply]
  cases Parser.reading (.initial settings spaces text) with
  | error f => exact iff_of_false nofun nofun
  | ok r => exact iff_of_true ⟨_, rfl⟩ ⟨r, rfl⟩

/-- more namespaces bring no syntax error -/
theorem Readable.mono {settings : Settings} {spaces spaces' : List String}
    (hspaces : spaces ⊆ spaces') {text : String} (h : Readable settings spaces text) :
    Readable settings spaces' text := by
  rw [readable_iff] at h ⊢
  obtain ⟨⟨a, t⟩, hread⟩ := h
  have hsame := Parser.sameToken_of_map rfl (Lexer.plain_scan settings.maxStringSize text)
  have hstart : Parser.Alike (.initial settings spaces text) (.initial settings spaces' text) :=
    ⟨hsame, .nil, List.Subset.refl _, ⟨rfl, rfl, .nil, rfl⟩, rfl, hspaces⟩
  obtain ⟨b, t', hb, -⟩ := Parser.sim_collect
    (Parser.sim_outerRound (Parser.sim_solve (Nat.le_refl _)) settings.maxExprDepth)
    (Nat.le_refl _) hstart a t hread
  exact ⟨(b, t'), hb⟩

/-- a namespace whose import statement is one: a word without quotes and backslashes, not too long,
whose last segment is an identifier -/
structure Importable (limit : Nat) (space : String) : Prop where
  word : Import.IsWord space.toList
  quotable : ∀ c ∈ space.toList, c ≠ '"' ∧ c ≠ '\\'
  fits : limit = 0 ∨ Lexer.bytes space.toList ≤ limit
  called : isIdentifier (String.ofList (Import.shortName space.toList)) = true

/-- a line that imports a namespace -/
def importLine (space : String) : List Char := Import.statement space.toList ++ ['\n']

/-- the path and the alias of an import -/
def imported (space : String) : String × String :=
  (space, String.ofList (Import.shortName space.toList))

theorem Importable.each {limit : Nat} {space : String} (h : Importable limit space) :
    ∀ c ∈ space.toList, Lexer.Quotable c := by
  intro c hc
  have hblank := h.word.2 c hc
  obtain ⟨hquote, hslash⟩ := h.quotable c hc
  refine ⟨hquote, hslash, ?_, ?_⟩
  · rintro rfl
    exact absurd hblank (by decide)
  · rintro rfl
    exact absurd hblank (by decide)

theorem scan_line {limit : Nat} {space : String} (h : Importable limit space) (cs : List Char) :
    (Lexer.scan limit (String.ofList (importLine space ++ cs))).map (·.token) =
      Parser.importTokens (imported space).1 (imported space).2 ++
        (Lexer.scan limit (String.ofList cs)).map (·.token) := by
  rw [importLine, List.append_assoc, List.singleton_append,
    Lexer.scan_statement h.each h.fits h.called, String.ofList_toList]
  rfl

section
variable {settings : Settings} {lines : List String}
  (hlines : ∀ space ∈ lines, Importable settings.maxStringSize space)
include hlines

theorem scan_lines (cs : List Char) :
    (Lexer.scan settings.maxStringSize (String.ofList (lines.flatMap importLine ++ cs))).map
        (·.token) =
      Parser.linesTokens (lines.map imported) ++
        (Lexer.scan settings.maxStringSize (String.ofList cs)).map (·.token) := by
  induction lines with
  | nil => rfl
  | cons space lines ih =>
    obtain ⟨h, hlines⟩ := List.forall_mem_cons.mp hlines
    rw [List.flatMap_cons, List.append_assoc, scan_line h, ih hlines, ← List.append_assoc]
    rfl

/-- **One more import line** among the first lines of a script keeps it free of syntax errors, and so
do more namespaces. -/
theorem readable_line {spaces spaces' : List String} (hspaces : spaces ⊆ spaces')
    (hlimit : Parser.Allows settings.maxExprDepth) {space : String}
    (hspace : Importable settings.maxStringSize space) {cs : List Char}
    (h : Readable settings spaces (String.ofList (lines.flatMap importLine ++ cs))) :
    Readable settings spaces'
      (String.ofList (lines.flatMap importLine ++ (importLine space ++ cs))) := by
  rw [readable_iff] at h ⊢
  obtain ⟨⟨a, t⟩, hread⟩ := h
  have hscan := scan_lines hlines cs
  have hscan' := scan_lines hlines (importLine space ++ cs)
  rw [scan_line hspace] at hscan'
  obtain ⟨cuts, ts, hts, hcuts, hbehind⟩ := List.map_eq_append_iff.mp hscan
  obtain ⟨cuts', us, hus, hcuts', hus'⟩ := List.map_eq_append_iff.mp hscan'
  obtain ⟨line, ts', rfl, hline, hbehind'⟩ := List.map_eq_append_iff.mp hus'
  have hplain : ∀ t ∈ ts, Lexer.PlainToken t.token := fun t ht =>
    Lexer.plain_scan _ _ t (hts ▸ List.mem_append_right cuts ht)
  have hsame : List.Forall₂ Parser.SameToken ts ts' :=
    Parser.sameToken_of_map (hbehind.trans hbehind'.symm) hplain
  have hlength : (cuts' ++ (line ++ ts')).length = (cuts ++ ts).length + 5 := by
    have hcut : cuts'.length = cuts.length := by
      have hboth := congrArg List.length (hcuts.trans hcuts'.symm)
      rw [List.length_map, List.length_map] at hboth
      exact hboth.symm
    have hfive : line.length = 5 := by
      have hboth := congrArg List.length hline
      rw [List.length_map] at hboth
      exact hboth
    rw [List.length_append, List.length_append, List.length_append, hcut, hfive, hsame.length_eq]
    omega
  unfold Parser.State.initial Parser.reading at hread ⊢
  dsimp only at hread ⊢
  rw [hts] at hread
  rw [hus, hlength, show 2 * ((cuts ++ ts).length + 5) + 2 = 2 * (cuts ++ ts).length + 11 + 1 by omega,
    show 8 * ((cuts ++ ts).length + 5) + 16 = 8 * (cuts ++ ts).length + 52 + 4 by omega]
  have hstart (p q : Pos) : Parser.Alike { tokens := ts, finish := p, settings, spaces }
      { tokens := ts', finish := q, settings, spaces := spaces' } :=
    ⟨hsame, .nil, List.Subset.refl _, ⟨rfl, rfl, .nil, rfl⟩, rfl, hspaces⟩
  exact Parser.collect_line hlimit hline (lines.map imported) hcuts hcuts'
    (Nat.add_le_add_left (by decide) _) (Nat.add_le_add_left (by decide) _) (hstart _ _)
    (i := 8 * (cuts ++ ts).length + 12) hread

end

end Scripting.Script
