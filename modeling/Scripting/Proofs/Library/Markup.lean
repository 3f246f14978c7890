import Scripting.Proofs.Library.Function

/-!
# Escaped text is read back

What a text looks like does not matter: escaped, it holds no ampersand of its own.  So a reference
never goes from one character into the next, and reading back resolves what escaping wrote, one
character after the other.

* `predefined`, `named`   the characters with a meaning, and what a reference looks like;
* `Codec.Lawful`          what is asked of a way to escape and to read back;
* `Codec.lawful_standard` the standard one does as it is asked;
* `eq_ampersand_of_mem_escape`, `ampersand_escape`   what an escaped text holds of markup;
* `Codec.Lawful.unescape_escape`   it is read back as the text that was escaped;
* `escaped_restored`      all of it, for the functions that scripts call.
-/

namespace Scripting.Markup

open Library (Catalog Native Surroundings)
open Script (Value)

/-- the characters with a meaning, and the names of the entities that stand for them -/
def predefined : List (Char × List Char) :=
  [('<', "lt".toList), ('>', "gt".toList), ('&', "amp".toList), ('\'', "apos".toList),
    ('"', "quot".toList)]

/-- a reference by name -/
def named (name : List Char) : List Char := '&' :: name ++ [';']

theorem escapeChar_cases (c : Char) :
    (∃ name, (c, name) ∈ predefined ∧ escapeChar c = named name) ∨
      ((∀ p ∈ predefined, p.1 ≠ c) ∧ escapeChar c = [c]) := by
  unfold escapeChar
  split
  · exact .inl ⟨"lt".toList, by decide, rfl⟩
  · exact .inl ⟨"gt".toList, by decide, rfl⟩
  · exact .inl ⟨"amp".toList, by decide, rfl⟩
  · exact .inl ⟨"apos".toList, by decide, rfl⟩
  · exact .inl ⟨"quot".toList, by decide, rfl⟩
  · rename_i hlt hgt hamp hapos hquot
    refine .inr ⟨?_, rfl⟩
    simp only [predefined, List.forall_mem_cons]
    exact ⟨Ne.symm hlt, Ne.symm hgt, Ne.symm hamp, Ne.symm hapos, Ne.symm hquot,
      fun p hp => absurd hp List.not_mem_nil⟩

/-- a predefined entity is what its name says, and the name runs up to the semicolon -/
theorem entity_of_predefined : ∀ p ∈ predefined,
    entity? p.2 = some p.1 ∧ ';' ∉ p.2 ∧ '&' ∉ p.2 ∧ p.2.head? ≠ some '#' := by decide

/-- A codec that writes the characters with a meaning as references to their entities and all others
as they are, and that resolves such references from left to right. -/
structure Codec.Lawful (k : Codec) : Prop where
  escape_nil : k.escape [] = []
  escape_predefined : ∀ p ∈ predefined, ∀ cs, k.escape (p.1 :: cs) = named p.2 ++ k.escape cs
  escape_plain : ∀ c, (∀ p ∈ predefined, p.1 ≠ c) → ∀ cs, k.escape (c :: cs) = c :: k.escape cs
  unescape_nil : k.unescape [] = .ok []
  unescape_named : ∀ p ∈ predefined, ∀ cs ds, k.unescape cs = .ok ds →
    k.unescape (named p.2 ++ cs) = .ok (p.1 :: ds)
  unescape_plain : ∀ c ≠ '&', ∀ cs ds, k.unescape cs = .ok ds → k.unescape (c :: cs) = .ok (c :: ds)

/-! ## the standard codec -/

theorem escapeChar_predefined : ∀ p ∈ predefined, escapeChar p.1 = named p.2 := by decide

theorem escapeChar_plain {c : Char} (h : ∀ p ∈ predefined, p.1 ≠ c) : escapeChar c = [c] := by
  rcases escapeChar_cases c with ⟨name, hname, -⟩ | ⟨-, hc⟩
  · exact absurd rfl (h _ hname)
  · exact hc

theorem reference?_append {name : List Char} (hs : ';' ∉ name) (ha : '&' ∉ name)
    (rest : List Char) : reference? (name ++ ';' :: rest) = some (name, rest) := by
  induction name with
  | nil => rfl
  | cons c cs ih =>
    rw [List.mem_cons, not_or] at hs ha
    rw [List.cons_append, reference?, if_neg (Ne.symm hs.1), if_neg (Ne.symm ha.1), ih hs.2 ha.2]
    rfl

theorem resolve_of_entity? {name : List Char} {c : Char} (h : entity? name = some c)
    (hn : name.head? ≠ some '#') (start : Nat) : resolve start name = .ok c := by
  unfold resolve
  split
  · exact absurd rfl hn
  · rw [h]

/-- where a name starts matters to faults alone -/
theorem resolve_start {start : Nat} {name : List Char} {c : Char} (h : resolve start name = .ok c)
    (start' : Nat) : resolve start' name = .ok c := by
  unfold resolve at h ⊢
  split at h
  · exact h
  · split at h
    · exact h
    · cases h

theorem unescapeFrom_reference {name : List Char} {c : Char} {start : Nat} {cs rest : List Char}
    (hr : reference? cs = some (name, rest)) (hc : resolve (start + 1) name = .ok c) :
    unescapeFrom start ('&' :: cs) =
      (unescapeFrom (start + 2 + byteLength name) rest).map (c :: ·) := by
  rw [unescapeFrom, if_pos rfl]
  split
  · rename_i hnone
    cases hr.symm.trans hnone
  · rename_i name' rest' hsome
    obtain ⟨rfl, rfl⟩ := Prod.mk.inj (Option.some_inj.mp (hr.symm.trans hsome))
    rw [hc]

theorem unescapeFrom_plain {c : Char} (h : c ≠ '&') (start : Nat) (rest : List Char) :
    unescapeFrom start (c :: rest) = (unescapeFrom (start + c.utf8Size) rest).map (c :: ·) := by
  rw [unescapeFrom, if_neg h]

theorem map_cons_eq_ok {r : Except Fault (List Char)} {c : Char} {ds : List Char} :
    r.map (c :: ·) = .ok ds ↔ ∃ es, r = .ok es ∧ c :: es = ds := by
  cases r <;> simp [Except.map]

/-- and so does where a text starts -/
theorem unescapeFrom_start {start : Nat} {cs ds : List Char} (h : unescapeFrom start cs = .ok ds)
    (start' : Nat) : unescapeFrom start' cs = .ok ds := by
  fun_induction unescapeFrom start cs generalizing start' ds with
  | case1 =>
    rw [unescapeFrom]
    exact h
  | case2 => cases h
  | case3 => cases h
  | case4 start rest name behind hr d hd ih =>
    obtain ⟨es, hes, rfl⟩ := map_cons_eq_ok.mp h
    rw [unescapeFrom_reference hr (resolve_start hd _), ih hes]
    rfl
  | case5 start c rest hc ih =>
    obtain ⟨es, hes, rfl⟩ := map_cons_eq_ok.mp h
    rw [unescapeFrom_plain hc, ih hes]
    rfl

theorem Codec.unescape_standard {cs ds : List Char} :
    Codec.standard.unescape cs = .ok ds ↔ unescapeFrom 0 cs = .ok ds := by
  show (Markup.unescape cs).mapError Fault.message = .ok ds ↔ Markup.unescape cs = .ok ds
  cases Markup.unescape cs with
  | error fault => exact iff_of_false (fun h => nomatch h) (fun h => nomatch h)
  | ok es =>
    show Except.ok es = .ok ds ↔ Except.ok es = .ok ds
    rw [Except.ok.injEq, Except.ok.injEq]

theorem Codec.lawful_standard : Codec.standard.Lawful where
  escape_nil := rfl
  escape_predefined p hp cs := by
    show Markup.escape (p.1 :: cs) = named p.2 ++ Markup.escape cs
    rw [escape_cons, escapeChar_predefined p hp]
  escape_plain c hc cs := by
    show Markup.escape (c :: cs) = c :: Markup.escape cs
    rw [escape_cons, escapeChar_plain hc]
    rfl
  unescape_nil := by rw [Codec.unescape_standard, unescapeFrom]
  unescape_named p hp cs ds h := by
    obtain ⟨he, hs, ha, hn⟩ := entity_of_predefined p hp
    have hcs : named p.2 ++ cs = '&' :: (p.2 ++ ';' :: cs) := by simp [named]
    rw [Codec.unescape_standard] at h ⊢
    rw [hcs, unescapeFrom_reference (reference?_append hs ha cs) (resolve_of_entity? he hn _),
      unescapeFrom_start h]
    rfl
  unescape_plain c hc cs ds h := by
    rw [Codec.unescape_standard] at h ⊢
    rw [unescapeFrom_plain hc, unescapeFrom_start h]
    rfl

/-! ## reading back -/

namespace Codec.Lawful

variable {k : Codec} (lawful : k.Lawful)
include lawful

/-- there is but one way to escape a text -/
theorem escape_eq (cs : List Char) : k.escape cs = Markup.escape cs := by
  induction cs with
  | nil => exact lawful.escape_nil
  | cons c cs ih =>
    rw [escape_cons, ← ih]
    rcases escapeChar_cases c with ⟨name, hname, hc⟩ | ⟨hplain, hc⟩
    · rw [hc]
      exact lawful.escape_predefined _ hname cs
    · rw [hc]
      exact lawful.escape_plain c hplain cs

theorem unescape_escape (cs : List Char) : k.unescape (Markup.escape cs) = .ok cs := by
  induction cs with
  | nil => exact lawful.unescape_nil
  | cons c cs ih =>
    rw [escape_cons]
    rcases escapeChar_cases c with ⟨name, hname, hc⟩ | ⟨hplain, hc⟩
    · rw [hc]
      exact lawful.unescape_named _ hname _ _ ih
    · have hne : c ≠ '&' := Ne.symm (hplain ('&', "amp".toList) (by decide))
      rw [hc]
      exact lawful.unescape_plain c hne _ _ ih

end Codec.Lawful

theorem escape_injective {cs ds : List Char} (h : escape cs = escape ds) : cs = ds := by
  have lawful := Codec.lawful_standard
  have hds := lawful.unescape_escape ds
  rw [← h, lawful.unescape_escape cs] at hds
  exact Except.ok.inj hds

/-! ## what an escaped text does not hold -/

/-- the characters of a reference by name have no meaning, but for the ampersand that starts it -/
theorem mem_named {p : Char × List Char} (hp : p ∈ predefined) :
    ∀ d ∈ named p.2, d = '&' ∨ ∀ q ∈ predefined, q.1 ≠ d := by
  have hall : (predefined.all fun p => (named p.2).all fun d =>
      d == '&' || predefined.all fun q => q.1 != d) = true := by decide
  intro d hd
  have hd := List.all_eq_true.mp (List.all_eq_true.mp hall p hp) d hd
  simpa using hd

theorem eq_ampersand_of_mem_escape {cs : List Char} {p : Char × List Char} (hp : p ∈ predefined)
    (h : p.1 ∈ escape cs) : p.1 = '&' := by
  obtain ⟨c, -, hmem⟩ := List.mem_flatMap.mp h
  rcases escapeChar_cases c with ⟨name, hname, hc⟩ | ⟨hplain, hc⟩
  · exact (mem_named hname p.1 (hc ▸ hmem)).resolve_right fun hne => hne p hp rfl
  · rw [hc, List.mem_singleton] at hmem
    exact absurd hmem (hplain p hp)

theorem eq_nil_of_named {p : Char × List Char} (hp : p ∈ predefined) {before after : List Char}
    (h : named p.2 = before ++ '&' :: after) : before = [] := by
  obtain ⟨-, -, ha, -⟩ := entity_of_predefined p hp
  cases before with
  | nil => rfl
  | cons c before =>
    obtain ⟨-, h⟩ := List.cons.inj h
    have h : p.2 ++ [';'] = before ++ '&' :: after := h
    have hmem : '&' ∈ p.2 ++ [';'] := h ▸ List.mem_append_right _ List.mem_cons_self
    rcases List.mem_append.mp hmem with hmem | hmem
    · exact absurd hmem ha
    · exact absurd hmem (by decide)

/-- An ampersand in an escaped text starts a reference to a predefined entity. -/
theorem ampersand_escape {cs before after : List Char} (h : escape cs = before ++ '&' :: after) :
    ∃ p ∈ predefined, p.2 ++ [';'] <+: after := by
  induction cs generalizing before with
  | nil => exact absurd h (by simp)
  | cons c cs ih =>
    rw [escape_cons, List.append_eq_append_iff] at h
    -- the ampersand stands behind what the first character is written as, or in it
    rcases h with ⟨behind, -, h⟩ | ⟨rest, hc, h⟩
    · exact ih h
    cases rest with
    | nil => exact ih (show escape cs = [] ++ '&' :: after from h.symm)
    | cons d rest =>
      obtain ⟨rfl, h⟩ := List.cons.inj h
      rcases escapeChar_cases c with ⟨name, hname, hn⟩ | ⟨hplain, hp⟩
      · rw [hn] at hc
        obtain rfl := eq_nil_of_named hname hc
        obtain ⟨-, hc⟩ := List.cons.inj hc
        obtain ⟨-, h⟩ := List.cons.inj h
        exact ⟨(c, name), hname, escape cs, (congrArg (· ++ escape cs) hc).trans h.symm⟩
      · have hmem : '&' ∈ escapeChar c := hc ▸ List.mem_append_right _ List.mem_cons_self
        rw [hp, List.mem_singleton] at hmem
        exact absurd hmem.symm (hplain ('&', "amp".toList) (by decide)).symm

/-! ## the functions that scripts call -/

section
variable (markup : Codec) (around : Surroundings)

/-- what a function of the namespace `Xml` answers for a text, over some codec -/
def xml? (name s : String) : Option (Except String Value) :=
  Catalog.standard.answer? markup around "xml" "Xml" name [.text s]

theorem xml?_escape (s : String) : xml? markup around "escape" s =
    some (.ok (.text (String.ofList (markup.escape s.toList)))) := by
  have hb : Catalog.standard.get? "xml" = some Library.xml := rfl
  exact Catalog.answer?_of_native markup around .escape hb rfl rfl

theorem xml?_unescape (s : String) : xml? markup around "unescape" s =
    some (match markup.unescape s.toList with
      | .ok cs => .ok (.text (String.ofList cs))
      | .error message => .error ("invalid XML text: " ++ message)) := by
  have hb : Catalog.standard.get? "xml" = some Library.xml := rfl
  exact Catalog.answer?_of_native markup around .unescape hb rfl rfl

end

/-- **Escaping is inverted by reading back**, whatever a text holds, over every lawful codec, and
the standard one is lawful.  Escaping a text always answers a text; there is no angle bracket and no
quote in it, and each ampersand starts a reference to a predefined entity; and reading it back
answers the text that was escaped.  So no two texts are written in one way. -/
theorem escaped_restored (around : Surroundings) :
    Codec.standard.Lawful ∧ ∀ markup : Codec, markup.Lawful →
    (∀ s : String, ∃ e : String, xml? markup around "escape" s = some (.ok (.text e)) ∧
      (∀ c ∈ ['<', '>', '\'', '"'], c ∉ e.toList) ∧
      (∀ before after, e.toList = before ++ '&' :: after →
        ∃ name ∈ ["lt", "gt", "amp", "apos", "quot"], (name ++ ";").toList <+: after) ∧
      xml? markup around "unescape" e = some (.ok (.text s))) ∧
    ∀ s t, xml? markup around "escape" s = xml? markup around "escape" t → s = t := by
  refine ⟨Codec.lawful_standard, fun markup lawful => ?_⟩
  have hescape (s : String) := xml?_escape markup around s
  simp only [lawful.escape_eq] at hescape
  refine ⟨fun s => ⟨String.ofList (escape s.toList), hescape s, ?_, ?_, ?_⟩, ?_⟩
  · have hmeaning : ∀ c ∈ ['<', '>', '\'', '"'], c ≠ '&' ∧ ∃ p ∈ predefined, p.1 = c := by
      simp [predefined]
    intro c hc hmem
    rw [String.toList_ofList] at hmem
    obtain ⟨hne, p, hp, rfl⟩ := hmeaning c hc
    exact hne (eq_ampersand_of_mem_escape hp hmem)
  · have hname : ∀ p ∈ predefined, ∃ name ∈ ["lt", "gt", "amp", "apos", "quot"],
        (name ++ ";").toList = p.2 ++ [';'] := by decide
    intro before after h
    rw [String.toList_ofList] at h
    obtain ⟨p, hp, hstart⟩ := ampersand_escape h
    obtain ⟨name, hmem, hn⟩ := hname p hp
    exact ⟨name, hmem, hn ▸ hstart⟩
  · rw [xml?_unescape, String.toList_ofList, lawful.unescape_escape]
    dsimp only
    rw [String.ofList_toList]
  · intro s t h
    rw [hescape, hescape] at h
    have h : String.ofList (escape s.toList) = String.ofList (escape t.toList) := by
      injection h with h
      injection h with h
      injection h
    exact String.toList_inj.mp (escape_injective (String.ofList_injective h))

/-- a text that looks like one that has been escaped -/
theorem escaped_restored_reference :
    Codec.standard.Lawful ∧
      xml? .standard {} "escape" "&#38;lt;" = some (.ok (.text "&amp;#38;lt;")) ∧
      (∃ name ∈ ["lt", "gt", "amp", "apos", "quot"],
        (name ++ ";").toList <+: "amp;#38;lt;".toList) ∧
      xml? .standard {} "unescape" "&amp;#38;lt;" = some (.ok (.text "&#38;lt;")) := by
  obtain ⟨lawful, restored⟩ := escaped_restored {}
  obtain ⟨e, he, -, hreference, hrestored⟩ := (restored .standard lawful).1 "&#38;lt;"
  have hwritten : xml? .standard {} "escape" "&#38;lt;" = some (.ok (.text "&amp;#38;lt;")) := rfl
  obtain rfl : "&amp;#38;lt;" = e := by
    injection hwritten.symm.trans he with h
    injection h with h
    injection h
  exact ⟨lawful, he, hreference [] _ rfl, hrestored⟩

end Scripting.Markup
