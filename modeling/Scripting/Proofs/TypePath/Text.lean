import Scripting.Proofs.Script.Identifier
import Scripting.TypePath

/-!
# Texts of types

A type is written as a path with type arguments, as a name that stands in no path, or as a
reference, a tuple, an array or a slice of types.  What `TypePath.describe` makes of such a text goes
by its first angle bracket and its double colons.

* `TypeText`           the types, with their texts;
* `describe_declared`  a path gives its crate, and its crate and modules as a namespace;
* `describe_uncut`     a text without a path gives the library `std` and no namespace;
* `describe_cut`       a text with a path further inside gives what stands before the path;
* `proper_iff`         so exactly the first two are understood.
-/

namespace Scripting

open Text

/-! ## names -/

/-- what names are made of: word characters, and characters beyond ASCII that are no blanks -/
def isNameChar (c : Char) : Bool := isWordChar c || (decide (128 ≤ c.toNat) && !isBlank c)

/-- a single name -/
structure IsName (s : String) : Prop where
  ne_nil : s.toList ≠ []
  chars : ∀ c ∈ s.toList, isNameChar c = true
  first : ∀ c ∈ s.toList.head?, isDigit c = false

theorem isName_iff {s : String} : IsName s ↔ s.toList ≠ [] ∧ s.toList.all isNameChar = true ∧
    s.toList.head?.all (fun c => !isDigit c) = true := by
  rw [List.all_eq_true, Option.all_eq_true]
  exact ⟨fun h => ⟨h.ne_nil, h.chars, fun c hc => by simp [h.first c hc]⟩,
    fun h => ⟨h.1, h.2.1, fun c hc => by simpa using h.2.2 c hc⟩⟩

instance (s : String) : Decidable (IsName s) := decidable_of_iff _ isName_iff.symm

theorem ne_of_isNameChar {c d : Char} (h : isNameChar c = true) (hd : isNameChar d = false) :
    c ≠ d := by
  rintro rfl
  rw [h] at hd
  cases hd

/-! ## types -/

inductive TypeText where
  /-- a type that stands in no path -/
  | plain (name : String)
  /-- a type in a crate, perhaps in modules of it, perhaps with type arguments -/
  | path (crate : String) (modules : List String) (name : String) (args : List TypeText)
  | reference (mutable : Bool) (target : TypeText)
  | tuple (items : List TypeText)
  | array (item : TypeText) (length : Nat)
  | slice (item : TypeText)

namespace TypeText

/-- texts with commas between them, and one behind a single text -/
def listed : List (List Char) → List Char
  | [t] => t ++ [',']
  | ts => [',', ' '].intercalate ts

mutual

/-- how a type is written -/
def text : TypeText → List Char
  | plain name => name.toList
  | path crate modules name args =>
    [':', ':'].intercalate ((crate :: modules ++ [name]).map String.toList) ++
      match args with
      | [] => []
      | args => '<' :: [',', ' '].intercalate (texts args) ++ ['>']
  | reference mutable target => '&' :: (if mutable then "mut ".toList else []) ++ text target
  | tuple items => '(' :: listed (texts items) ++ [')']
  | array item length => '[' :: text item ++ "; ".toList ++ Nat.toDigits 10 length ++ [']']
  | slice item => '[' :: text item ++ [']']

def texts : List TypeText → List (List Char)
  | [] => []
  | t :: ts => text t :: texts ts

end

mutual

/-- whether a path occurs in it -/
def hasPath : TypeText → Bool
  | plain _ => false
  | path .. => true
  | reference _ target => hasPath target
  | tuple items => anyPath items
  | array item _ => hasPath item
  | slice item => hasPath item

def anyPath : List TypeText → Bool
  | [] => false
  | t :: ts => hasPath t || anyPath ts

end

/-- whether it is a path itself -/
def isPath : TypeText → Bool
  | path .. => true
  | _ => false

mutual

/-- its names are names -/
def Named : TypeText → Prop
  | plain name => ∀ c ∈ name.toList, isNameChar c = true
  | path crate modules name args =>
    (∀ s ∈ crate :: modules ++ [name], IsName s) ∧ AllNamed args
  | reference _ target => Named target
  | tuple items => AllNamed items
  | array item _ => Named item
  | slice item => Named item

def AllNamed : List TypeText → Prop
  | [] => True
  | t :: ts => Named t ∧ AllNamed ts

end

/-! ## texts without a path -/

/-- a text that is not cut anywhere -/
def Uncut (cs : List Char) : Prop := ∀ c ∈ cs, c ≠ ':' ∧ c ≠ '<'

instance (cs : List Char) : Decidable (Uncut cs) :=
  List.decidableBAll (fun c => c ≠ ':' ∧ c ≠ '<') cs

theorem Uncut.angle {cs : List Char} (h : Uncut cs) : '<' ∉ cs := fun hm => (h _ hm).2 rfl

theorem uncut_append {a b : List Char} : Uncut (a ++ b) ↔ Uncut a ∧ Uncut b := by
  simp only [Uncut, List.mem_append]
  exact ⟨fun h => ⟨fun c hc => h c (.inl hc), fun c hc => h c (.inr hc)⟩,
    fun h c hc => hc.elim (h.1 c) (h.2 c)⟩

theorem uncut_cons {c : Char} {cs : List Char} :
    Uncut (c :: cs) ↔ (c ≠ ':' ∧ c ≠ '<') ∧ Uncut cs := List.forall_mem_cons

theorem uncut_of_isNameChar {cs : List Char} (h : ∀ c ∈ cs, isNameChar c = true) : Uncut cs :=
  fun c hc => ⟨ne_of_isNameChar (h c hc) (by decide), ne_of_isNameChar (h c hc) (by decide)⟩

theorem uncut_intercalate {sep : List Char} (hsep : Uncut sep) {ts : List (List Char)}
    (h : ∀ t ∈ ts, Uncut t) : Uncut (sep.intercalate ts) := by
  intro c hc
  rcases mem_intercalate hc with hc | ⟨t, ht, hc⟩
  · exact hsep c hc
  · exact h t ht c hc

theorem uncut_listed {ts : List (List Char)} (h : ∀ t ∈ ts, Uncut t) : Uncut (listed ts) := by
  have comma : Uncut [',', ' '] := by decide
  unfold listed
  split
  · exact uncut_append.mpr ⟨h _ List.mem_cons_self, by decide⟩
  · exact uncut_intercalate comma h

theorem uncut_toDigits (n : Nat) : Uncut (Nat.toDigits 10 n) := by
  intro c hc
  have hd := Nat.isDigit_of_mem_toDigits (by decide) (by decide) hc
  constructor <;> rintro rfl <;> cases hd

mutual

theorem uncut_text (t : TypeText) (hn : t.Named) (h : t.hasPath = false) : Uncut t.text := by
  cases t with
  | plain name => exact uncut_of_isNameChar hn
  | path crate modules name args => cases h
  | reference mutable target =>
    have ht := uncut_text target hn h
    cases mutable
    · exact uncut_cons.mpr ⟨by decide, ht⟩
    · exact uncut_cons.mpr ⟨by decide, uncut_append.mpr ⟨by decide, ht⟩⟩
  | tuple items =>
    refine uncut_cons.mpr ⟨by decide, uncut_append.mpr ⟨?_, by decide⟩⟩
    exact uncut_listed (uncut_texts items hn h)
  | array item length =>
    refine uncut_cons.mpr ⟨by decide, uncut_append.mpr ⟨?_, by decide⟩⟩
    exact uncut_append.mpr
      ⟨uncut_append.mpr ⟨uncut_text item hn h, by decide⟩, uncut_toDigits length⟩
  | slice item =>
    exact uncut_cons.mpr ⟨by decide, uncut_append.mpr ⟨uncut_text item hn h, by decide⟩⟩

theorem uncut_texts (ts : List TypeText) (hn : AllNamed ts) (h : anyPath ts = false) :
    ∀ cs ∈ texts ts, Uncut cs := by
  cases ts with
  | nil => exact fun _ h => nomatch h
  | cons t ts =>
    obtain ⟨ht, hts⟩ := Bool.or_eq_false_iff.mp h
    exact List.forall_mem_cons.mpr ⟨uncut_text t hn.1 ht, uncut_texts ts hn.2 hts⟩

end

/-! ## texts with a path inside -/

/-- a text that is cut for the first time at the double colon of a path -/
def CutInPath (cs : List Char) : Prop :=
  ∃ before c rest, cs = before ++ ':' :: ':' :: c :: rest ∧ Uncut before ∧ isNameChar c = true

theorem CutInPath.prepend {cs : List Char} (h : CutInPath cs) (front : List Char)
    (hf : Uncut front) : CutInPath (front ++ cs) := by
  obtain ⟨before, c, rest, rfl, hb, hc⟩ := h
  exact ⟨front ++ before, c, rest, (List.append_assoc ..).symm, uncut_append.mpr ⟨hf, hb⟩, hc⟩

theorem CutInPath.append {cs : List Char} (h : CutInPath cs) (behind : List Char) :
    CutInPath (cs ++ behind) := by
  obtain ⟨before, c, rest, rfl, hb, hc⟩ := h
  exact ⟨before, c, rest ++ behind, List.append_assoc .., hb, hc⟩

theorem cutInPath_intercalate {a b : String} (ha : IsName a) (hb : IsName b) (ids : List String) :
    CutInPath ([':', ':'].intercalate ((a :: b :: ids).map String.toList)) := by
  obtain ⟨c, cs, hc⟩ := List.exists_cons_of_ne_nil hb.ne_nil
  have hname : isNameChar c = true := hb.chars c (hc ▸ List.mem_cons_self)
  have head : ∃ rest, [':', ':'].intercalate ((b :: ids).map String.toList) = c :: rest := by
    cases ids with
    | nil => exact ⟨cs, by rw [List.map_singleton, List.intercalate_singleton, hc]⟩
    | cons d ids =>
      rw [List.map_cons, List.map_cons, List.intercalate_cons_cons, hc]
      exact ⟨_, rfl⟩
  obtain ⟨rest, hrest⟩ := head
  refine ⟨a.toList, c, rest, ?_, uncut_of_isNameChar ha.chars, hname⟩
  rw [List.map_cons, List.map_cons, List.intercalate_cons_cons, ← List.map_cons, hrest]
  simp

theorem cutInPath_path {crate : String} {modules : List String} {name : String}
    (hn : ∀ s ∈ crate :: modules ++ [name], IsName s) (args : List TypeText) :
    CutInPath (path crate modules name args).text := by
  unfold text
  refine CutInPath.append ?_ _
  cases modules with
  | nil => exact cutInPath_intercalate (hn _ (by simp)) (hn _ (by simp)) []
  | cons m ms => exact cutInPath_intercalate (hn _ (by simp)) (hn _ (by simp)) (ms ++ [name])

theorem cutInPath_commas {t : List Char} (ht : CutInPath t) (behind : List (List Char)) :
    ∀ {before : List (List Char)}, (∀ u ∈ before, Uncut u) →
      CutInPath ([',', ' '].intercalate (before ++ t :: behind)) := by
  intro before hb
  induction before with
  | nil =>
    cases behind with
    | nil =>
      rw [List.nil_append, List.intercalate_singleton]
      exact ht
    | cons u us =>
      rw [List.nil_append, List.intercalate_cons_cons]
      exact (ht.append _).append _
  | cons u us ih =>
    obtain ⟨v, vs, hv⟩ : ∃ v vs, us ++ t :: behind = v :: vs := by
      cases us with
      | nil => exact ⟨t, behind, rfl⟩
      | cons v vs => exact ⟨v, vs ++ t :: behind, rfl⟩
    have hrest := ih fun x hx => hb x (List.mem_cons_of_mem u hx)
    rw [List.cons_append, hv, List.intercalate_cons_cons, ← hv]
    exact hrest.prepend _ (uncut_append.mpr ⟨hb u List.mem_cons_self, by decide⟩)

theorem cutInPath_listed {t : List Char} (ht : CutInPath t) (behind : List (List Char))
    {before : List (List Char)} (hb : ∀ u ∈ before, Uncut u) :
    CutInPath (listed (before ++ t :: behind)) := by
  unfold listed
  split
  · rename_i u hu
    obtain ⟨rfl, rfl⟩ : before = [] ∧ t = u := by
      cases before with
      | nil => exact ⟨rfl, (List.cons.inj hu).1⟩
      | cons v vs => simp at hu
    exact ht.append _
  · exact cutInPath_commas ht behind hb

mutual

/-- the first cut is in the first path -/
theorem cutInPath_text (t : TypeText) (hn : t.Named) (h : t.hasPath = true) :
    CutInPath t.text := by
  cases t with
  | plain name => cases h
  | path crate modules name args => exact cutInPath_path hn.1 args
  | reference mutable target =>
    have ht := cutInPath_text target hn h
    cases mutable
    · exact ht.prepend ['&'] (by decide)
    · exact ht.prepend "&mut ".toList (by decide)
  | tuple items =>
    obtain ⟨before, u, behind, hts, hb, hu⟩ := cutInPath_texts items hn h
    have hlisted := cutInPath_listed hu behind hb
    rw [← hts] at hlisted
    exact (hlisted.append [')']).prepend ['('] (by decide)
  | array item length =>
    have ht := cutInPath_text item hn h
    exact (((ht.append _).append _).append _).prepend ['['] (by decide)
  | slice item =>
    have ht := cutInPath_text item hn h
    exact (ht.append _).prepend ['['] (by decide)

/-- of several texts the first with a path is cut first -/
theorem cutInPath_texts (ts : List TypeText) (hn : AllNamed ts) (h : anyPath ts = true) :
    ∃ before t behind, texts ts = before ++ t :: behind ∧ (∀ u ∈ before, Uncut u) ∧
      CutInPath t := by
  cases ts with
  | nil => cases h
  | cons t ts =>
    cases ht : t.hasPath with
    | true => exact ⟨[], t.text, texts ts, rfl, fun _ h => (nomatch h), cutInPath_text t hn.1 ht⟩
    | false =>
      rw [anyPath, ht, Bool.false_or] at h
      obtain ⟨before, u, behind, hts, hb, hu⟩ := cutInPath_texts ts hn.2 h
      refine ⟨t.text :: before, u, behind, ?_, ?_, hu⟩
      · rw [texts, hts]
        rfl
      · exact List.forall_mem_cons.mpr ⟨uncut_text t hn.1 ht, hb⟩

end

end TypeText

/-! ## what is made of a text -/

namespace TypePath

open TypeText

theorem plain_append {a : List Char} (h : '<' ∉ a) (b : List Char) :
    plain (a ++ b) = a ++ plain b :=
  List.takeWhile_append_of_pos fun c hc => by
    have hne : c ≠ '<' := fun e => h (e ▸ hc)
    simpa using hne

theorem plain_eq_self {a : List Char} (h : '<' ∉ a) : plain a = a := by
  have ha := plain_append h []
  rw [List.append_nil] at ha
  rw [ha]
  exact List.append_nil a

theorem piecesFrom_uncut {a : List Char} (h : Uncut a) (acc : List Char) :
    piecesFrom acc a = [acc.reverse ++ a] := by
  induction a generalizing acc with
  | nil => simp [piecesFrom]
  | cons c cs ih =>
    obtain ⟨hc, hcs⟩ := uncut_cons.mp h
    have hstep : piecesFrom acc (c :: cs) = piecesFrom (c :: acc) cs := by
      rw [piecesFrom]
      rintro rest rfl
      exact absurd rfl hc.1
    rw [hstep, ih hcs]
    simp

theorem piecesFrom_cut {a : List Char} (h : Uncut a) (acc b : List Char) :
    piecesFrom acc (a ++ ':' :: ':' :: b) = (acc.reverse ++ a) :: piecesFrom [] b := by
  induction a generalizing acc with
  | nil => simp [piecesFrom]
  | cons c cs ih =>
    obtain ⟨hc, hcs⟩ := uncut_cons.mp h
    have hstep : piecesFrom acc (c :: (cs ++ ':' :: ':' :: b)) =
        piecesFrom (c :: acc) (cs ++ ':' :: ':' :: b) := by
      rw [piecesFrom]
      rintro rest rfl
      exact absurd rfl hc.1
    rw [List.cons_append, hstep, ih hcs]
    simp

/-- words with double colons between them are the pieces -/
theorem piecesFrom_intercalate {ws : List (List Char)} (hne : ws ≠ [])
    (h : ∀ w ∈ ws, Uncut w) : piecesFrom [] ([':', ':'].intercalate ws) = ws := by
  induction ws with
  | nil => exact absurd rfl hne
  | cons w ws ih =>
    have hw := h w List.mem_cons_self
    cases ws with
    | nil => rw [List.intercalate_singleton, piecesFrom_uncut hw]; rfl
    | cons v ws =>
      have hv := ih (List.cons_ne_nil v ws) fun x hx => h x (List.mem_cons_of_mem w hx)
      rw [List.intercalate_cons_cons, List.append_assoc]
      exact (piecesFrom_cut hw [] _).trans (congrArg (w :: ·) hv)

/-- what was read before goes into the first piece -/
theorem exists_piece {acc : List Char} (h : acc ≠ []) (cs : List Char) :
    ∃ w ∈ piecesFrom acc cs, w ≠ [] := by
  fun_induction piecesFrom acc cs with
  | case1 acc cs => exact ⟨acc.reverse, List.mem_cons_self, by simpa using h⟩
  | case2 acc c cs _ ih => exact ih (List.cons_ne_nil c acc)
  | case3 acc => exact ⟨acc.reverse, List.mem_cons_self, by simpa using h⟩

/-- type arguments, or nothing -/
def Arguments (cs : List Char) : Prop := ∀ c ∈ cs.head?, c = '<'

instance (cs : List Char) : Decidable (Arguments cs) :=
  decidable_of_iff (cs.head?.all (· == '<') = true) (by simp [Arguments, Option.all_eq_true])

theorem plain_arguments {args : List Char} (h : Arguments args) : plain args = [] := by
  cases args with
  | nil => rfl
  | cons c cs =>
    obtain rfl := h c rfl
    rfl

section
variable {ids : List String} (hne : ids ≠ []) (hn : ∀ s ∈ ids, IsName s)
include hne hn

theorem segments_names : segments ([':', ':'].intercalate (ids.map String.toList)) = ids := by
  have uncut : ∀ w ∈ ids.map String.toList, Uncut w := by
    intro w hw
    obtain ⟨s, hs, rfl⟩ := List.mem_map.mp hw
    exact uncut_of_isNameChar (hn s hs).chars
  have full : ∀ w ∈ ids.map String.toList, (!w.isEmpty) = true := by
    intro w hw
    obtain ⟨s, hs, rfl⟩ := List.mem_map.mp hw
    simpa using (hn s hs).ne_nil
  rw [segments, piecesFrom_intercalate (by simpa using hne) uncut, List.filter_eq_self.mpr full,
    List.map_map]
  exact (List.map_congr_left fun s _ => String.ofList_toList).trans (List.map_id _)

/-- names with double colons between them are the segments, whatever the type arguments -/
theorem describe_names {args : List Char} (hargs : Arguments args) :
    describe (String.ofList ([':', ':'].intercalate (ids.map String.toList) ++ args)) =
      ofSegments (String.ofList ([':', ':'].intercalate (ids.map String.toList))) ids := by
  have angle : '<' ∉ [':', ':'].intercalate (ids.map String.toList) := by
    intro hm
    rcases mem_intercalate hm with hm | ⟨w, hw, hm⟩
    · exact absurd hm (by decide)
    · obtain ⟨s, hs, rfl⟩ := List.mem_map.mp hw
      exact (uncut_of_isNameChar (hn s hs).chars).angle hm
  have cut : plain ([':', ':'].intercalate (ids.map String.toList) ++ args) =
      [':', ':'].intercalate (ids.map String.toList) := by
    rw [plain_append angle, plain_arguments hargs, List.append_nil]
  rw [describe_of_segments, String.toList_ofList, cut, segments_names hne hn]

end

/-- a name alone is no path, with type arguments or without -/
theorem describe_name {name : String} (hn : IsName name) {args : List Char}
    (hargs : Arguments args) :
    describe (String.ofList (name.toList ++ args)) = ⟨name, "std", none⟩ := by
  have h := describe_names (List.cons_ne_nil name []) (List.forall_mem_singleton.mpr hn) hargs
  rw [List.map_singleton, List.intercalate_singleton] at h
  exact h

section
variable {crate : String} {modules : List String} {name : String}

theorem ofSegments_path (crate : String) (modules : List String) (name whole : String) :
    ofSegments whole (crate :: modules ++ [name]) =
      ⟨name, crate, some (dotted (crate :: modules))⟩ := by
  obtain ⟨second, others, h⟩ : ∃ second others, modules ++ [name] = second :: others :=
    List.exists_cons_of_ne_nil (by simp)
  have last : (second :: others).getLastD second = name := by
    rw [← h, List.getLastD_concat]
  have front : (second :: others).dropLast = modules := by
    rw [← h, List.dropLast_concat]
  rw [List.cons_append, h, ofSegments, last, front]
  rfl

/-- **A path gives its crate**, and its crate and modules as a namespace, whatever its type
arguments. -/
theorem describe_declared (hn : ∀ s ∈ crate :: modules ++ [name], IsName s) {args : List Char}
    (hargs : Arguments args) :
    describe (String.ofList
        ([':', ':'].intercalate ((crate :: modules ++ [name]).map String.toList) ++ args)) =
      ⟨name, crate, some (dotted (crate :: modules))⟩ := by
  rw [describe_names (List.append_ne_nil_of_right_ne_nil _ (List.cons_ne_nil name [])) hn hargs]
  exact ofSegments_path crate modules name _

/-- the same of a path whose type arguments are types -/
theorem describe_path (hn : ∀ s ∈ crate :: modules ++ [name], IsName s) (args : List TypeText) :
    describe (String.ofList (path crate modules name args).text) =
      ⟨name, crate, some (dotted (crate :: modules))⟩ := by
  unfold text
  refine describe_declared hn fun c hc => ?_
  cases args with
  | nil => cases hc
  | cons t ts => exact (Option.some_inj.mp hc).symm

/-- **A text without a path** is a type of the library `std`. -/
theorem describe_uncut {cs : List Char} (h : Uncut cs) :
    describe (String.ofList cs) = ⟨String.ofList cs, "std", none⟩ := by
  rw [describe_of_segments, String.toList_ofList, plain_eq_self h.angle, segments,
    piecesFrom_uncut h, List.reverse_nil, List.nil_append]
  cases cs <;> rfl

/-- **A text that is cut in a path** names what comes before as its library. -/
theorem describe_cut {before rest : List Char} {c : Char} (h : Uncut before) (hne : before ≠ [])
    (hc : isNameChar c = true) :
    (describe (String.ofList (before ++ ':' :: ':' :: c :: rest))).library =
      String.ofList before := by
  have hangle : c ≠ '<' := ne_of_isNameChar hc (by decide)
  have cut : plain (before ++ ':' :: ':' :: c :: rest) =
      before ++ ':' :: ':' :: c :: plain rest := by
    rw [plain_append h.angle]
    simp [plain, hangle]
  have step : piecesFrom [] (c :: plain rest) = piecesFrom [c] (plain rest) := by
    rw [piecesFrom]
    rintro _ rfl
    exact absurd hc (by decide)
  obtain ⟨w, hw, hwne⟩ := exists_piece (List.cons_ne_nil c []) (plain rest)
  rw [← step] at hw
  have two : ∃ second others, segments (plain (before ++ ':' :: ':' :: c :: rest)) =
      String.ofList before :: second :: others := by
    rw [cut, segments, piecesFrom_cut h, List.reverse_nil, List.nil_append,
      List.filter_cons_of_pos (by simpa using hne), List.map_cons]
    have hkept : w ∈ (piecesFrom [] (c :: plain rest)).filter fun piece => !piece.isEmpty :=
      List.mem_filter.mpr ⟨hw, by simpa using hwne⟩
    obtain ⟨v, vs, hv⟩ := List.exists_cons_of_ne_nil (List.ne_nil_of_mem hkept)
    rw [hv]
    exact ⟨_, _, rfl⟩
  obtain ⟨second, others, hs⟩ := two
  rw [describe_of_segments, String.toList_ofList, hs]
  rfl

end

/-- the library is a single name, and the namespace, if there is one, a path of names from it on -/
def Proper (p : TypePath) : Prop :=
  IsName p.library ∧ ∀ space ∈ p.space, ∃ modules : List String,
    space = dotted (p.library :: modules) ∧ ∀ m ∈ modules, IsName m

theorem isName_std : IsName "std" := by decide

/-- a type that is neither a path nor a name begins with a sign -/
theorem exists_sign (t : TypeText) (hpath : t.isPath = false) (h : t.hasPath = true) :
    ∃ sign rest, t.text = sign :: rest ∧ sign ∈ ['&', '(', '['] := by
  cases t with
  | plain name => cases h
  | path crate modules name args => cases hpath
  | _ => exact ⟨_, _, rfl, by decide⟩

/-- **The texts that are understood** are paths and texts without a path. -/
theorem proper_iff (t : TypeText) (hn : t.Named) :
    (describe (String.ofList t.text)).Proper ↔ t.isPath = true ∨ t.hasPath = false := by
  cases hpath : t.isPath with
  | true =>
    cases t with
    | path crate modules name args =>
      rw [describe_path hn.1]
      refine iff_of_true ⟨hn.1 crate (by simp), fun space hs => ?_⟩ (.inl rfl)
      cases hs
      exact ⟨modules, rfl, fun m hm => hn.1 m (by simp [hm])⟩
    | _ => cases hpath
  | false =>
    cases h : t.hasPath with
    | false =>
      rw [describe_uncut (uncut_text t hn h)]
      exact iff_of_true ⟨isName_std, fun _ hs => nomatch hs⟩ (.inr rfl)
    | true =>
      refine iff_of_false ?_ (by simp)
      obtain ⟨before, c, rest, ht, hb, hc⟩ := cutInPath_text t hn h
      obtain ⟨sign, rest', hs, hsign⟩ := exists_sign t hpath h
      rintro ⟨hname, -⟩
      have colon : sign ≠ ':' := by
        rintro rfl
        exact absurd hsign (by decide)
      cases before with
      | nil =>
        rw [ht] at hs
        exact colon (List.cons.inj hs).1.symm
      | cons b bs =>
        rw [ht] at hs
        obtain rfl : b = sign := (List.cons.inj hs).1
        rw [ht, describe_cut hb (List.cons_ne_nil b bs) hc] at hname
        have hchar := hname.chars b (by simp)
        simp only [List.mem_cons, List.not_mem_nil, or_false] at hsign
        rcases hsign with rfl | rfl | rfl <;> exact absurd hchar (by decide)

end TypePath

end Scripting
