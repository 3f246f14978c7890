import Scripting.Name
import Scripting.Proofs.Script.Identifier

/-!
# Names of modules and their dotted texts

A name is its segments, the namespace first and the simple name last, and its text is the segments
with dots between them.  Reading a text drops the segments that are empty.

* `display_eq`         the text of a name, whether or not it stands in a namespace;
* `segments_joined`    segments that are not empty and hold no dot are read back as they are;
* `ofText_cases`       so what is read from a text is such a name, or the name without any segment;
* `inNamespace_eq`     a module put into a namespace is what the text of both is read as;
* `name_of_display`    all of it: names and their texts are inverse.
-/

namespace Scripting.QualifiedName

/-! ## segments -/

/-- what stands between two dots of a name -/
structure IsSegment (s : String) : Prop where
  ne_empty : s ≠ ""
  dotless : '.' ∉ s.toList

theorem isSegment_iff {s : String} : IsSegment s ↔ s ≠ "" ∧ '.' ∉ s.toList :=
  ⟨fun h => ⟨h.ne_empty, h.dotless⟩, fun h => ⟨h.1, h.2⟩⟩

instance (s : String) : Decidable (IsSegment s) := decidable_of_iff _ isSegment_iff.symm

theorem isSegment_of_mem_segments {s text : String} (h : s ∈ segments text) : IsSegment s := by
  obtain ⟨piece, hp, rfl⟩ := List.mem_map.mp h
  obtain ⟨hne, hdot⟩ := Text.mem_segmentsOn '.' hp
  refine ⟨fun he => hne ?_, by rwa [String.toList_ofList]⟩
  rw [← String.toList_ofList (l := piece), he, String.toList_empty]

/-- segments are read back from their text -/
theorem segments_joined {ids : List String} (h : ∀ s ∈ ids, IsSegment s) :
    segments (dotted ids) = ids := by
  rw [segments, toList_dotted, Text.segmentsOn_intercalate]
  · rw [List.map_map]
    exact (List.map_congr_left fun s _ => String.ofList_toList).trans (List.map_id ids)
  · intro w hw
    obtain ⟨s, hs, rfl⟩ := List.mem_map.mp hw
    exact ⟨fun hn => (h s hs).ne_empty (String.toList_eq_nil_iff.mp hn), (h s hs).dotless⟩

/-- what stands before and behind a dot is read by itself -/
theorem segments_append (a b : String) : segments (a ++ "." ++ b) = segments a ++ segments b := by
  have hcut : (a ++ "." ++ b).toList = a.toList ++ '.' :: b.toList := by
    rw [String.toList_append, String.toList_append, List.append_assoc]
    rfl
  rw [segments, hcut, Text.segmentsOn_mid, List.map_append]
  rfl

theorem segments_of_isSegment {s : String} (h : IsSegment s) : segments s = [s] := by
  have hone := segments_joined (List.forall_mem_singleton.mpr h)
  rwa [dotted, String.intercalate_singleton] at hone

/-! ## names -/

/-- a name whose segments are segments, its simple name among them -/
def Segmented (q : QualifiedName) : Prop := ∀ s ∈ q.path ++ [q.name], IsSegment s

instance (q : QualifiedName) : Decidable q.Segmented :=
  inferInstanceAs (Decidable (∀ s ∈ q.path ++ [q.name], IsSegment s))

theorem ofSegments_concat (path : List String) (name : String) :
    ofSegments (path ++ [name]) = ⟨name, path⟩ := by
  induction path with
  | nil => rfl
  | cons s path ih =>
    obtain ⟨t, rest, hrest⟩ : ∃ t rest, path ++ [name] = t :: rest :=
      List.exists_cons_of_ne_nil (by simp)
    rw [List.cons_append, hrest, ofSegments_cons_cons, ← hrest, ih]

theorem display_eq (q : QualifiedName) : q.display = dotted (q.path ++ [q.name]) := by
  obtain ⟨name, path⟩ := q
  cases path with
  | nil => exact String.intercalate_singleton.symm
  | cons s path =>
    rw [dotted, String.intercalate_append_of_ne_nil (List.cons_ne_nil s path)
      (List.cons_ne_nil name []), String.intercalate_singleton]
    rfl

theorem ofText_of_segmented {q : QualifiedName} (h : q.Segmented) : ofText q.display = q := by
  rw [ofText, display_eq, segments_joined h, ofSegments_concat]

/-- what is read from a text is a name of segments, unless there are none in it -/
theorem ofText_cases (text : String) : ofText text = global "" ∨ (ofText text).Segmented := by
  unfold ofText
  rcases List.eq_nil_or_concat' (segments text) with hnone | ⟨path, name, hsome⟩
  · exact .inl (by rw [hnone]; rfl)
  · refine .inr ?_
    rw [hsome, ofSegments_concat]
    intro s hs
    exact isSegment_of_mem_segments (hsome ▸ hs)

theorem inNamespace_eq {name : String} (h : IsSegment name) (space : String) :
    inNamespace space name = ofText (space ++ "." ++ name) := by
  rw [ofText, segments_append, segments_of_isSegment h, ofSegments_concat]
  rfl

/-- **Names and their texts are inverse.**  What is read from the text of what was read from a text
is the same name again.  A name of segments that are not empty and hold no dot is read back from its
text, so no two of them share it.  A module in a namespace, however that is spelled, is the name that
is read from both with a dot between them, and is looked up by the same key. -/
theorem name_of_display :
    (∀ text, ofText (ofText text).display = ofText text) ∧
    (∀ q : QualifiedName, q.Segmented → ofText q.display = q) ∧
    (∀ q r : QualifiedName, q.Segmented → r.Segmented → q.display = r.display → q = r) ∧
    ∀ space name, IsSegment name →
      inNamespace space name = ofText (space ++ "." ++ name) ∧
      (inNamespace space name).key = (ofText (space ++ "." ++ name)).key := by
  refine ⟨fun text => ?_, fun q => ofText_of_segmented, fun q r hq hr he => ?_,
    fun space name h => ?_⟩
  · rcases ofText_cases text with hnone | hsome
    · rw [hnone]
      rfl
    · exact ofText_of_segmented hsome
  · calc q
      _ = ofText q.display := (ofText_of_segmented hq).symm
      _ = ofText r.display := by rw [he]
      _ = r := ofText_of_segmented hr
  · have hname := inNamespace_eq h space
    exact ⟨hname, congrArg key hname⟩

/-- a name in a namespace of two segments -/
theorem name_of_display_rules :
    let q : QualifiedName := ⟨"Checks", ["Validation", "Rules"]⟩
    q.Segmented ∧ ofText q.display = q ∧
      (∀ r : QualifiedName, r.Segmented → r.display = "Validation.Rules.Checks" → r = q) ∧
      IsSegment "Checks" ∧
      inNamespace ".Validation..Rules." "Checks" = ofText ".Validation..Rules..Checks" ∧
      inNamespace ".Validation..Rules." "Checks" = q := by
  intro q
  obtain ⟨-, back, inj, joined⟩ := name_of_display
  have hq : q.Segmented := by decide
  have hname : IsSegment "Checks" := by decide
  refine ⟨hq, back q hq, fun r hr hd => inj r q hr hq (hd.trans ?_), hname, ?_, by decide⟩
  · decide
  · exact (joined ".Validation..Rules." "Checks" hname).1

end Scripting.QualifiedName
