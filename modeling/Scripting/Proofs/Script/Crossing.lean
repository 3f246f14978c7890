import Mathlib.Data.List.Forall2
import Scripting.Proofs.Assoc
import Scripting.Proofs.Script.Magnitude
import Scripting.Script.Value

/-!
# Values that cross the border and come back

A host value is made into a script value when it is passed to a function, and back into a host value
when it is returned.  Script integers have 64 bits with a sign, so an integer that needs the place
of the sign comes back as a floating-point number; everything else comes back as it was.

* `Data.IsJson`       what a host may pass: what JSON has values for;
* `Data.crossed`      what comes back of it;
* `Border.Lawful`     what is asked of a border: the parts of a value cross one by one;
* `Border.lawful_standard`   the standard border does as it is asked;
* `Border.Lawful.crosses`    a value comes back, whatever it is made of;
* `Data.crossed_eq_iff`      and is the same exactly if all integers in it fit.
-/

namespace Scripting

namespace Data

/-! ## parts of a value -/

mutual

/-- `P` of a value and of all values inside it -/
def All (P : Data → Prop) : Data → Prop
  | .list items => P (.list items) ∧ AllItems P items
  | .record fields => P (.record fields) ∧ AllFields P fields
  | d => P d

def AllItems (P : Data → Prop) : List Data → Prop
  | [] => True
  | d :: ds => All P d ∧ AllItems P ds

def AllFields (P : Data → Prop) : List (String × Data) → Prop
  | [] => True
  | (_, d) :: rest => All P d ∧ AllFields P rest

end

/-- an integer of 64 bits, with a sign or without, a number, fields in ascending order -/
def jsonPart : Data → Prop
  | .int i => -2 ^ 63 ≤ i ∧ i < 2 ^ 64
  | .float x => x.isNaN = false ∧ x.isInf = false
  | .record fields => Assoc.Ordered fields
  | _ => True

/-- an integer, if it is one, that a script holds as an integer -/
def fitsPart : Data → Prop
  | .int i => i < 2 ^ 63
  | _ => True

/-- what JSON has values for -/
def IsJson (d : Data) : Prop := d.All jsonPart

/-- all integers are below 2 ^ 63 -/
def Fits (d : Data) : Prop := d.All fitsPart

mutual

/-- what comes back of a value that was passed -/
def crossed : Data → Data
  | .int i => if i < 2 ^ 63 then .int i else .float (Float.ofInt i)
  | .list items => .list (crossedItems items)
  | .record fields => .record (crossedFields fields)
  | d => d

def crossedItems : List Data → List Data
  | [] => []
  | d :: ds => d.crossed :: crossedItems ds

def crossedFields : List (String × Data) → List (String × Data)
  | [] => []
  | (k, d) :: rest => (k, d.crossed) :: crossedFields rest

end

mutual

/-- **It is the same exactly if all integers in it fit.** -/
theorem crossed_eq_iff (d : Data) : d.crossed = d ↔ d.Fits := by
  unfold Data.Fits
  cases d with
  | int i =>
    show Data.crossed (.int i) = .int i ↔ i < 2 ^ 63
    rw [Data.crossed]
    by_cases h : i < 2 ^ 63
    · rw [if_pos h]
      exact iff_of_true rfl h
    · rw [if_neg h]
      exact iff_of_false Data.noConfusion h
  | list items =>
    rw [Data.crossed, Data.list.injEq, crossedItems_eq_iff]
    exact ⟨fun h => ⟨trivial, h⟩, fun h => h.2⟩
  | record fields =>
    rw [Data.crossed, Data.record.injEq, crossedFields_eq_iff]
    exact ⟨fun h => ⟨trivial, h⟩, fun h => h.2⟩
  | _ => exact iff_of_true rfl trivial

theorem crossedItems_eq_iff (ds : List Data) : crossedItems ds = ds ↔ AllItems fitsPart ds := by
  cases ds with
  | nil => exact iff_of_true rfl trivial
  | cons d ds =>
    rw [crossedItems, List.cons.injEq, crossed_eq_iff d, crossedItems_eq_iff ds]
    rfl

theorem crossedFields_eq_iff (fs : List (String × Data)) :
    crossedFields fs = fs ↔ AllFields fitsPart fs := by
  cases fs with
  | nil => exact iff_of_true rfl trivial
  | cons f fs =>
    obtain ⟨k, d⟩ := f
    rw [crossedFields, List.cons.injEq, Prod.mk.injEq, crossed_eq_iff d, crossedFields_eq_iff fs,
      eq_self, true_and]
    rfl

end

end Data

namespace Script

open Data (All AllItems AllFields jsonPart crossedItems crossedFields)
open Value (ofData ofItems ofFields toData toItems toFields)

/-! ## borders -/

section
variable {α β : Type} (f : α → Except String β)

/-- items that are taken over one by one -/
def Each : List α → List β → Prop := List.Forall₂ fun a b => f a = .ok b

/-- fields that are taken over one by one and keep their names -/
def EachField : List (String × α) → List (String × β) → Prop :=
  List.Forall₂ fun a b => b.1 = a.1 ∧ f a.2 = .ok b.2

variable {f}

theorem EachField.ordered {l : List (String × α)} {l' : List (String × β)} (h : EachField f l l')
    (ho : Assoc.Ordered l) : Assoc.Ordered l' := by
  have hkeys : l'.map Prod.fst = l.map Prod.fst := by
    induction h with
    | nil => rfl
    | cons hab _ ih => rw [List.map_cons, List.map_cons, hab.1, ih (Assoc.ordered_cons.mp ho).2]
  have hpairs : (l.map Prod.fst).Pairwise (· < ·) := List.pairwise_map.mpr ho
  rw [← hkeys] at hpairs
  exact List.pairwise_map.mp hpairs

end

/-- What is asked of the way into a script: everything becomes what it is called like, and an
integer that needs the place of the sign a floating-point number. -/
structure LawfulInward (inward : Data → Except String Value) : Prop where
  null : inward .null = .ok .unit
  bool : ∀ b, inward (.bool b) = .ok (.bool b)
  signed : ∀ i, -2 ^ 63 ≤ i → i < 2 ^ 63 → inward (.int i) = .ok (.int i)
  unsigned : ∀ i, 2 ^ 63 ≤ i → i < 2 ^ 64 → inward (.int i) = .ok (.float (Float.ofInt i))
  float : ∀ x : Float, x.isNaN = false → x.isInf = false → inward (.float x) = .ok (.float x)
  text : ∀ s, inward (.text s) = .ok (.text s)
  list : ∀ items values, Each inward items values → inward (.list items) = .ok (.list values)
  record : ∀ fields values, Assoc.Ordered fields → EachField inward fields values →
    inward (.record fields) = .ok (.record values)

/-- what is asked of the way back, of values that have a like on the other side -/
structure LawfulOutward (outward : Value → Except String Data) : Prop where
  unit : outward .unit = .ok .null
  bool : ∀ b, outward (.bool b) = .ok (.bool b)
  int : ∀ i, -2 ^ 63 ≤ i → i < 2 ^ 63 → outward (.int i) = .ok (.int i)
  float : ∀ x : Float, x.isNaN = false → x.isInf = false → outward (.float x) = .ok (.float x)
  text : ∀ s, outward (.text s) = .ok (.text s)
  list : ∀ values items, Each outward values items → outward (.list values) = .ok (.list items)
  record : ∀ values fields, Assoc.Ordered values → EachField outward values fields →
    outward (.record values) = .ok (.record fields)

namespace Border

/-- a border that does on both ways as it is asked -/
structure Lawful (b : Border) : Prop where
  inward : LawfulInward b.inward
  outward : LawfulOutward b.outward

/-! ## the standard border -/

/-- fields in ascending order stay where they are -/
theorem ofFields_eq {before : List (String × Value)} {fields : List (String × Data)}
    (hb : ∀ b ∈ before, ∀ f ∈ fields, b.1 < f.1) (ho : Assoc.Ordered fields) :
    ofFields before fields = before ++ fields.map fun f => (f.1, ofData f.2) := by
  induction fields generalizing before with
  | nil => exact (List.append_nil before).symm
  | cons f fields ih =>
    obtain ⟨hlt, hf⟩ := Assoc.ordered_cons.mp ho
    have hlast : Assoc.insert f.1 (ofData f.2) before = before ++ [(f.1, ofData f.2)] :=
      Assoc.insert_of_forall_lt fun b hm => hb b hm f List.mem_cons_self
    rw [ofFields, hlast, ih _ hf, List.append_assoc]
    · rfl
    · intro b hm g hg
      rcases List.mem_append.mp hm with hm | hm
      · exact hb b hm g (List.mem_cons_of_mem f hg)
      · rw [List.mem_singleton.mp hm]
        exact hlt g hg

theorem ofItems_of_each {items : List Data} {values : List Value}
    (h : Each standard.inward items values) : ofItems items = values := by
  induction h with
  | nil => rfl
  | cons hd _ ih => rw [ofItems, ih, Except.ok.inj hd]

theorem map_of_eachField {fields : List (String × Data)} {values : List (String × Value)}
    (h : EachField standard.inward fields values) :
    (fields.map fun f => (f.1, ofData f.2)) = values := by
  induction h with
  | nil => rfl
  | cons hf _ ih => rw [List.map_cons, ih, Except.ok.inj hf.2, ← hf.1]

theorem toItems_of_each {values : List Value} {items : List Data}
    (h : Each toData values items) : toItems values = .ok items := by
  induction h with
  | nil => rfl
  | cons hv _ ih =>
    rw [toItems, hv, ih]
    rfl

theorem toFields_of_eachField {values : List (String × Value)} {fields : List (String × Data)}
    (h : EachField toData values fields) : toFields values = .ok fields := by
  induction h with
  | nil => rfl
  | @cons v f values fields hv _ ih =>
    rw [toFields, hv.2, ih, ← hv.1]
    rfl

theorem lawful_standard : standard.Lawful where
  inward := {
    null := rfl
    bool _ := rfl
    signed i hl hu := by
      show Except.ok (ofData (.int i)) = _
      rw [ofData, Value.ofInt, if_pos ⟨hl, hu⟩]
    unsigned i hl _ := by
      show Except.ok (ofData (.int i)) = _
      rw [ofData, Value.ofInt, if_neg fun h => Int.not_lt.mpr hl h.2]
    float _ _ _ := rfl
    text _ := rfl
    list items values h := by
      show Except.ok (ofData (.list items)) = _
      rw [ofData, ofItems_of_each h]
    record fields values ho h := by
      -- fields are inserted one after the other, each behind those before it
      have hf : ofFields [] fields = [] ++ _ :=
        ofFields_eq (fun b hb => absurd hb List.not_mem_nil) ho
      show Except.ok (ofData (.record fields)) = _
      rw [ofData, hf, List.nil_append, map_of_eachField h] }
  outward := {
    unit := rfl
    bool _ := rfl
    int _ _ _ := rfl
    float x hn hi := by
      show toData (.float x) = _
      rw [toData, hn, hi]
      rfl
    text _ := rfl
    list values items h := by
      show toData (.list values) = _
      rw [toData, toItems_of_each h]
      rfl
    record values fields _ h := by
      show toData (.record values) = _
      rw [toData, toFields_of_eachField h]
      rfl }

/-! ## there and back -/

namespace Lawful

variable {b : Border}

/-- an integer comes back as it is, or as a floating-point number that is finite -/
theorem crosses_int (lawful : b.Lawful) {i : Int} (hl : -2 ^ 63 ≤ i) (hu : i < 2 ^ 64) :
    ∃ v, b.inward (.int i) = .ok v ∧ b.outward v = .ok (Data.crossed (.int i)) := by
  rw [Data.crossed]
  by_cases h : i < 2 ^ 63
  · rw [if_pos h]
    exact ⟨.int i, lawful.inward.signed i hl h, lawful.outward.int i hl h⟩
  · have hi : 2 ^ 63 ≤ i := Int.not_lt.mp h
    obtain ⟨hn, hinf⟩ := Magnitude.finite_ofInt (i := i) (by omega) hu
    rw [if_neg h]
    exact ⟨.float (Float.ofInt i), lawful.inward.unsigned i hi hu, lawful.outward.float _ hn hinf⟩

mutual

/-- **Every value that JSON has comes back.** -/
theorem crosses (lawful : b.Lawful) (d : Data) (h : d.IsJson) :
    ∃ v, b.inward d = .ok v ∧ b.outward v = .ok d.crossed := by
  unfold Data.IsJson at h
  cases d with
  | null => exact ⟨.unit, lawful.inward.null, lawful.outward.unit⟩
  | bool x => exact ⟨.bool x, lawful.inward.bool x, lawful.outward.bool x⟩
  | int i => exact lawful.crosses_int h.1 h.2
  | float x =>
    exact ⟨.float x, lawful.inward.float x h.1 h.2, lawful.outward.float x h.1 h.2⟩
  | text s => exact ⟨.text s, lawful.inward.text s, lawful.outward.text s⟩
  | list items =>
    obtain ⟨values, hin, hout⟩ := crossesItems lawful items h.2
    exact ⟨.list values, lawful.inward.list _ _ hin, lawful.outward.list _ _ hout⟩
  | record fields =>
    obtain ⟨values, hin, hout⟩ := crossesFields lawful fields h.2
    exact ⟨.record values, lawful.inward.record _ _ h.1 hin,
      lawful.outward.record _ _ (hin.ordered h.1) hout⟩

theorem crossesItems (lawful : b.Lawful) (ds : List Data) (h : AllItems jsonPart ds) :
    ∃ vs, Each b.inward ds vs ∧ Each b.outward vs (crossedItems ds) := by
  cases ds with
  | nil => exact ⟨[], .nil, .nil⟩
  | cons d ds =>
    obtain ⟨v, hin, hout⟩ := crosses lawful d h.1
    obtain ⟨vs, hins, houts⟩ := crossesItems lawful ds h.2
    exact ⟨v :: vs, .cons hin hins, .cons hout houts⟩

theorem crossesFields (lawful : b.Lawful) (fs : List (String × Data))
    (h : AllFields jsonPart fs) :
    ∃ vs, EachField b.inward fs vs ∧ EachField b.outward vs (crossedFields fs) := by
  cases fs with
  | nil => exact ⟨[], .nil, .nil⟩
  | cons f fs =>
    obtain ⟨k, d⟩ := f
    obtain ⟨v, hin, hout⟩ := crosses lawful d h.1
    obtain ⟨vs, hins, houts⟩ := crossesFields lawful fs h.2
    exact ⟨(k, v) :: vs, .cons ⟨rfl, hin⟩ hins, .cons ⟨rfl, hout⟩ houts⟩

end

end Lawful

end Border

end Script

end Scripting
