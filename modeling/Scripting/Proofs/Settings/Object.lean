import Mathlib.Data.List.Nodup
import Scripting.Proofs.Settings.Value

/-!
# Objects that give settings

Every member of an object either gives a setting or says nothing about any.  Members are read one
after the other, behind their commas; each is read where it can stand, and it is a fault to give a
setting that was given before.

* `Says`, `Said`      what a member says, and what members say together;
* `Run`               what members make of settings, one after the other;
* `reads_of_run`      members that make something of settings are read;
* `run_of_members`    and members that are read make what is read;
* `run_iff`           members run if they say nothing twice.
-/

namespace Scripting.Settings

open Json Json.Cursor

/-! ## names -/

theorem ofName?_eq_some {s : String} {k : Key} : Key.ofName? s = some k ↔ s = k.name := by
  constructor
  · intro h
    have hname := List.find?_some h
    exact (beq_iff_eq.mp hname).symm
  · rintro rfl
    exact ofName?_name k

theorem ofName?_eq_none {s : String} : Key.ofName? s = none ↔ ∀ k : Key, s ≠ k.name := by
  rw [Option.eq_none_iff_forall_ne_some]
  exact forall_congr' fun k => not_congr ofName?_eq_some

/-! ## members -/

/-- what a member says: it gives a setting, or its key is the name of none -/
inductive Says (m : Member) : Option (Key × Value) → Prop
  | known {k : Key} {v : Value} (hk : Spells m.key.text k.name.toList)
    (hv : Denotes k.kind m.value.text v) : Says m (some (k, v))
  | unknown {name : String} (hn : Spells m.key.text name.toList) (h : ∀ k : Key, name ≠ k.name) :
    Says m none

/-- what members say about settings, in their order -/
inductive Said : List Member → List (Key × Value) → Prop
  | nil : Said [] []
  | cons {m : Member} {ms : List Member} {saying : Option (Key × Value)}
    {given : List (Key × Value)} (h : Says m saying) (hs : Said ms given) :
    Said (m :: ms) (saying.toList ++ given)

/-- the settings given so far, and the settings with them -/
abbrev State := List Key × Settings

/-- before anything is said -/
def State.empty : State := ([], {})

/-- what has been said is recorded -/
def State.record (st : State) : Option (Key × Value) → State
  | none => st
  | some (k, v) => (k :: st.1, st.2.put k v)

/-- one member, standing on the quote of its key -/
def member (st : State) : Read State := fun c => do
  let (name, c) ← textLiteral c.advance
  match Key.ofName? name with
  | none =>
    let c ← colon c
    let c ← skip c
    .ok (st, c)
  | some k =>
    if st.1.contains k then .error (duplicate k c)
    else
      let c ← colon c
      let (v, c) ← value k.kind c
      .ok (st.record (some (k, v)), c)

theorem members_of_next {fuel : Nat} {first : Bool} {st : State} {c k : Cursor}
    (hnext : nextKey first c = .ok (true, k)) : members (fuel + 1) first st.1 st.2 c =
      (member st k >>= fun p => members fuel false p.1.1 p.1.2 p.2) := by
  rw [members, hnext, ok_bind, member]
  dsimp only
  rw [if_pos rfl]
  cases textLiteral k.advance with
  | error f => rfl
  | ok p =>
    rw [ok_bind, ok_bind]
    cases Key.ofName? p.1 with
    | none =>
      cases colon p.2 with
      | error f => rfl
      | ok l =>
        simp only [ok_bind]
        cases skip l <;> rfl
    | some j =>
      dsimp only
      split
      · rfl
      · cases colon p.2 with
        | error f => rfl
        | ok l =>
          simp only [ok_bind]
          cases value j.kind l <;> rfl

theorem leaves_colon {c : Cursor} {gap rest : List Char} (hg : Gap gap)
    (hc : c.rest = gap ++ ':' :: rest) : Leaves (colon c) rest := by
  have hcolon : c.skipBlanks.rest = ':' :: rest := rest_skipBlanks_of hg rfl hc
  refine ⟨c.skipBlanks.advance, ?_, rest_advance_of hcolon⟩
  unfold colon
  dsimp only
  rw [hcolon]
  rfl

section
variable {m : Member} {saying : Option (Key × Value)} {st st' : State} {c k : Cursor}
  {rest : List Char}

theorem reads_member (hm : m.Loose) (hv : IsValue m.value.text) (h : Says m saying)
    (fresh : ∀ g ∈ saying, g.1 ∉ st.1) (hr : Closes rest)
    (hc : c.rest = '"' :: m.tail rest) :
    ∃ k, member st c = .ok (st.record saying, k) ∧ k.skipBlanks.rest = rest := by
  have hafter : Ends (m.value.after ++ rest) := hr.ends.gap hm.value.after
  cases h with
  | unknown hn hname =>
    obtain ⟨k, hk, hrest⟩ := reads_textLiteral hn (rest_advance_of hc)
    obtain ⟨l, hl, hrest⟩ := leaves_colon hm.key.after hrest
    obtain ⟨j, hj, hrest⟩ := leaves_skip hv hm.value.before hafter hrest
    refine ⟨j, ?_, hr.rest_skipBlanks hm.value.after hrest⟩
    rw [member, hk, ok_bind]
    dsimp only
    rw [String.ofList_toList, ofName?_eq_none.mpr hname]
    dsimp only
    rw [hl, ok_bind, hj, ok_bind]
    rfl
  | @known key v hn hd =>
    obtain ⟨k, hk, hrest⟩ := reads_textLiteral hn (rest_advance_of hc)
    obtain ⟨l, hl, hrest⟩ := leaves_colon hm.key.after hrest
    obtain ⟨j, hj, hrest⟩ := reads_value hd hm.value.before hafter hrest
    refine ⟨j, ?_, hr.rest_skipBlanks hm.value.after hrest⟩
    have hfresh : key ∉ st.1 := fresh _ rfl
    rw [member, hk, ok_bind]
    dsimp only
    rw [String.ofList_toList, ofName?_name]
    dsimp only
    rw [if_neg (by simpa using hfresh), hl, ok_bind, hj, ok_bind]

/-- a member that is read says something new, and that is recorded -/
theorem says_of_member (hm : m.Loose) (hv : IsValue m.value.text) (hr : Closes rest)
    (hc : c.rest = '"' :: m.tail rest) (h : member st c = .ok (st', k)) :
    ∃ saying, Says m saying ∧ (∀ g ∈ saying, g.1 ∉ st.1) ∧ st' = st.record saying ∧
      k.skipBlanks.rest = rest := by
  have hafter : Ends (m.value.after ++ rest) := hr.ends.gap hm.value.after
  have htold : ∃ saying, Says m saying ∧ ∀ g ∈ saying, g.1 ∉ st.1 := by
    rw [member] at h
    obtain ⟨⟨name, i⟩, hi, h⟩ := bind_eq_ok.mp h
    obtain ⟨hn, hrest⟩ := spells_of_textLiteral hm.letters (rest_advance_of hc) hi
    obtain ⟨l, hl, hcolon⟩ := leaves_colon hm.key.after hrest
    dsimp only at h
    cases hname : Key.ofName? name with
    | none => exact ⟨none, .unknown hn (ofName?_eq_none.mp hname), fun g hg => nomatch hg⟩
    | some key =>
      rw [hname] at h
      dsimp only at h
      split at h
      · cases h
      · rename_i hfresh
        rw [hl, ok_bind] at h
        obtain ⟨⟨v, j⟩, hj, h⟩ := bind_eq_ok.mp h
        rw [ofName?_eq_some.mp hname] at hn
        have hd := denotes_of_value hv hm.value.before hafter hcolon hj
        refine ⟨some (key, v), .known hn hd, fun g hg => ?_⟩
        obtain rfl := Option.some_inj.mp hg
        simpa using hfresh
  obtain ⟨saying, hsaying, hfresh⟩ := htold
  obtain ⟨l, hl, hrest⟩ := reads_member hm hv hsaying hfresh hr hc
  obtain ⟨rfl, rfl⟩ := Prod.mk.inj (Except.ok.inj (h.symm.trans hl))
  exact ⟨saying, hsaying, hfresh, rfl, hrest⟩

end

/-! ## all members -/

/-- what members make of settings, one after the other -/
inductive Run : List Member → State → Settings → Prop
  | nil (st : State) : Run [] st st.2
  | cons {m : Member} {ms : List Member} {saying : Option (Key × Value)} {st : State} {s : Settings}
    (h : Says m saying) (fresh : ∀ g ∈ saying, g.1 ∉ st.1) (run : Run ms (st.record saying) s) :
    Run (m :: ms) st s

/-- what stands behind the first member -/
def moreMembers (ms : List Member) (rest : List Char) : List Char :=
  behind .object (ms.map Member.written) rest

theorem moreMembers_cons (m : Member) (ms : List Member) (rest : List Char) :
    moreMembers (m :: ms) rest =
      ',' :: (m.key.before ++ '"' :: m.tail (moreMembers ms rest)) := by
  rw [moreMembers, List.map_cons, behind_cons, Member.written_append]
  rfl

section
variable {ms : List Member} {m : Member} {st : State} {s : Settings} {c k : Cursor}
  {rest : List Char} {fuel : Nat}

theorem nextKey_close {first : Bool} (hc : c.skipBlanks.rest = '\x7d' :: rest) :
    nextKey first c = .ok (false, c.skipBlanks) := by
  unfold nextKey
  dsimp only
  rw [hc]
  rfl

theorem nextKey_first (hc : c.skipBlanks.rest = '"' :: rest) :
    nextKey true c = .ok (true, c.skipBlanks) := by
  unfold nextKey
  dsimp only
  rw [hc]
  rfl

theorem nextKey_comma {tail : List Char} (hc : c.skipBlanks.rest = ',' :: tail)
    (hk : c.skipBlanks.advance.skipBlanks.rest = '"' :: rest) :
    nextKey false c = .ok (true, c.skipBlanks.advance.skipBlanks) := by
  unfold nextKey
  dsimp only
  rw [hc, hk]
  rfl

/-- a cursor stands where members go on: before the closing brace, or before a key -/
def Stands (first : Bool) (c : Cursor) : List Member → List Char → Prop
  | [], rest => c.skipBlanks.rest = '\x7d' :: rest
  | m :: ms, rest => ∃ k, nextKey first c = .ok (true, k) ∧
      k.rest = '"' :: m.tail (moreMembers ms rest)

theorem stands_more (hl : ∀ m ∈ ms, m.Loose) (hc : c.skipBlanks.rest = moreMembers ms rest) :
    Stands false c ms rest := by
  cases ms with
  | nil => exact hc
  | cons m ms =>
    have hm : m.Loose := hl m List.mem_cons_self
    rw [moreMembers_cons] at hc
    have hquote := rest_skipBlanks_of hm.key.before rfl (rest_advance_of hc)
    exact ⟨_, nextKey_comma hc hquote, hquote⟩

theorem stands_first (hl : ∀ m ∈ ms, m.Loose) {cs : List Char}
    (h : Separated (ms.map Member.written) cs) (hc : c.rest = cs ++ '\x7d' :: rest) :
    Stands true c ms rest := by
  cases ms with
  | nil =>
    obtain ⟨hgap⟩ := h
    exact rest_skipBlanks_of hgap rfl hc
  | cons m ms =>
    have hm : m.Loose := hl m List.mem_cons_self
    have happend : cs ++ Frame.object.close :: rest = _ := h.append_close
    have hquote : c.skipBlanks.rest = '"' :: m.tail (moreMembers ms rest) :=
      rest_skipBlanks_of hm.key.before rfl
        (hc.trans (happend.trans (Member.written_append m (moreMembers ms rest))))
    exact ⟨_, nextKey_first hquote, hquote⟩

theorem reads_close {first : Bool} (hc : c.skipBlanks.rest = '\x7d' :: rest) :
    Reads (members (fuel + 1) first st.1 st.2 c) st.2 rest := by
  refine ⟨c.skipBlanks.advance, ?_, rest_advance_of hc⟩
  rw [members, nextKey_close hc]
  rfl

/-- what members make of settings is read -/
theorem reads_of_run {first : Bool} (h : Run ms st s) (hl : ∀ m ∈ ms, m.Loose)
    (hv : ∀ m ∈ ms, IsValue m.value.text) (hf : ms.length ≤ fuel) (hc : Stands first c ms rest) :
    Reads (members (fuel + 1) first st.1 st.2 c) s rest := by
  induction h generalizing first fuel c with
  | nil st => exact reads_close hc
  | @cons m ms saying st s htold hfresh _ ih =>
    obtain ⟨hm, hl⟩ := List.forall_mem_cons.mp hl
    obtain ⟨hvm, hv⟩ := List.forall_mem_cons.mp hv
    obtain ⟨fuel, rfl, hfuel⟩ := exists_fuel hf
    obtain ⟨k, hnext, hk⟩ := hc
    obtain ⟨l, hmember, hrest⟩ := reads_member hm hvm htold hfresh (closes_behind _) hk
    rw [members_of_next hnext, hmember, ok_bind]
    exact ih hl hv hfuel (stands_more hl hrest)

/-- what is read is what members make of settings -/
theorem run_of_members {first : Bool} (hl : ∀ m ∈ ms, m.Loose)
    (hv : ∀ m ∈ ms, IsValue m.value.text) (hc : Stands first c ms rest)
    (h : members fuel first st.1 st.2 c = .ok (s, k)) : Run ms st s := by
  induction ms generalizing first fuel st c with
  | nil =>
    cases fuel with
    | zero => cases h
    | succ fuel =>
      obtain ⟨l, hclose, -⟩ : Reads (members (fuel + 1) first st.1 st.2 c) st.2 rest :=
        reads_close hc
      obtain ⟨rfl, -⟩ := Prod.mk.inj (Except.ok.inj (h.symm.trans hclose))
      exact .nil st
  | cons m ms ih =>
    obtain ⟨hm, hl⟩ := List.forall_mem_cons.mp hl
    obtain ⟨hvm, hv⟩ := List.forall_mem_cons.mp hv
    cases fuel with
    | zero => cases h
    | succ fuel =>
      obtain ⟨k, hnext, hk⟩ := hc
      rw [members_of_next hnext] at h
      obtain ⟨⟨st', l⟩, hmember, h⟩ := bind_eq_ok.mp h
      obtain ⟨saying, htold, hfresh, rfl, hrest⟩ :=
        says_of_member hm hvm (closes_behind _) hk hmember
      exact .cons htold hfresh (ih hl hv (stands_more hl hrest) h)

end

/-! ## what members say together -/

/-- members run if they say nothing twice, and nothing that was said before -/
theorem run_iff {ms : List Member} {st : State} {s : Settings} : Run ms st s ↔
    ∃ given, Said ms given ∧ (given.map Prod.fst).Nodup ∧ (∀ k ∈ given.map Prod.fst, k ∉ st.1) ∧
      s = replaced st.2 given := by
  constructor
  · intro h
    induction h with
    | nil st => exact ⟨[], .nil, List.nodup_nil, fun k hk => absurd hk List.not_mem_nil, rfl⟩
    | @cons m ms saying st s htold hfresh _ ih =>
      obtain ⟨given, hsaid, hnodup, hnew, hs⟩ := ih
      refine ⟨_, .cons htold hsaid, ?_⟩
      cases saying with
      | none => exact ⟨hnodup, hnew, hs⟩
      | some g =>
        have hg : g.1 ∉ given.map Prod.fst := fun hmem => hnew g.1 hmem List.mem_cons_self
        refine ⟨List.nodup_cons.mpr ⟨hg, hnodup⟩, ?_, hs⟩
        refine List.forall_mem_cons.mpr ⟨hfresh g rfl, fun k hk hmem => ?_⟩
        exact hnew k hk (List.mem_cons_of_mem _ hmem)
  · rintro ⟨given, hsaid, hnodup, hnew, rfl⟩
    induction hsaid generalizing st with
    | nil => exact .nil st
    | @cons m ms saying given htold _ ih =>
      cases saying with
      | none => exact .cons htold (fun g hg => nomatch hg) (ih hnodup hnew)
      | some g =>
        obtain ⟨hg, hnodup⟩ := List.nodup_cons.mp hnodup
        obtain ⟨hfirst, hnew⟩ := List.forall_mem_cons.mp hnew
        refine .cons htold ?_ (ih hnodup fun k hk hmem => ?_)
        · intro g' hg'
          obtain rfl := Option.some_inj.mp hg'
          exact hfirst
        · rcases List.mem_cons.mp hmem with rfl | hmem
          · exact hg hk
          · exact hnew k hk hmem

/-- the values that members give are in range -/
theorem inRange_of_said {ms : List Member} {given : List (Key × Value)} (h : Said ms given) :
    ∀ g ∈ given, InRange g.1.kind g.2 := by
  induction h with
  | nil => exact fun g hg => absurd hg List.not_mem_nil
  | cons htold _ ih =>
    cases htold with
    | unknown hn hname => exact ih
    | known hk hv => exact List.forall_mem_cons.mpr ⟨inRange_iff.mpr ⟨_, hv⟩, ih⟩

/-- a member whose key spells the name of a setting gives that setting -/
theorem eq_some_of_spells {m : Member} {saying : Option (Key × Value)} {k : Key} (h : Says m saying)
    (hk : Spells m.key.text k.name.toList) : ∃ v, saying = some (k, v) := by
  cases h with
  | @known j v hj hv =>
    have hname : k.name = j.name := String.toList_inj.mp (hk.unique hj)
    have hkey := ofName?_eq_some.mpr hname
    rw [ofName?_name] at hkey
    exact ⟨v, by rw [Option.some_inj.mp hkey]⟩
  | unknown hn hname => exact absurd (String.toList_inj.mp (hn.unique hk)) (hname k)

/-- as often as keys spell the name of a setting, that setting is given -/
theorem sublist_of_said {ms l : List Member} {given : List (Key × Value)} {k : Key}
    (hl : l.Sublist ms) (hk : ∀ m ∈ l, Spells m.key.text k.name.toList) (h : Said ms given) :
    (l.map fun _ => k).Sublist (given.map Prod.fst) := by
  induction hl generalizing given with
  | slnil => exact List.nil_sublist _
  | cons m hl ih =>
    obtain _ | ⟨htold, hsaid⟩ := h
    rw [List.map_append]
    exact List.sublist_append_of_sublist_right (ih hk hsaid)
  | cons_cons m hl ih =>
    obtain ⟨hfirst, hk⟩ := List.forall_mem_cons.mp hk
    obtain _ | ⟨htold, hsaid⟩ := h
    obtain ⟨v, rfl⟩ := eq_some_of_spells htold hfirst
    exact (ih hk hsaid).cons_cons k

end Scripting.Settings
