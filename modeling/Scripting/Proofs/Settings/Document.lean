import Mathlib.Data.List.Forall2
import Mathlib.Data.List.TakeWhile
import Scripting.Proofs.Settings.Object

/-!
# Documents of settings

A document gives settings by an object, whose members may stand in any order and may say nothing
about settings at all, or by a list of the first few values in their order.  Either way the settings
are those that hold what is given, and the defaults besides.

* `IsObject`, `IsList`   how such documents are written, with blanks wherever they may stand;
* `Lawful`               what is asked of a reading: members and items are taken one by one;
* `lawful_read`          the reading of settings does as it is asked;
* `Lawful.object_iff`    which objects are read, and as what;
* `Lawful.list_gives`    a list is read as what it gives;
* `partial_documents`    the two together.
-/

namespace Scripting.Settings

open Json Json.Cursor

/-- a document that is an object with these members -/
structure IsObject (ms : List Member) (document : String) : Prop where
  loose : ∀ m ∈ ms, m.Loose
  values : ∀ m ∈ ms, IsValue m.value.text
  written : ∃ before cs after, Gap before ∧ Gap after ∧ Separated (ms.map Member.written) cs ∧
    document.toList = before ++ '\x7b' :: (cs ++ '\x7d' :: after)

/-- a document that is a list of these items -/
structure IsList (is : List Padded) (document : String) : Prop where
  loose : ∀ i ∈ is, i.Loose
  written : ∃ before cs after, Gap before ∧ Gap after ∧ Separated (is.map Padded.written) cs ∧
    document.toList = before ++ '[' :: (cs ++ ']' :: after)

/-- What is asked of a way to read documents.  The members of an object are taken one after the
other, from the defaults: a setting that was not given before is put in, and what is no setting is
passed over.  The items of a list are the values of the settings in their order. -/
structure Lawful (reading : String → Except Fault Settings) : Prop where
  object : ∀ ms document s, IsObject ms document →
    (reading document = .ok s ↔ Run ms .empty s)
  list : ∀ is document, IsList is document → ∀ given, given.map Prod.fst <+: Key.all →
    List.Forall₂ (fun g i => Denotes g.1.kind i.text g.2) given is →
      reading document = .ok (replaced {} given)

theorem ended_of_gap {c : Cursor} (h : Gap c.rest) : ended c = .ok () := by
  have hrest : c.skipBlanks.rest = [] := by
    rw [rest_skipBlanks, List.dropWhile_eq_nil_iff.mpr h]
  unfold ended
  dsimp only
  rw [hrest]
  rfl

/-! ## objects -/

section
variable {ms : List Member} {document : String} {s : Settings}

theorem read_brace {rest : List Char} (hc : (start document).skipBlanks.rest = '\x7b' :: rest) :
    read document = (members (rest.length + 1 + 1) true State.empty.1 State.empty.2
      (start document).skipBlanks.advance >>= fun p => ended p.2 >>= fun _ => .ok p.1) := by
  unfold read
  dsimp only
  rw [hc]
  rfl

theorem read_object_iff_run (h : IsObject ms document) :
    read document = .ok s ↔ Run ms .empty s := by
  obtain ⟨before, cs, after, hb, ha, hs, hdoc⟩ := h.written
  have hc : (start document).skipBlanks.rest = '\x7b' :: (cs ++ '\x7d' :: after) :=
    rest_skipBlanks_of hb rfl hdoc
  have hstands : Stands true (start document).skipBlanks.advance ms after :=
    stands_first h.loose hs (rest_advance_of hc)
  rw [read_brace hc]
  constructor
  · intro hread
    obtain ⟨⟨t, k⟩, hmembers, hread⟩ := bind_eq_ok.mp hread
    obtain ⟨-, -, hread⟩ := bind_eq_ok.mp hread
    obtain rfl := Except.ok.inj hread
    exact run_of_members h.loose h.values hstands hmembers
  · intro hrun
    have hlen : ms.length ≤ (cs ++ '\x7d' :: after).length + 1 := by
      have hparts := hs.length_le
      rw [List.length_map] at hparts
      rw [List.length_append]
      omega
    obtain ⟨k, hmembers, hrest⟩ := reads_of_run hrun h.loose h.values hlen hstands
    rw [hmembers, ok_bind]
    dsimp only
    rw [ended_of_gap (hrest ▸ ha)]
    rfl

end

/-! ## lists -/

/-- what stands behind the first item -/
def moreItems (is : List Padded) (rest : List Char) : List Char :=
  behind .list (is.map Padded.written) rest

theorem moreItems_cons (i : Padded) (is : List Padded) (rest : List Char) :
    moreItems (i :: is) rest = ',' :: (i.before ++ (i.text ++ (i.after ++ moreItems is rest))) := by
  rw [moreItems, List.map_cons, behind_cons, Padded.written_append]
  rfl

/-- a cursor stands where items go on: before the closing bracket, or before a value -/
def AtItem (first : Bool) (c : Cursor) : List Padded → List Char → Prop
  | [], rest => c.skipBlanks.rest = ']' :: rest
  | i :: is, rest => ∃ k, nextItem first c = .ok (true, k) ∧
      k.rest = i.text ++ (i.after ++ moreItems is rest)

section
variable {is : List Padded} {c : Cursor} {rest : List Char}

theorem isValue_of_items {given : List (Key × Value)}
    (h : List.Forall₂ (fun g i => Denotes g.1.kind i.text g.2) given is) :
    ∀ i ∈ is, IsValue i.text := by
  induction h with
  | nil => exact fun i hi => absurd hi List.not_mem_nil
  | cons hg _ ih => exact List.forall_mem_cons.mpr ⟨isValue_of_denotes hg, ih⟩

theorem nextItem_close {first : Bool} (hc : c.skipBlanks.rest = ']' :: rest) :
    nextItem first c = .ok (false, c.skipBlanks) := by
  unfold nextItem
  dsimp only
  rw [hc]
  rfl

theorem nextItem_first {d : Char} (hd : d ≠ ']') (hc : c.skipBlanks.rest = d :: rest) :
    nextItem true c = .ok (true, c.skipBlanks) := by
  unfold nextItem
  dsimp only
  rw [hc]
  split
  · rename_i h
    cases h
  · rename_i h
    exact absurd (List.cons.inj h).1 hd
  · rfl
  · rfl

theorem nextItem_comma {d : Char} {tail : List Char} (hd : d ≠ ']')
    (hc : c.skipBlanks.rest = ',' :: tail)
    (hk : c.skipBlanks.advance.skipBlanks.rest = d :: rest) :
    nextItem false c = .ok (true, c.skipBlanks.advance.skipBlanks) := by
  unfold nextItem
  dsimp only
  rw [hc, hk]
  split <;> rename_i h
  · cases h
  · cases (List.cons.inj h).1
  · rw [if_neg Bool.false_ne_true]
    split <;> rename_i h
    · exact absurd (List.cons.inj h).1 hd
    · cases h
    · rfl
  · exact (h tail rfl).elim

theorem atItem_more (hl : ∀ i ∈ is, i.Loose) (hv : ∀ i ∈ is, IsValue i.text)
    (hc : c.skipBlanks.rest = moreItems is rest) : AtItem false c is rest := by
  cases is with
  | nil => exact hc
  | cons i is =>
    have hi : i.Loose := hl i List.mem_cons_self
    rw [moreItems_cons] at hc
    have hvalue := rest_skipBlanks_value (hv i List.mem_cons_self) hi.before (rest_advance_of hc)
    refine ⟨c.skipBlanks.advance.skipBlanks, ?_, hvalue⟩
    obtain ⟨d, tail, htext, hd⟩ := cons_of_isValue (hv i List.mem_cons_self)
    rw [htext] at hvalue
    exact nextItem_comma (fun h => hd (.inr (by rw [h]; decide))) hc hvalue

theorem atItem_first (hl : ∀ i ∈ is, i.Loose) (hv : ∀ i ∈ is, IsValue i.text) {cs : List Char}
    (h : Separated (is.map Padded.written) cs) (hc : c.rest = cs ++ ']' :: rest) :
    AtItem true c is rest := by
  cases is with
  | nil =>
    obtain ⟨hgap⟩ := h
    exact rest_skipBlanks_of hgap rfl hc
  | cons i is =>
    have hi : i.Loose := hl i List.mem_cons_self
    have happend : cs ++ Frame.list.close :: rest = _ := h.append_close
    have hvalue : c.skipBlanks.rest = i.text ++ (i.after ++ moreItems is rest) :=
      rest_skipBlanks_value (hv i List.mem_cons_self) hi.before
        (hc.trans (happend.trans (Padded.written_append i (moreItems is rest))))
    refine ⟨c.skipBlanks, ?_, hvalue⟩
    obtain ⟨d, tail, htext, hd⟩ := cons_of_isValue (hv i List.mem_cons_self)
    rw [htext] at hvalue
    exact nextItem_first (fun h => hd (.inr (by rw [h]; decide))) hvalue

/-- the values of the first settings are put in, one after the other -/
theorem reads_items {given : List (Key × Value)} {first : Bool} (s : Settings) (ks : List Key)
    (h : List.Forall₂ (fun g i => Denotes g.1.kind i.text g.2) given is) (hl : ∀ i ∈ is, i.Loose)
    (hc : AtItem first c is rest) : ∃ k, k.skipBlanks.rest = ']' :: rest ∧
      items first s (given.map Prod.fst ++ ks) c = .ok (replaced s given, k) := by
  induction h generalizing first s c with
  | nil =>
    have hclose : c.skipBlanks.rest = ']' :: rest := hc
    cases ks with
    | nil => exact ⟨c, hclose, rfl⟩
    | cons k ks =>
      refine ⟨c.skipBlanks, rest_skipBlanks_self rfl hclose, ?_⟩
      show items first s (k :: ks) c = _
      rw [items, nextItem_close hclose]
      rfl
  | @cons g i given is hg hgiven ih =>
    obtain ⟨hi, hl⟩ := List.forall_mem_cons.mp hl
    obtain ⟨k, hnext, hk⟩ := hc
    have hcloses : Closes (moreItems is rest) := closes_behind _
    obtain ⟨l, hvalue, hrest⟩ := reads_value hg gap_nil (hcloses.ends.gap hi.after) hk
    have hmore := hcloses.rest_skipBlanks hi.after hrest
    obtain ⟨j, hj, hitems⟩ := ih (s.put g.1 g.2) hl (atItem_more hl (isValue_of_items hgiven) hmore)
    refine ⟨j, hj, ?_⟩
    rw [List.map_cons, List.cons_append, items, hnext, ok_bind]
    dsimp only
    rw [if_pos rfl, hvalue, ok_bind]
    exact hitems

theorem leaves_closeList (hc : c.skipBlanks.rest = ']' :: rest) : Leaves (closeList c) rest := by
  refine ⟨c.skipBlanks.advance, ?_, rest_advance_of hc⟩
  unfold closeList
  dsimp only
  rw [hc]
  rfl

end

section
variable {document : String}

theorem read_bracket {rest : List Char} (hc : (start document).skipBlanks.rest = '[' :: rest) :
    read document = (items true {} Key.all (start document).skipBlanks.advance >>= fun p =>
      closeList p.2 >>= fun c => ended c >>= fun _ => .ok p.1) := by
  unfold read
  dsimp only
  rw [hc]
  cases items true {} Key.all (start document).skipBlanks.advance with
  | error f => rfl
  | ok p =>
    simp only [ok_bind]

theorem read_list {is : List Padded} (h : IsList is document) {given : List (Key × Value)}
    (hkeys : given.map Prod.fst <+: Key.all)
    (hgiven : List.Forall₂ (fun g i => Denotes g.1.kind i.text g.2) given is) :
    read document = .ok (replaced {} given) := by
  obtain ⟨before, cs, after, hb, ha, hs, hdoc⟩ := h.written
  have hc : (start document).skipBlanks.rest = '[' :: (cs ++ ']' :: after) :=
    rest_skipBlanks_of hb rfl hdoc
  have hat := atItem_first h.loose (isValue_of_items hgiven) hs (rest_advance_of hc)
  obtain ⟨ks, hks⟩ := hkeys
  obtain ⟨k, hk, hitems⟩ := reads_items {} ks hgiven h.loose hat
  rw [hks] at hitems
  obtain ⟨l, hclose, hrest⟩ := leaves_closeList hk
  rw [read_bracket hc, hitems, ok_bind]
  dsimp only
  rw [hclose, ok_bind, ended_of_gap (hrest ▸ ha)]
  rfl

end

/-! ## what documents give -/

/-- **The reading of settings is lawful.** -/
theorem lawful_read : Lawful read where
  object _ _ _ h := read_object_iff_run h
  list _ _ h _ hkeys hgiven := read_list h hkeys hgiven

namespace Lawful

variable {reading : String → Except Fault Settings} (lawful : Lawful reading) {document : String}
include lawful

/-- **What an object gives** is read, and nothing else is. -/
theorem object_iff {ms : List Member} {s : Settings} (h : IsObject ms document) :
    reading document = .ok s ↔
      ∃ given, Said ms given ∧ (given.map Prod.fst).Nodup ∧ Gives given s := by
  rw [lawful.object ms document s h, run_iff]
  refine exists_congr fun given => and_congr_right fun hsaid => and_congr_right fun hnodup => ?_
  have hgives := gives_replaced hnodup (inRange_of_said hsaid)
  constructor
  · rintro ⟨-, rfl⟩
    exact hgives
  · intro hs
    exact ⟨fun k _ hmem => absurd hmem List.not_mem_nil, hs.unique hgives⟩

/-- **A setting that is given twice** is a fault, wherever its members stand. -/
theorem repeated {ms : List Member} (h : IsObject ms document) {m m' : Member}
    (hm : [m, m'].Sublist ms) {k : Key} (hk : Spells m.key.text k.name.toList)
    (hk' : Spells m'.key.text k.name.toList) : ∃ f, reading document = .error f := by
  cases hread : reading document with
  | error f => exact ⟨f, rfl⟩
  | ok s =>
    obtain ⟨given, hsaid, hnodup, -⟩ := (lawful.object_iff h).mp hread
    have hall : ∀ n ∈ [m, m'], Spells n.key.text k.name.toList := by
      simpa using ⟨hk, hk'⟩
    exact absurd (sublist_of_said hm hall hsaid) (List.nodup_iff_sublist.mp hnodup k)

/-- **What a list gives** is read. -/
theorem list_gives {is : List Padded} (h : IsList is document) {given : List (Key × Value)}
    (hkeys : given.map Prod.fst <+: Key.all)
    (hgiven : List.Forall₂ (fun g i => Denotes g.1.kind i.text g.2) given is) :
    ∃ s, reading document = .ok s ∧ Gives given s := by
  refine ⟨replaced {} given, lawful.list is document h given hkeys hgiven, gives_replaced ?_ ?_⟩
  · exact hkeys.sublist.nodup (by decide)
  · have hrange := hgiven.imp fun g i hg => And.intro (inRange_iff.mpr ⟨_, hg⟩) hg
    exact ((List.forall₂_and_left _ _).mp hrange).1

end Lawful

/-! ## a document with a nested value and an escape in a key -/

/-- this member gives no setting, and in its value there is half a character -/
def silent : Member :=
  ⟨⟨[' '], "next".toList, [' ']⟩, ⟨[' '], "[null, \x7b\"\\ud800\": -1.5e3\x7d]".toList, []⟩⟩

/-- this member gives a setting, with an escape in its key -/
def operations : Member := ⟨⟨['\n'], "max\\u005foperations".toList, []⟩, ⟨[], "7".toList, [' ']⟩⟩

theorem isNumber_silent : IsNumber "-1.5e3".toList := by
  have hwhole : Whole ['1'] := .digits rfl (by decide) (by decide)
  have hfraction : Fraction ['.', '5'] := .point rfl (by decide)
  have hsign : [] ∈ [[], ['+'], ['-']] := by decide
  have hexponent : Exponent ('e' :: ([] ++ '3' :: [])) := .power (by decide) hsign rfl (by decide)
  exact ⟨List.mem_cons_of_mem _ List.mem_cons_self, hwhole, hfraction, hexponent⟩

theorem isValue_silent : IsValue silent.value.text := by
  have hcode : CodeUnit "d800".toList 0xd800 :=
    show CodeUnit _ (Nat.ofDigits 16 [0, 0, 8, 13]) from .mk rfl rfl rfl rfl
  have hkey : Letters "\\ud800".toList := .code hcode .nil
  let m : Member := ⟨⟨[], "\\ud800".toList, []⟩, ⟨[' '], "-1.5e3".toList, []⟩⟩
  have hm : ∀ n ∈ [m], n.Loose ∧ IsValue n.value.text := by
    rintro n hn
    obtain rfl := List.mem_singleton.mp hn
    exact ⟨⟨⟨by decide, by decide⟩, hkey, ⟨by decide, by decide⟩⟩, .number isNumber_silent⟩
  have hobject : IsValue ('\x7b' :: (m.written ++ [] ++ ['\x7d'])) :=
    .object (fun n hn => (hm n hn).1) (fun n hn => (hm n hn).2) (.some m.written [])
  let first : Padded := ⟨[], "null".toList, []⟩
  let second : Padded := ⟨[' '], '\x7b' :: (m.written ++ [] ++ ['\x7d']), []⟩
  have hitems : ∀ i ∈ [first, second], i.Loose ∧ IsValue i.text := by
    intro i hi
    rcases List.mem_cons.mp hi with rfl | hi
    · exact ⟨⟨by decide, by decide⟩, .null⟩
    · obtain rfl := List.mem_singleton.mp hi
      exact ⟨⟨by decide, by decide⟩, hobject⟩
  exact .list (fun i hi => (hitems i hi).1) (fun i hi => (hitems i hi).2)
    (.some first.written [second.written])

theorem says_silent : Says silent none := by
  have hname : Spells silent.key.text "next".toList := spells_self (by decide)
  exact .unknown hname fun k => by cases k <;> decide

theorem spells_operations : Spells operations.key.text Key.maxOperations.name.toList := by
  have hcode : CodeUnit "005f".toList 0x5f :=
    show CodeUnit _ (Nat.ofDigits 16 [15, 5, 0, 0]) from .mk rfl rfl rfl rfl
  have hend : Spells "operations".toList "operations".toList := spells_self (by decide)
  exact .plain rfl (.plain rfl (.plain rfl (.code hcode (.inl (by decide)) hend)))

theorem denotes_seven : Denotes Key.maxOperations.kind ['7'] (.number 7) := by
  have hseven : Whole ['7'] := .digits rfl (by decide) (by decide)
  exact show Denotes (.number "u64") _ (.number (decimal ['7'])) from .number hseven (by decide)

theorem isObject_of_mem {m : Member} {ms : List Member} {document : String}
    (hm : ∀ n ∈ m :: ms, n ∈ [silent, operations])
    (hdoc : document.toList = '\x7b' :: (m.written ++
      (ms.map Member.written).flatMap (fun part => ',' :: part) ++ ['\x7d'])) :
    IsObject (m :: ms) document := by
  have hall : ∀ n ∈ m :: ms, n.Loose ∧ IsValue n.value.text := by
    intro n hn
    rcases List.mem_cons.mp (hm n hn) with rfl | hn
    · have hletters : Letters silent.key.text := (spells_self (by decide)).letters
      exact ⟨⟨⟨by decide, by decide⟩, hletters, ⟨by decide, by decide⟩⟩, isValue_silent⟩
    · obtain rfl := List.mem_singleton.mp hn
      exact ⟨⟨⟨by decide, by decide⟩, spells_operations.letters, ⟨by decide, by decide⟩⟩,
        isValue_of_denotes denotes_seven⟩
  exact ⟨fun n hn => (hall n hn).1, fun n hn => (hall n hn).2, [], _, [], gap_nil, gap_nil,
    .some m.written (ms.map Member.written), hdoc⟩

/-! ## partial documents -/

/-- **Partial documents.**  What is in range can be written.  By every lawful reading, which that of
settings is, an object is read as what its members say, in whatever order, if they say nothing
twice, and not otherwise.  A list of the first few values is read as every object that gives the
same. -/
theorem partial_documents :
    Lawful read ∧ (∀ kind v, InRange kind v ↔ ∃ text, Denotes kind text v) ∧
    ∀ reading, Lawful reading →
    (∀ ms object, IsObject ms object →
      (∀ given, Said ms given → (given.map Prod.fst).Nodup →
        ∃ s, reading object = .ok s ∧ Gives given s) ∧
      (∀ s, reading object = .ok s → ∃ given, Said ms given ∧ (given.map Prod.fst).Nodup) ∧
      (∀ m m' k, [m, m'].Sublist ms → Spells m.key.text (Key.name k).toList →
        Spells m'.key.text k.name.toList → ∃ f, reading object = .error f)) ∧
    (∀ is list, IsList is list → ∀ given, given.map Prod.fst <+: Key.all →
      List.Forall₂ (fun g i => Denotes g.1.kind i.text g.2) given is →
        ∃ s, reading list = .ok s ∧ Gives given s ∧
          ∀ ms object given', IsObject ms object → Said ms given' → given'.Perm given →
            reading object = .ok s) := by
  refine ⟨lawful_read, fun kind v => inRange_iff, fun reading lawful => ⟨fun ms object h => ?_, ?_⟩⟩
  · refine ⟨?_, ?_, ?_⟩
    · intro given hsaid hnodup
      have hgives := gives_replaced hnodup (inRange_of_said hsaid)
      exact ⟨_, (lawful.object_iff h).mpr ⟨given, hsaid, hnodup, hgives⟩, hgives⟩
    · intro s hread
      obtain ⟨given, hsaid, hnodup, -⟩ := (lawful.object_iff h).mp hread
      exact ⟨given, hsaid, hnodup⟩
    · exact fun m m' k hm hk hk' => lawful.repeated h hm hk hk'
  · intro is list h given hkeys hgiven
    obtain ⟨s, hread, hgives⟩ := lawful.list_gives h hkeys hgiven
    refine ⟨s, hread, hgives, fun ms object given' hobject hsaid hperm => ?_⟩
    have hnodup : (given'.map Prod.fst).Nodup :=
      (hperm.map Prod.fst).nodup_iff.mpr (hkeys.sublist.nodup (by decide))
    exact (lawful.object_iff hobject).mpr ⟨given', hsaid, hnodup, hgives.perm hperm.symm⟩

/-- an object with a member that says nothing, a list that gives the same, and an object that gives
it twice -/
theorem partial_documents_nested :
    read "\x7b \"next\" : [null, \x7b\"\\ud800\": -1.5e3\x7d],\n\"max\\u005foperations\":7 \x7d" =
        .ok { maxOperations := 7 } ∧
      read "[7 ]" = .ok { maxOperations := 7 } ∧
      ∃ f, read "\x7b\n\"max\\u005foperations\":7 ,\n\"max\\u005foperations\":7 \x7d" =
        .error f := by
  obtain ⟨lawful, -, hall⟩ := partial_documents
  obtain ⟨hobjects, hlists⟩ := hall read lawful
  have hgiven : Gives [(.maxOperations, .number 7)] { maxOperations := 7 } := by
    refine ⟨by decide, fun k hk => ?_⟩
    cases k <;> first | rfl | exact absurd List.mem_cons_self hk
  have hobject : IsObject [silent, operations]
      "\x7b \"next\" : [null, \x7b\"\\ud800\": -1.5e3\x7d],\n\"max\\u005foperations\":7 \x7d" :=
    isObject_of_mem (fun n hn => hn) (by decide)
  have hsaid : Said [silent, operations] [(.maxOperations, .number 7)] :=
    .cons says_silent (.cons (.known spells_operations denotes_seven) .nil)
  have hlist : IsList [⟨[], ['7'], [' ']⟩] "[7 ]" := by
    refine ⟨?_, [], _, [], gap_nil, gap_nil, .some ['7', ' '] [], by decide⟩
    intro i hi
    obtain rfl := List.mem_singleton.mp hi
    exact ⟨by decide, by decide⟩
  have hrepeated : IsObject [operations, operations]
      "\x7b\n\"max\\u005foperations\":7 ,\n\"max\\u005foperations\":7 \x7d" :=
    isObject_of_mem (by simp) (by decide)
  obtain ⟨s, hread, hgives⟩ := (hobjects _ _ hobject).1 _ hsaid (by decide)
  obtain rfl := hgives.unique hgiven
  obtain ⟨t, hitems, -, hsame⟩ := hlists _ _ hlist [(.maxOperations, .number 7)]
    (by decide) (.cons denotes_seven .nil)
  obtain rfl := Except.ok.inj (hread.symm.trans (hsame _ _ _ hobject hsaid (.refl _)))
  exact ⟨hread, hitems, (hobjects _ _ hrepeated).2.2 _ _ .maxOperations (.refl _)
    spells_operations spells_operations⟩

end Scripting.Settings
