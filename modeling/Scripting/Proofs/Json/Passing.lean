import Scripting.Proofs.Json.Number
import Scripting.Proofs.Json.Text

/-!
# Values that are passed

A value that nobody asks for is passed without being built, along a stack of the brackets that are
open.  Each value is passed as a whole, whatever is around it: in a number of rounds that is at most
twice its length, the stack is again what it was (`Passes`).

* `skipFrom_atValue`, `skipFrom_inside`   what one round does;
* `passes_value`   every value is passed, by induction on its grammar;
* `leaves_skip`    so `skip` leaves what stands behind a value.
-/

namespace Scripting.Json

open Cursor
open Text (isDigit)

/-- what passing does once it is behind a value -/
def goOn (fuel : Nat) (stack : List Frame) (c : Cursor) : Except Fault Cursor :=
  match afterValue stack with
  | none => .ok c
  | some (next, rest) => skipFrom fuel next rest c

/-- a value is passed, and passing goes on behind it -/
def Passes (v : List Char) : Prop := ∀ ⦃c : Cursor⦄ ⦃rest : List Char⦄,
  c.skipBlanks.rest = v ++ rest → Ends rest → ∃ used ≤ 2 * v.length, ∃ k, k.rest = rest ∧
    ∀ fuel stack, skipFrom (fuel + used) .atValue stack c = goOn fuel stack k

/-! ## one round -/

/-- the bracket that ends a frame -/
def Frame.close : Frame → Char
  | .list => ']'
  | .object => '\x7d'

/-- goes into a part of a frame: past its key, if it has one -/
def enter (fuel : Nat) (frame : Frame) (stack : List Frame) (c : Cursor) : Except Fault Cursor :=
  match frame with
  | .list => skipFrom fuel .atValue (frame :: stack) c
  | .object => skipKey c >>= fun k => skipFrom fuel .atValue (frame :: stack) k

section
variable {fuel : Nat} {stack : List Frame} {c : Cursor} {d : Char} {rest : List Char}

/-- before a value, which is known by its first character -/
theorem skipFrom_atValue (hc : c.skipBlanks.rest = d :: rest) :
    skipFrom (fuel + 1) .atValue stack c =
      if isDigit d then skipNumber c.skipBlanks >>= goOn fuel stack
      else if d = '-' then skipNumber c.skipBlanks.advance >>= goOn fuel stack
      else if d = '"' then
        skipText (c.skipBlanks.rest.length + 1) c.skipBlanks.advance >>= goOn fuel stack
      else if d = 'n' then
        word ['u', 'l', 'l'] c.skipBlanks.advance >>= fun p => goOn fuel stack p.2
      else if d = 't' then
        word ['r', 'u', 'e'] c.skipBlanks.advance >>= fun p => goOn fuel stack p.2
      else if d = 'f' then
        word ['a', 'l', 's', 'e'] c.skipBlanks.advance >>= fun p => goOn fuel stack p.2
      else if d = '[' then skipFrom fuel (.inside .list false) stack c.skipBlanks.advance
      else if d = '\x7b' then skipFrom fuel (.inside .object false) stack c.skipBlanks.advance
      else .error (c.skipBlanks.onNext .noValue) := by
  rw [skipFrom, hc]
  dsimp only
  split <;> rename_i h
  case h_1 => cases h
  case h_9 hn ht hf hm hq hl ho =>
    obtain ⟨rfl, rfl⟩ := List.cons.inj h
    rw [isSome_digit?, if_neg hm, if_neg hq, if_neg hn, if_neg ht, if_neg hf, if_neg hl, if_neg ho]
    rfl
  all_goals
    obtain ⟨rfl, -⟩ := List.cons.inj h
    rfl

variable {frame : Frame}

/-- inside a frame: a comma, the closing bracket, or the first part -/
theorem skipFrom_inside {comma : Bool} (hc : c.skipBlanks.rest = d :: rest) :
    skipFrom (fuel + 1) (.inside frame comma) stack c =
      if d = ',' ∧ comma then enter fuel frame stack c.skipBlanks.advance
      else if d = frame.close then goOn fuel stack c.skipBlanks.advance
      else if comma then .error (c.skipBlanks.onNext
        (match frame with | .list => .noListEnd | .object => .noObjectEnd))
      else enter fuel frame stack c.skipBlanks := by
  cases frame
  all_goals
    rw [skipFrom, hc]
    rfl

theorem skipFrom_close {comma : Bool} (hc : c.skipBlanks.rest = frame.close :: rest) :
    skipFrom (fuel + 1) (.inside frame comma) stack c = goOn fuel stack c.skipBlanks.advance := by
  have hcomma : ¬ (frame.close = ',' ∧ comma = true) := fun h => by cases frame <;> cases h.1
  rw [skipFrom_inside hc, if_neg hcomma, if_pos rfl]

theorem skipFrom_comma (hc : c.skipBlanks.rest = ',' :: rest) :
    skipFrom (fuel + 1) (.inside frame true) stack c =
      enter fuel frame stack c.skipBlanks.advance := by
  rw [skipFrom_inside hc, if_pos ⟨rfl, rfl⟩]

theorem skipFrom_first (hd : d ≠ frame.close) (hc : c.skipBlanks.rest = d :: rest) :
    skipFrom (fuel + 1) (.inside frame false) stack c = enter fuel frame stack c.skipBlanks := by
  rw [skipFrom_inside hc, if_neg fun h => Bool.false_ne_true h.2, if_neg hd]
  rfl

end

/-! ## what is inside brackets -/

/-- what stands behind a part of a frame: a comma or a closing bracket -/
def Closes (rest : List Char) : Prop := ∃ d ∈ [',', ']', '\x7d'], ∃ tail, rest = d :: tail

theorem Closes.ends {rest : List Char} (h : Closes rest) : Ends rest := by
  obtain ⟨d, hd, tail, rfl⟩ := h
  exact ends_cons (.inr hd)

theorem Frame.closes (frame : Frame) (rest : List Char) : Closes (frame.close :: rest) :=
  ⟨frame.close, by cases frame <;> decide, rest, rfl⟩

theorem Frame.isGap_close (frame : Frame) : isGap frame.close = false := by cases frame <;> rfl

/-- blanks before a comma or a closing bracket are passed, and nothing else -/
theorem Closes.rest_skipBlanks {c : Cursor} {gap rest : List Char} (h : Closes rest) (hg : Gap gap)
    (hc : c.rest = gap ++ rest) : c.skipBlanks.rest = rest := by
  obtain ⟨d, hd, tail, rfl⟩ := h
  refine rest_skipBlanks_of hg ?_ hc
  simp only [List.mem_cons, List.not_mem_nil, or_false] at hd
  rcases hd with rfl | rfl | rfl <;> rfl

/-- a part of a frame is entered and passed -/
def Enters (frame : Frame) (part : List Char) : Prop := ∀ ⦃c : Cursor⦄ ⦃rest : List Char⦄,
  c.skipBlanks.rest = part ++ rest → Closes rest → ∃ used ≤ 2 * part.length, ∃ k,
    k.skipBlanks.rest = rest ∧
      ∀ fuel stack, enter (fuel + used) frame stack c = skipFrom fuel (.inside frame true) stack k

/-- a part of a frame with the blanks before it -/
inductive IsPart (frame : Frame) : List Char → Prop
  | mk {gap : List Char} {d : Char} {tail : List Char} (hg : Gap gap) (hd : isGap d = false)
    (hc : d ≠ frame.close) (h : Enters frame (d :: tail)) : IsPart frame (gap ++ d :: tail)

section
variable {frame : Frame} {rest : List Char}

/-- what stands behind the first part of a frame: the others, each behind its comma, and the bracket
that closes it -/
def behind (frame : Frame) (more : List (List Char)) (rest : List Char) : List Char :=
  more.flatMap (fun part => ',' :: part) ++ frame.close :: rest

theorem behind_cons (part : List Char) (more : List (List Char)) :
    behind frame (part :: more) rest = ',' :: (part ++ behind frame more rest) := by
  rw [behind, List.flatMap_cons, List.append_assoc]
  rfl

theorem closes_behind (more : List (List Char)) : Closes (behind frame more rest) := by
  cases more with
  | nil => exact frame.closes rest
  | cons part more => exact ⟨',', List.mem_cons_self, _, behind_cons part more⟩

/-- the first part, and what stands behind it -/
theorem Separated.append_close {first : List Char} {more : List (List Char)} {cs : List Char}
    (h : Separated (first :: more) cs) :
    cs ++ frame.close :: rest = first ++ behind frame more rest := by
  obtain ⟨⟩ := h
  rw [behind, List.append_assoc]

/-- the parts behind the first, and the closing bracket -/
theorem passes_behind {more : List (List Char)} (hm : ∀ part ∈ more, IsPart frame part) {c : Cursor}
    (hc : c.skipBlanks.rest = behind frame more rest) :
    ∃ used, used + 2 * rest.length < 2 * (behind frame more rest).length ∧ ∃ k, k.rest = rest ∧
      ∀ fuel stack, skipFrom (fuel + used) (.inside frame true) stack c = goOn fuel stack k := by
  induction more generalizing c with
  | nil =>
    have hclose : c.skipBlanks.rest = frame.close :: rest := hc
    refine ⟨1, ?_, c.skipBlanks.advance, rest_advance_of hclose, fun fuel stack => ?_⟩
    · simp only [behind, List.flatMap_nil, List.nil_append, List.length_cons]
      omega
    · exact skipFrom_close hclose
  | cons part more ih =>
    obtain ⟨hpart, hmore⟩ := List.forall_mem_cons.mp hm
    obtain @⟨gap, d, tail, hg, hd, -, henter⟩ := hpart
    rw [behind_cons, List.append_assoc] at hc
    have hnext : c.skipBlanks.advance.skipBlanks.rest = d :: tail ++ behind frame more rest :=
      rest_skipBlanks_of hg hd (rest_advance_of hc)
    obtain ⟨entered, hentered, k, hk, hin⟩ := henter hnext (closes_behind more)
    obtain ⟨used, hused, l, hl, hloop⟩ := ih hmore hk
    refine ⟨used + entered + 1, ?_, l, hl, fun fuel stack => ?_⟩
    · simp only [behind_cons, List.length_append, List.length_cons] at hentered ⊢
      omega
    · rw [← Nat.add_assoc, skipFrom_comma hc, ← Nat.add_assoc, hin, hloop]

/-- all parts of a frame, behind the bracket that opens it -/
theorem passes_separated {parts : List (List Char)} {cs : List Char} (h : Separated parts cs)
    (hp : ∀ part ∈ parts, IsPart frame part) {c : Cursor}
    (hc : c.rest = cs ++ frame.close :: rest) :
    ∃ used ≤ 2 * cs.length + 2, ∃ k, k.rest = rest ∧
      ∀ fuel stack, skipFrom (fuel + used) (.inside frame false) stack c = goOn fuel stack k := by
  cases parts with
  | nil =>
    obtain ⟨hg⟩ := h
    have hclose := rest_skipBlanks_of hg frame.isGap_close hc
    exact ⟨1, Nat.le_add_left .., c.skipBlanks.advance, rest_advance_of hclose,
      fun fuel stack => skipFrom_close hclose⟩
  | cons first more =>
    obtain ⟨hfirst, hm⟩ := List.forall_mem_cons.mp hp
    obtain @⟨gap, d, tail, hg, hd, hne, henter⟩ := hfirst
    have happend : cs ++ frame.close :: rest = _ := h.append_close
    rw [happend, List.append_assoc] at hc
    have hstart : c.skipBlanks.rest = d :: tail ++ behind frame more rest :=
      rest_skipBlanks_of hg hd hc
    have hagain : c.skipBlanks.skipBlanks.rest = _ := rest_skipBlanks_self hd hstart
    obtain ⟨entered, hentered, k, hk, hin⟩ := henter hagain (closes_behind more)
    obtain ⟨used, hused, l, hl, hloop⟩ := passes_behind hm hk
    refine ⟨used + entered + 1, ?_, l, hl, fun fuel stack => ?_⟩
    · have hlen := congrArg List.length happend
      simp only [List.length_append, List.length_cons] at hentered hlen
      omega
    · rw [← Nat.add_assoc, skipFrom_first hne hstart, ← Nat.add_assoc, hin, hloop]

end

/-! ## values -/

theorem cons_of_isNumber {cs : List Char} (h : IsNumber cs) :
    ∃ d tail, cs = d :: tail ∧ (isDigit d = true ∨ d = '-') := by
  obtain ⟨hs, hw, hf, he⟩ := h
  simp only [List.mem_cons, List.not_mem_nil, or_false] at hs
  rcases hs with rfl | rfl
  · obtain ⟨d, ds, rfl, hd, -⟩ := hw.exists_cons
    exact ⟨d, _, rfl, .inl hd⟩
  · exact ⟨'-', _, rfl, .inr rfl⟩

/-- a value begins with none of the characters that may stand behind one -/
theorem cons_of_isValue {v : List Char} (h : IsValue v) :
    ∃ d tail, v = d :: tail ∧ ¬ (isGap d = true ∨ d ∈ [',', ']', '\x7d']) := by
  cases h with
  | null => exact ⟨_, _, rfl, by decide⟩
  | true => exact ⟨_, _, rfl, by decide⟩
  | false => exact ⟨_, _, rfl, by decide⟩
  | number h =>
    obtain ⟨d, tail, rfl, hd | rfl⟩ := cons_of_isNumber h
    · refine ⟨d, tail, rfl, fun hend => ?_⟩
      have hnot := ((ends_cons hend : Ends [d]).not_number d rfl).1
      exact Bool.false_ne_true (hnot.symm.trans hd)
    · exact ⟨'-', tail, rfl, by decide⟩
  | text h => exact ⟨_, _, rfl, by decide⟩
  | list hl hv h => exact ⟨_, _, rfl, by decide⟩
  | object hl hv h => exact ⟨_, _, rfl, by decide⟩

theorem rest_skipBlanks_value {v : List Char} (h : IsValue v) {c : Cursor} {gap rest : List Char}
    (hg : Gap gap) (hc : c.rest = gap ++ (v ++ rest)) : c.skipBlanks.rest = v ++ rest := by
  obtain ⟨d, tail, rfl, hd⟩ := cons_of_isValue h
  exact rest_skipBlanks_of hg (Bool.eq_false_iff.mpr fun hgap => hd (.inl hgap)) hc

theorem leaves_skipKey {key gap rest : List Char} (hk : Letters key) (hg : Gap gap) {c : Cursor}
    (hc : c.skipBlanks.rest = '"' :: (key ++ '"' :: (gap ++ ':' :: rest))) :
    Leaves (skipKey c) rest := by
  have hlen : key.length ≤ c.skipBlanks.rest.length := by
    rw [hc, List.length_cons, List.length_append]
    omega
  obtain ⟨k, hskip, hrest⟩ := leaves_skipText hk hlen (rest_advance_of hc)
  have hcolon : k.skipBlanks.rest = ':' :: rest := rest_skipBlanks_of hg rfl hrest
  refine ⟨k.skipBlanks.advance, ?_, rest_advance_of hcolon⟩
  rw [hc] at hskip
  unfold skipKey
  dsimp only
  rw [hc, hskip, ok_bind, hcolon]
  rfl

theorem enters_item {i : Padded} (hi : i.Loose) (h : Passes i.text) :
    Enters .list (i.text ++ i.after) := by
  intro c rest hc hr
  rw [List.append_assoc] at hc
  obtain ⟨used, hused, k, hk, hpass⟩ := h hc (hr.ends.gap hi.after)
  refine ⟨used, ?_, k, hr.rest_skipBlanks hi.after hk,
    fun fuel stack => hpass fuel (.list :: stack)⟩
  rw [List.length_append]
  omega

theorem isPart_item {i : Padded} (hi : i.Loose) (hv : IsValue i.text) (h : Passes i.text) :
    IsPart .list i.written := by
  have henter := enters_item hi h
  obtain ⟨d, tail, htext, hd⟩ := cons_of_isValue hv
  rw [Padded.written, htext]
  rw [htext] at henter
  refine ⟨hi.before, ?_, ?_, henter⟩
  · exact Bool.eq_false_iff.mpr fun hgap => hd (.inl hgap)
  · rintro rfl
    exact hd (.inr (by decide))

theorem isPart_member {m : Member} (hm : m.Loose) (hv : IsValue m.value.text)
    (h : Passes m.value.text) : IsPart .object m.written := by
  refine ⟨hm.key.before, rfl, by decide, ?_⟩
  intro c rest hc hr
  have hkey : c.skipBlanks.rest = '"' :: (m.key.text ++ '"' :: (m.key.after ++ ':' ::
      (m.value.written ++ rest))) := by
    rw [hc]
    simp
  obtain ⟨k, hskip, hk⟩ := leaves_skipKey hm.letters hm.key.after hkey
  have hvalue : k.skipBlanks.rest = m.value.text ++ (m.value.after ++ rest) := by
    refine rest_skipBlanks_value hv hm.value.before ?_
    rw [hk, Padded.written]
    simp
  obtain ⟨used, hused, l, hl, hpass⟩ := h hvalue (hr.ends.gap hm.value.after)
  refine ⟨used, ?_, l, hr.rest_skipBlanks hm.value.after hl, fun fuel stack => ?_⟩
  · simp [Padded.written]
    omega
  · rw [enter, hskip, ok_bind]
    exact hpass fuel (.object :: stack)

/-- what takes one round is passed -/
theorem passes_of_round {v : List Char} (hv : v ≠ [])
    (h : ∀ {c : Cursor} {rest : List Char}, c.skipBlanks.rest = v ++ rest → Ends rest →
      ∃ k, k.rest = rest ∧ ∀ fuel stack, skipFrom (fuel + 1) .atValue stack c = goOn fuel stack k) :
    Passes v := by
  intro c rest hc hr
  obtain ⟨k, hk, hround⟩ := h hc hr
  refine ⟨1, ?_, k, hk, hround⟩
  have hpos := List.length_pos_iff.mpr hv
  omega

theorem passes_value {v : List Char} (h : IsValue v) : Passes v := by
  induction h with
  | null =>
    refine passes_of_round (by decide) fun hc hr => ?_
    obtain ⟨k, hword, hk⟩ := leaves_word (rest_advance_of hc : _ = ['u', 'l', 'l'] ++ _)
    exact ⟨k, hk, fun fuel stack => by rw [skipFrom_atValue hc, hword]; rfl⟩
  | true =>
    refine passes_of_round (by decide) fun hc hr => ?_
    obtain ⟨k, hword, hk⟩ := leaves_word (rest_advance_of hc : _ = ['r', 'u', 'e'] ++ _)
    exact ⟨k, hk, fun fuel stack => by rw [skipFrom_atValue hc, hword]; rfl⟩
  | false =>
    refine passes_of_round (by decide) fun hc hr => ?_
    obtain ⟨k, hword, hk⟩ := leaves_word (rest_advance_of hc : _ = ['a', 'l', 's', 'e'] ++ _)
    exact ⟨k, hk, fun fuel stack => by rw [skipFrom_atValue hc, hword]; rfl⟩
  | number h =>
    obtain @⟨sign, w, f, e, hs, hw, hf, he⟩ := h
    obtain ⟨d, ds, hcons, hd, -⟩ := hw.exists_cons
    refine passes_of_round (by simp [hcons]) fun hc hr => ?_
    simp only [List.append_assoc] at hc
    simp only [List.mem_cons, List.not_mem_nil, or_false] at hs
    rcases hs with rfl | rfl
    · obtain ⟨k, hnumber, hk⟩ := leaves_skipNumber hw hf he hr hc
      refine ⟨k, hk, fun fuel stack => ?_⟩
      rw [hcons] at hc
      rw [skipFrom_atValue hc, if_pos hd, hnumber, ok_bind]
    · obtain ⟨k, hnumber, hk⟩ := leaves_skipNumber hw hf he hr (rest_advance_of hc)
      exact ⟨k, hk, fun fuel stack => by rw [skipFrom_atValue hc, hnumber]; rfl⟩
  | @text cs h =>
    refine passes_of_round (by simp) fun {c rest} hc hr => ?_
    have hquote : c.skipBlanks.rest = '"' :: (cs ++ '"' :: rest) := by rw [hc]; simp
    have hlen : cs.length ≤ c.skipBlanks.rest.length := by
      rw [hquote, List.length_cons, List.length_append]
      omega
    obtain ⟨k, htext, hk⟩ := leaves_skipText h hlen (rest_advance_of hquote)
    exact ⟨k, hk, fun fuel stack => by rw [skipFrom_atValue hquote, htext]; rfl⟩
  | @list items cs hl hv h ih =>
    intro c rest hc hr
    have hopen : c.skipBlanks.rest = '[' :: (cs ++ ']' :: rest) := by rw [hc]; simp
    have hparts : ∀ part ∈ items.map Padded.written, IsPart .list part := by
      intro part hpart
      obtain ⟨i, hi, rfl⟩ := List.mem_map.mp hpart
      exact isPart_item (hl i hi) (hv i hi) (ih i hi)
    obtain ⟨used, hused, k, hk, hpass⟩ := passes_separated h hparts (rest_advance_of hopen)
    refine ⟨used + 1, ?_, k, hk, fun fuel stack => ?_⟩
    · simp only [List.length_cons, List.length_append, List.length_nil]
      omega
    · rw [← Nat.add_assoc, skipFrom_atValue hopen]
      exact hpass fuel stack
  | @object members cs hl hv h ih =>
    intro c rest hc hr
    have hopen : c.skipBlanks.rest = '\x7b' :: (cs ++ '\x7d' :: rest) := by rw [hc]; simp
    have hparts : ∀ part ∈ members.map Member.written, IsPart .object part := by
      intro part hpart
      obtain ⟨m, hm, rfl⟩ := List.mem_map.mp hpart
      exact isPart_member (hl m hm) (hv m hm) (ih m hm)
    obtain ⟨used, hused, k, hk, hpass⟩ := passes_separated h hparts (rest_advance_of hopen)
    refine ⟨used + 1, ?_, k, hk, fun fuel stack => ?_⟩
    · simp only [List.length_cons, List.length_append, List.length_nil]
      omega
    · rw [← Nat.add_assoc, skipFrom_atValue hopen]
      exact hpass fuel stack

/-- passing a value leaves what stands behind it -/
theorem leaves_skip {v gap rest : List Char} (h : IsValue v) (hg : Gap gap) (hr : Ends rest)
    {c : Cursor} (hc : c.rest = gap ++ (v ++ rest)) : Leaves (skip c) rest := by
  obtain ⟨used, hused, k, hk, hpass⟩ := passes_value h (rest_skipBlanks_value h hg hc) hr
  have hle : used ≤ 2 * c.rest.length + 4 := by
    rw [hc, List.length_append, List.length_append]
    omega
  obtain ⟨fuel, hfuel⟩ := Nat.exists_eq_add_of_le' hle
  refine ⟨k, ?_, hk⟩
  rw [skip, hfuel, hpass]
  rfl

end Scripting.Json
