import Scripting.Fingerprint
import Scripting.Proofs.Text.Pieces

/-!
# What the stream of several texts tells of them

The mark behind every text is the byte of the character `nul`, and a text may hold that character.
So the stream tells the texts cut at every `nul`, and nothing else:

* `pieces`            what is left of texts when all of them are cut at every `nul`;
* `stream_eq_iff`     two lists of texts have one stream exactly if they have the same pieces;
* `eq_iff_pieces`     they are the same list exactly if, besides, each text has as many `nul`s as
                      its counterpart (`nuls`);
* `stream_move_iff`   characters that move to the next text leave the stream alone exactly if all
                      of them are `nul`.
-/

namespace Scripting.Fingerprint

/-- the character whose byte is the mark behind every text -/
def nul : Char := '\x00'

/-! ## bytes and characters -/

theorem toList_loop (bs : ByteArray) (i : Nat) (before : List UInt8) :
    ByteArray.toList.loop bs i before = before.reverse ++ bs.data.toList.drop i := by
  fun_induction ByteArray.toList.loop bs i before with
  | case1 i before h ih =>
    have hi : i < bs.data.toList.length := by simpa using h
    have hb : bs.get! i = bs.data.toList[i] := by
      rw [ByteArray.get!, Array.getElem_toList]
      exact getElem!_pos bs.data i h
    rw [ih, List.drop_eq_getElem_cons hi, hb, List.reverse_cons, List.append_assoc]
    rfl
  | case2 i before h =>
    have hi : bs.data.toList.length ≤ i := by simpa using h
    rw [List.drop_eq_nil_of_le hi, List.append_nil]

/-- the bytes of a text are those that the text is stored as -/
theorem encode_eq (s : String) : encode s = s.toByteArray.data.toList :=
  (toList_loop s.toByteArray 0 []).trans (by simp)

theorem encode_append (s t : String) : encode (s ++ t) = encode s ++ encode t := by
  rw [encode_eq, encode_eq, encode_eq, String.toByteArray_append, ByteArray.data_append,
    Array.toList_append]

theorem encode_inj {s t : String} (h : encode s = encode t) : s = t := by
  rw [encode_eq, encode_eq] at h
  exact String.toByteArray_inj.mp (ByteArray.ext (Array.ext' h))

theorem encode_nul : encode (String.singleton nul) = [0] := by
  rw [encode_eq]
  decide

/-- the characters of a stream -/
def spelled (ps : List String) : List Char := ps.flatMap fun s => s.toList ++ [nul]

theorem spelled_cons (s : String) (ps : List String) :
    spelled (s :: ps) = s.toList ++ nul :: spelled ps := by
  simp [spelled]
theorem spelled_append (ps qs : List String) :
    spelled (ps ++ qs) = spelled ps ++ spelled qs := List.flatMap_append

theorem stream_eq_encode (ps : List String) : stream ps = encode (String.ofList (spelled ps)) := by
  induction ps with
  | nil => rw [encode_eq]; rfl
  | cons s ps ih =>
    have h : String.ofList (spelled (s :: ps)) =
        s ++ (String.singleton nul ++ String.ofList (spelled ps)) := by
      apply String.toList_injective
      simp [spelled_cons]
    rw [stream_cons, h, encode_append, encode_append, encode_nul, ih]
    rfl

theorem stream_eq_iff_spelled (ps qs : List String) :
    stream ps = stream qs ↔ spelled ps = spelled qs := by
  rw [stream_eq_encode, stream_eq_encode]
  constructor
  · intro h
    exact String.ofList_injective (encode_inj h)
  · intro h
    rw [h]

/-! ## pieces -/

/-- the texts cut at every `nul` -/
def pieces (ps : List String) : List (List Char) := ps.flatMap fun s => Text.splitOn nul s.toList

/-- how often each text holds `nul` -/
def nuls (ps : List String) : List Nat := ps.map fun s => s.toList.count nul

theorem pieces_cons (s : String) (ps : List String) :
    pieces (s :: ps) = Text.splitOn nul s.toList ++ pieces ps := rfl

/-- the stream cut at every `nul`; its last piece is behind its last mark -/
theorem splitOn_spelled (ps : List String) :
    Text.splitOn nul (spelled ps) = pieces ps ++ [[]] := by
  induction ps with
  | nil => rfl
  | cons s ps ih => rw [spelled_cons, Text.splitOn_mid, ih, pieces_cons, List.append_assoc]

/-- **A stream tells the pieces of the texts, and nothing else.** -/
theorem stream_eq_iff (ps qs : List String) : stream ps = stream qs ↔ pieces ps = pieces qs := by
  rw [stream_eq_iff_spelled]
  constructor
  · intro h
    have hs := congrArg (Text.splitOn nul) h
    rw [splitOn_spelled, splitOn_spelled] at hs
    exact List.append_cancel_right hs
  · intro h
    apply Text.splitOn_inj nul
    rw [splitOn_spelled, splitOn_spelled, h]

/-- the pieces of texts and the number of `nul`s in each make up the texts -/
theorem eq_iff_pieces (ps qs : List String) :
    ps = qs ↔ pieces ps = pieces qs ∧ nuls ps = nuls qs := by
  refine ⟨fun h => h ▸ ⟨rfl, rfl⟩, ?_⟩
  rintro ⟨hp, hn⟩
  induction ps generalizing qs with
  | nil =>
    have h : qs.map (fun s => s.toList.count nul) = [] := hn.symm
    exact (List.map_eq_nil_iff.mp h).symm
  | cons s ps ih =>
    cases qs with
    | nil => cases hn
    | cons t qs =>
      obtain ⟨hc, hn⟩ : s.toList.count nul = t.toList.count nul ∧ nuls ps = nuls qs :=
        List.cons_eq_cons.mp hn
      -- as many marks, so as many pieces: the first text takes the same ones from both
      have hl : (Text.splitOn nul s.toList).length = (Text.splitOn nul t.toList).length := by
        rw [Text.length_splitOn, Text.length_splitOn, hc]
      obtain ⟨hs, hp⟩ := List.append_inj hp hl
      rw [ih qs hp hn, String.toList_injective (Text.splitOn_inj nul hs)]

theorem pieces_of_not_mem {ps : List String} (h : ∀ s ∈ ps, nul ∉ s.toList) :
    pieces ps = ps.map String.toList := by
  induction ps with
  | nil => rfl
  | cons s ps ih =>
    have hs : nul ∉ s.toList := h s List.mem_cons_self
    rw [pieces_cons, Text.splitOn_eq_singleton nul hs,
      ih fun t ht => h t (List.mem_cons_of_mem s ht)]
    rfl

/-- so a stream tells texts without `nul` from each other -/
theorem eq_of_pieces {ps qs : List String} (hp : ∀ s ∈ ps, nul ∉ s.toList)
    (hq : ∀ s ∈ qs, nul ∉ s.toList) (h : pieces ps = pieces qs) : ps = qs := by
  rw [pieces_of_not_mem hp, pieces_of_not_mem hq] at h
  exact (List.map_inj_right fun _ _ e => String.toList_injective e).mp h

/-! ## characters that move -/

theorem append_singleton_eq_cons_iff (c : Char) (m : List Char) :
    m ++ [c] = c :: m ↔ ∀ d ∈ m, d = c := by
  induction m with
  | nil => simp
  | cons d m ih =>
    rw [List.cons_append, List.cons_eq_cons, List.forall_mem_cons]
    constructor
    · rintro ⟨rfl, h⟩
      exact ⟨rfl, ih.mp h⟩
    · rintro ⟨rfl, h⟩
      exact ⟨rfl, ih.mpr h⟩

/-- **Characters that move from one text to the next.**  Only marks may move unnoticed. -/
theorem stream_move_iff (a b : List String) (s m t : String) :
    stream (a ++ (s ++ m) :: t :: b) = stream (a ++ s :: (m ++ t) :: b) ↔
      ∀ c ∈ m.toList, c = nul := by
  have h : m.toList ++ nul :: (t.toList ++ nul :: spelled b) =
        nul :: (m.toList ++ (t.toList ++ nul :: spelled b)) ↔
      m.toList ++ [nul] = nul :: m.toList := by
    rw [List.append_cons, ← List.cons_append, List.append_left_inj]
  rw [← append_singleton_eq_cons_iff, ← h, stream_eq_iff_spelled]
  simp only [spelled_append, spelled_cons, String.toList_append, List.append_assoc,
    List.append_right_inj]

/-! ## digests -/

/-- the digest does not confuse the streams of two lists of texts -/
def Apart (ps qs : List String) : Prop :=
  digest (stream ps) = digest (stream qs) → stream ps = stream qs

instance (ps qs : List String) : Decidable (Apart ps qs) :=
  inferInstanceAs (Decidable (_ → _))

theorem ofParts_eq_iff {ps qs : List String} (h : Apart ps qs) :
    ofParts ps = ofParts qs ↔ pieces ps = pieces qs := by
  rw [← stream_eq_iff]
  exact ⟨h, fun e => congrArg digest e⟩

theorem ofParts_move_iff {a b : List String} {s m t : String}
    (h : Apart (a ++ (s ++ m) :: t :: b) (a ++ s :: (m ++ t) :: b)) :
    ofParts (a ++ (s ++ m) :: t :: b) = ofParts (a ++ s :: (m ++ t) :: b) ↔
      ∀ c ∈ m.toList, c = nul := by
  rw [ofParts_eq_iff h, ← stream_eq_iff, stream_move_iff]

end Scripting.Fingerprint
