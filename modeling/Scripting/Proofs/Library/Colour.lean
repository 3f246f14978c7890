import Mathlib.Algebra.Group.Int.Defs
import Mathlib.Algebra.Group.Nat.Defs
import Scripting.Proofs.Library.Function

/-!
# Packed colours

Three channels fit into one number, and every number of 64 bits has three channels.  The bits are
taken to numbers first: a shift to the right is a division, whatever the sign, a mask is a
remainder, and what does not overlap is added.

* `toInt_shiftRight`, `toInt_and_mask`, `toNat_shiftLeft`   shifts and masks as numbers;
* `toInt_red`, `toInt_green`, `toInt_blue`, `toInt_joined`   and so the channels and the colour;
* `pack_error_iff`, `pack_of_inRange`   packing fails at the first channel that is out of range;
* `channels_joined`    the channels of what was packed are what it was packed of;
* `pack_channels`      the channels of any number, packed, are its lowest 24 bits;
* `packed_channels`    all of it, for the functions that scripts call.
-/

namespace Scripting.Colour

open Library (Catalog Native Surroundings)
open Script (Value)

/-- the values that a channel can have -/
def InRange (v : Int) : Prop := 0 ≤ v ∧ v ≤ 255

instance (v : Int) : Decidable (InRange v) := inferInstanceAs (Decidable (_ ∧ _))

theorem inRange_iff {v : Int64} : inRange v = true ↔ InRange v.toInt := by
  rw [inRange, Bool.and_eq_true, decide_eq_true_iff, decide_eq_true_iff, Int64.le_iff_toInt_le,
    Int64.le_iff_toInt_le]
  rfl

theorem not_inRange_iff {v : Int} : (!decide (InRange v)) = true ↔ ¬ InRange v := by
  rw [Bool.not_eq_true', decide_eq_false_iff_not]

/-- the channels with their values, in the order in which they are checked -/
def channels (r g b : Int) : List (Channel × Int) := [(.red, r), (.green, g), (.blue, b)]

/-- the first channel that is out of range, and its value -/
def FirstOutside (r g b : Int) (channel : Channel) (v : Int) : Prop :=
  ∃ before after, channels r g b = before ++ (channel, v) :: after ∧
    (∀ p ∈ before, InRange p.2) ∧ ¬ InRange v

/-! ## bits -/

section
variable (c : Int64) {s mask : Int64} {n : Nat}

/-- A shift to the right brings the sign along, so it divides negative numbers too. -/
theorem toInt_shiftRight (hs : (s.toBitVec.smod 64).toNat = n) :
    (c >>> s).toInt = c.toInt / 2 ^ n := by
  have h : (c >>> s).toBitVec.toInt = c.toBitVec.toInt / ((2 ^ n : Nat) : Int) := by
    rw [Int64.toBitVec_shiftRight, BitVec.toInt_sshiftRight', hs, Int.shiftRight_eq_div_pow]
  rw [Int.natCast_pow] at h
  exact h

theorem toNat_shiftLeft (hs : (s.toBitVec.smod 64).toNat = n)
    (h : c.toBitVec.toNat <<< n < 2 ^ 64) :
    (c <<< s).toBitVec.toNat = c.toBitVec.toNat <<< n := by
  rw [Int64.toBitVec_shiftLeft, BitVec.shiftLeft_eq', BitVec.toNat_shiftLeft, hs,
    Nat.mod_eq_of_lt h]

/-- The sign is worth a power of two, so it counts for nothing modulo a smaller one. -/
theorem toInt_emod (hn : n ≤ 64) :
    c.toInt % 2 ^ n = ((c.toBitVec.toNat % 2 ^ n : Nat) : Int) := by
  have hpow : (2 : Int) ^ n ∣ 2 ^ 64 :=
    Int.natCast_pow 2 n ▸ Int.natCast_pow 2 64 ▸
      Int.natCast_dvd_natCast.mpr (Nat.pow_dvd_pow 2 hn)
  have hc : c.toInt = (c.toBitVec.toNat : Int).bmod (2 ^ 64) := BitVec.toInt_eq_toNat_bmod _
  calc c.toInt % 2 ^ n
      = c.toInt % 2 ^ 64 % 2 ^ n := (Int.emod_emod_of_dvd _ hpow).symm
    _ = (c.toBitVec.toNat : Int) % 2 ^ 64 % 2 ^ n := by
      rw [hc]
      exact congrArg (· % 2 ^ n) Int.bmod_emod
    _ = (c.toBitVec.toNat : Int) % 2 ^ n := Int.emod_emod_of_dvd _ hpow
    _ = ((c.toBitVec.toNat % 2 ^ n : Nat) : Int) := by
      rw [Int.natCast_emod, Int.natCast_pow]
      rfl

/-- Masking keeps the lowest bits of a two's complement, so it takes a negative number to what it is
modulo a power of two. -/
theorem toInt_and_mask (hn : n < 64) (hmask : mask.toBitVec.toNat = 2 ^ n - 1) :
    (c &&& mask).toInt = c.toInt % 2 ^ n := by
  have hand : (c &&& mask).toBitVec.toNat = c.toBitVec.toNat % 2 ^ n := by
    rw [Int64.toBitVec_and, BitVec.toNat_and, hmask, Nat.and_two_pow_sub_one_eq_mod]
  have hlt : c.toBitVec.toNat % 2 ^ n < 2 ^ 63 :=
    Nat.lt_of_lt_of_le (Nat.mod_lt _ (Nat.two_pow_pos n))
      (Nat.pow_le_pow_right (by decide) (Nat.le_of_lt_succ hn))
  rw [toInt_emod c (Nat.le_of_lt hn), ← hand]
  exact BitVec.toInt_eq_toNat_of_lt (by omega)

end

/-! ## channels and colours as numbers -/

section
variable (c : Int64)

theorem toInt_red : (red c).toInt = c.toInt / 65536 % 256 := by
  rw [red, toInt_and_mask (n := 8) _ (by decide) (by decide),
    toInt_shiftRight (n := 16) c (by decide)]
  rfl

theorem toInt_green : (green c).toInt = c.toInt / 256 % 256 := by
  rw [green, toInt_and_mask (n := 8) _ (by decide) (by decide),
    toInt_shiftRight (n := 8) c (by decide)]
  rfl

theorem toInt_blue : (blue c).toInt = c.toInt % 256 :=
  toInt_and_mask (n := 8) c (by decide) (by decide)

theorem toInt_lowest : (c &&& 0xffffff).toInt = c.toInt % 16777216 :=
  toInt_and_mask (n := 24) c (by decide) (by decide)

variable {c} {r g b : Int64}

theorem toNat_of_inRange (h : InRange c.toInt) :
    c.toBitVec.toNat < 256 ∧ (c.toBitVec.toNat : Int) = c.toInt := by
  have hc : c.toInt = _ := BitVec.toInt_eq_toNat_cond c.toBitVec
  have hlt : c.toBitVec.toNat < 2 ^ 64 := c.toBitVec.isLt
  obtain ⟨h0, h1⟩ := h
  rw [hc] at h0 h1 ⊢
  split <;> omega

/-- three channels as one number -/
theorem toInt_joined (hr : InRange r.toInt) (hg : InRange g.toInt) (hb : InRange b.toInt) :
    (r <<< 16 ||| g <<< 8 ||| b).toInt = r.toInt * 65536 + g.toInt * 256 + b.toInt := by
  obtain ⟨hr, er⟩ := toNat_of_inRange hr
  obtain ⟨hg, eg⟩ := toNat_of_inRange hg
  obtain ⟨hb, eb⟩ := toNat_of_inRange hb
  have hred := toNat_shiftLeft r (s := 16) (n := 16) (by decide) (by rw [Nat.shiftLeft_eq]; omega)
  have hgreen := toNat_shiftLeft g (s := 8) (n := 8) (by decide) (by rw [Nat.shiftLeft_eq]; omega)
  have hgreen16 : g.toBitVec.toNat <<< 8 < 2 ^ 16 := by rw [Nat.shiftLeft_eq]; omega
  -- green stands below red, and blue below both
  have hnat : (r <<< 16 ||| g <<< 8 ||| b).toBitVec.toNat =
      r.toBitVec.toNat * 65536 + g.toBitVec.toNat * 256 + b.toBitVec.toNat := by
    have hupper : r.toBitVec.toNat <<< 16 + g.toBitVec.toNat <<< 8 =
        (r.toBitVec.toNat * 256 + g.toBitVec.toNat) <<< 8 := by
      simp only [Nat.shiftLeft_eq]
      omega
    rw [Int64.toBitVec_or, Int64.toBitVec_or, BitVec.toNat_or, BitVec.toNat_or, hred, hgreen,
      ← Nat.shiftLeft_add_eq_or_of_lt hgreen16, hupper, ← Nat.shiftLeft_add_eq_or_of_lt hb,
      Nat.shiftLeft_eq]
    omega
  have hint : (r <<< 16 ||| g <<< 8 ||| b).toInt =
      ((r <<< 16 ||| g <<< 8 ||| b).toBitVec.toNat : Int) :=
    BitVec.toInt_eq_toNat_of_lt (by omega)
  rw [hint, hnat, ← er, ← eg, ← eb]
  omega

end

/-! ## packing -/

section
variable {r g b : Int64}

theorem pack_eq : pack r g b =
    match (channels r.toInt g.toInt b.toInt).find? fun p => !decide (InRange p.2) with
    | some (channel, v) => .error ⟨channel, v⟩
    | none => .ok (r <<< 16 ||| g <<< 8 ||| b) := by
  have hdecide (v : Int64) : inRange v = decide (InRange v.toInt) :=
    Bool.eq_iff_iff.mpr (inRange_iff.trans decide_eq_true_iff.symm)
  rw [pack, hdecide, hdecide, hdecide, channels, List.find?_cons, List.find?_cons, List.find?_cons]
  cases decide (InRange r.toInt) <;> cases decide (InRange g.toInt) <;>
    cases decide (InRange b.toInt) <;> rfl

theorem find?_channels_iff {r g b v : Int} {channel : Channel} :
    (channels r g b).find? (fun p => !decide (InRange p.2)) = some (channel, v) ↔
      FirstOutside r g b channel v := by
  rw [List.find?_eq_some_iff_append, not_inRange_iff]
  constructor
  · rintro ⟨hv, before, after, h, hb⟩
    refine ⟨before, after, h, fun p hp => ?_, hv⟩
    simpa using hb p hp
  · rintro ⟨before, after, h, hb, hv⟩
    refine ⟨hv, before, after, h, fun p hp => ?_⟩
    rw [decide_eq_true (hb p hp)]
    rfl

theorem firstOutside_of_not {r g b : Int} (h : ¬ (InRange r ∧ InRange g ∧ InRange b)) :
    ∃ channel v, FirstOutside r g b channel v := by
  cases hf : (channels r g b).find? fun p => !decide (InRange p.2) with
  | some p => exact ⟨p.1, p.2, find?_channels_iff.mp hf⟩
  | none =>
    -- nothing is found, so each of the three is in range
    refine absurd ?_ h
    rw [List.find?_eq_none] at hf
    simpa [channels] using hf

theorem pack_of_inRange (hr : InRange r.toInt) (hg : InRange g.toInt) (hb : InRange b.toInt) :
    pack r g b = .ok (r <<< 16 ||| g <<< 8 ||| b) := by
  rw [pack, inRange_iff.mpr hr, inRange_iff.mpr hg, inRange_iff.mpr hb]
  rfl

theorem pack_error_iff {channel : Channel} {v : Int} :
    pack r g b = .error ⟨channel, v⟩ ↔ FirstOutside r.toInt g.toInt b.toInt channel v := by
  rw [pack_eq, ← find?_channels_iff]
  cases (channels r.toInt g.toInt b.toInt).find? fun p => !decide (InRange p.2) <;>
    simp [Prod.ext_iff]

/-- the channels of what was packed -/
theorem channels_joined (hr : InRange r.toInt) (hg : InRange g.toInt) (hb : InRange b.toInt) :
    let c := r <<< 16 ||| g <<< 8 ||| b
    (0 ≤ c.toInt ∧ c.toInt ≤ 0xffffff) ∧ red c = r ∧ green c = g ∧ blue c = b := by
  intro c
  have hc : c.toInt = _ := toInt_joined hr hg hb
  obtain ⟨hr0, hr1⟩ := hr
  obtain ⟨hg0, hg1⟩ := hg
  obtain ⟨hb0, hb1⟩ := hb
  refine ⟨by omega, Int64.toInt_inj.mp ?_, Int64.toInt_inj.mp ?_, Int64.toInt_inj.mp ?_⟩
  · rw [toInt_red]
    omega
  · rw [toInt_green]
    omega
  · rw [toInt_blue]
    omega

end

/-! ## unpacking -/

section
variable (c : Int64)

theorem inRange_emod (v : Int) : InRange (v % 256) :=
  ⟨Int.emod_nonneg v (by decide), Int.le_of_lt_add_one (Int.emod_lt_of_pos v (by decide))⟩

theorem inRange_channels :
    InRange (red c).toInt ∧ InRange (green c).toInt ∧ InRange (blue c).toInt := by
  rw [toInt_red, toInt_green, toInt_blue]
  exact ⟨inRange_emod _, inRange_emod _, inRange_emod _⟩

theorem pack_channels : pack (red c) (green c) (blue c) = .ok (c &&& 0xffffff) := by
  obtain ⟨hr, hg, hb⟩ := inRange_channels c
  rw [pack_of_inRange hr hg hb]
  refine congrArg Except.ok (Int64.toInt_inj.mp ?_)
  rw [toInt_joined hr hg hb, toInt_lowest, toInt_red, toInt_green, toInt_blue]
  omega

end

/-! ## the functions that scripts call -/

section
variable (around : Surroundings)

/-- what a function of the namespace `Drawing` answers for whole numbers -/
def drawing? (name : String) (args : List Int) : Option (Except String Value) :=
  Catalog.standard.answer? .standard around "drawing" "Drawing" name (args.map Value.int)

theorem drawing?_eq (native : Native) {args : List Int}
    (h : Library.Space.native? ⟨[("BLACK", .int black), ("WHITE", .int white)],
      [.pack, .red, .green, .blue]⟩ native.name (args.map Value.int) = some native) :
    drawing? around native.name args =
      some (native.call .standard around (args.map Value.int)) := by
  have hb : Catalog.standard.get? "drawing" = some Library.drawing := rfl
  exact Catalog.answer?_of_native .standard around native hb rfl h

theorem drawing?_rgb (r g b : Int64) : drawing? around "rgb" [r.toInt, g.toInt, b.toInt] =
    some (match pack r g b with
      | .ok c => .ok (.int c.toInt)
      | .error e => .error e.message) := by
  have h : drawing? around "rgb" [r.toInt, g.toInt, b.toInt] =
      some (match pack (.ofInt r.toInt) (.ofInt g.toInt) (.ofInt b.toInt) with
        | .ok c => .ok (.int c.toInt)
        | .error e => .error e.message) := drawing?_eq around .pack rfl
  rwa [Int64.ofInt_toInt, Int64.ofInt_toInt, Int64.ofInt_toInt] at h

/-- a function of one colour, whose 64 bits are written as a number -/
theorem drawing?_channel {name : String} {channel : Int64 → Int64}
    (h : ∀ v : Int, drawing? around name [v] = some (.ok (.int (channel (.ofInt v)).toInt)))
    (c : Int64) : drawing? around name [c.toInt] = some (.ok (.int (channel c).toInt)) := by
  rw [h, Int64.ofInt_toInt]

theorem drawing?_red (c : Int64) :
    drawing? around "red" [c.toInt] = some (.ok (.int (red c).toInt)) :=
  drawing?_channel around (fun _ => drawing?_eq around .red rfl) c

theorem drawing?_green (c : Int64) :
    drawing? around "green" [c.toInt] = some (.ok (.int (green c).toInt)) :=
  drawing?_channel around (fun _ => drawing?_eq around .green rfl) c

theorem drawing?_blue (c : Int64) :
    drawing? around "blue" [c.toInt] = some (.ok (.int (blue c).toInt)) :=
  drawing?_channel around (fun _ => drawing?_eq around .blue rfl) c

theorem drawing?_of_firstOutside {r g b : Int64} {v : Int} {channel : Channel}
    (h : FirstOutside r.toInt g.toInt b.toInt channel v) :
    drawing? around "rgb" [r.toInt, g.toInt, b.toInt] =
      some (.error (channel.name ++ " channel out of range: " ++ toString v)) := by
  rw [drawing?_rgb, pack_error_iff.mpr h]
  rfl

/-- channels in range are packed, and unpacked again -/
theorem drawing?_of_inRange {r g b : Int64} (hr : InRange r.toInt) (hg : InRange g.toInt)
    (hb : InRange b.toInt) :
    ∃ c : Int64, drawing? around "rgb" [r.toInt, g.toInt, b.toInt] = some (.ok (.int c.toInt)) ∧
      0 ≤ c.toInt ∧ c.toInt ≤ 0xffffff ∧
        drawing? around "red" [c.toInt] = some (.ok (.int r.toInt)) ∧
        drawing? around "green" [c.toInt] = some (.ok (.int g.toInt)) ∧
        drawing? around "blue" [c.toInt] = some (.ok (.int b.toInt)) := by
  obtain ⟨hc, hred, hgreen, hblue⟩ := channels_joined hr hg hb
  refine ⟨r <<< 16 ||| g <<< 8 ||| b, ?_⟩
  rw [drawing?_rgb, pack_of_inRange hr hg hb, drawing?_red, drawing?_green, drawing?_blue, hred,
    hgreen, hblue]
  exact ⟨rfl, hc.1, hc.2, rfl, rfl, rfl⟩

/-- packing fails if a channel is out of range, and only then -/
theorem drawing?_rgb_fails_iff {r g b : Int64} :
    (∃ message, drawing? around "rgb" [r.toInt, g.toInt, b.toInt] = some (.error message)) ↔
      ¬ (InRange r.toInt ∧ InRange g.toInt ∧ InRange b.toInt) := by
  constructor
  · rintro ⟨message, hm⟩ ⟨hr, hg, hb⟩
    obtain ⟨c, hc, -⟩ := drawing?_of_inRange around hr hg hb
    cases hm.symm.trans hc
  · intro h
    obtain ⟨channel, v, hv⟩ := firstOutside_of_not h
    exact ⟨_, drawing?_of_firstOutside around hv⟩

end

/-- **Colours are packed and unpacked without loss**, over all numbers of 64 bits with a sign.
Packing fails exactly if a channel is not between 0 and 255, and names the first such channel and
its value; otherwise it answers a number of 24 bits whose channels are those that were given.  A
colour of any sign has three channels between 0 and 255, and these make up its lowest 24 bits. -/
theorem packed_channels (around : Surroundings) :
    (∀ r g b : Int64,
      let rgb := drawing? around "rgb" [r.toInt, g.toInt, b.toInt]
      ((∃ message, rgb = some (.error message)) ↔
        ¬ (InRange r.toInt ∧ InRange g.toInt ∧ InRange b.toInt)) ∧
      (∀ channel v, FirstOutside r.toInt g.toInt b.toInt channel v →
        rgb = some (.error (channel.name ++ " channel out of range: " ++ toString v))) ∧
      (InRange r.toInt ∧ InRange g.toInt ∧ InRange b.toInt → ∃ c : Int64,
        rgb = some (.ok (.int c.toInt)) ∧ 0 ≤ c.toInt ∧ c.toInt ≤ 0xffffff ∧
        drawing? around "red" [c.toInt] = some (.ok (.int r.toInt)) ∧
        drawing? around "green" [c.toInt] = some (.ok (.int g.toInt)) ∧
        drawing? around "blue" [c.toInt] = some (.ok (.int b.toInt)))) ∧
    ∀ c : Int64, ∃ r g b : Int64,
      (InRange r.toInt ∧ InRange g.toInt ∧ InRange b.toInt) ∧
      drawing? around "red" [c.toInt] = some (.ok (.int r.toInt)) ∧
      drawing? around "green" [c.toInt] = some (.ok (.int g.toInt)) ∧
      drawing? around "blue" [c.toInt] = some (.ok (.int b.toInt)) ∧
      drawing? around "rgb" [r.toInt, g.toInt, b.toInt] =
        some (.ok (.int (c &&& 0xffffff).toInt)) := by
  refine ⟨fun r g b => ⟨drawing?_rgb_fails_iff around, fun channel v h =>
    drawing?_of_firstOutside around h, fun h => drawing?_of_inRange around h.1 h.2.1 h.2.2⟩, ?_⟩
  intro c
  refine ⟨red c, green c, blue c, inRange_channels c, drawing?_red around c,
    drawing?_green around c, drawing?_blue around c, ?_⟩
  rw [drawing?_rgb, pack_channels]

/-- a channel that is too large, and the channels of a negative colour -/
theorem packed_channels_negative :
    drawing? {} "rgb" [200, 300, -1] = some (.error "green channel out of range: 300") ∧
      ∃ r g b : Int64, (InRange r.toInt ∧ InRange g.toInt ∧ InRange b.toInt) ∧
        drawing? {} "red" [-2] = some (.ok (.int r.toInt)) ∧
        drawing? {} "green" [-2] = some (.ok (.int g.toInt)) ∧
        drawing? {} "blue" [-2] = some (.ok (.int b.toInt)) ∧
        drawing? {} "rgb" [r.toInt, g.toInt, b.toInt] = some (.ok (.int 0xfffffe)) := by
  refine ⟨((packed_channels {}).1 200 300 (-1)).2.1 .green 300 ?_, (packed_channels {}).2 (-2)⟩
  refine ⟨[(.red, 200)], [(.blue, -1)], rfl, fun p hp => ?_, by decide⟩
  rw [List.mem_singleton.mp hp]
  decide

end Scripting.Colour
