/-!
# Fingerprints

A 64-bit digest of a text or of several texts.  The digest is xxHash64 with a fixed seed, over the
UTF-8 bytes.  Several texts are digested as one stream in which every text ends with a zero byte, so
that the border between two texts counts.
-/

namespace Scripting.Fingerprint

def seed : UInt64 := 0x5c719e0ba4d32f61

def prime1 : UInt64 := 0x9e3779b185ebca87
def prime2 : UInt64 := 0xc2b2ae3d27d4eb4f
def prime3 : UInt64 := 0x165667b19e3779f9
def prime4 : UInt64 := 0x85ebca77c2b2ae63
def prime5 : UInt64 := 0x27d4eb2f165667c5

def rotate (x : UInt64) (n : UInt64) : UInt64 := (x <<< n) ||| (x >>> (64 - n))

/-- one word into one lane -/
def mix (lane word : UInt64) : UInt64 := rotate (lane + word * prime2) 31 * prime1

/-- one lane into the total -/
def merge (h lane : UInt64) : UInt64 := (h ^^^ mix 0 lane) * prime1 + prime4

/-- the number that the first `n` bytes spell, the lowest first, and the bytes behind them -/
def word : Nat → List UInt8 → UInt64 × List UInt8
  | 0, bs => (0, bs)
  | _ + 1, [] => (0, [])
  | n + 1, b :: bs => let (w, rest) := word n bs; (w <<< 8 ||| b.toUInt64, rest)

/-- four lanes, fed in turn with words of eight bytes -/
structure Lanes where
  a : UInt64
  b : UInt64
  c : UInt64
  d : UInt64

def Lanes.start : Lanes := ⟨seed + prime1 + prime2, seed + prime2, seed, seed - prime1⟩

def Lanes.feed (l : Lanes) (bs : List UInt8) : Lanes × List UInt8 :=
  let (a, bs) := word 8 bs
  let (b, bs) := word 8 bs
  let (c, bs) := word 8 bs
  let (d, bs) := word 8 bs
  (⟨mix l.a a, mix l.b b, mix l.c c, mix l.d d⟩, bs)

def Lanes.total (l : Lanes) : UInt64 :=
  let h := rotate l.a 1 + rotate l.b 7 + rotate l.c 12 + rotate l.d 18
  merge (merge (merge (merge h l.a) l.b) l.c) l.d

/-- `n` blocks of 32 bytes -/
def stripes : Nat → Lanes → List UInt8 → Lanes × List UInt8
  | 0, l, bs => (l, bs)
  | n + 1, l, bs => let (l, bs) := l.feed bs; stripes n l bs

/-- `n` further words of eight bytes -/
def words : Nat → UInt64 → List UInt8 → UInt64 × List UInt8
  | 0, h, bs => (h, bs)
  | n + 1, h, bs =>
    let (w, bs) := word 8 bs
    words n (rotate (h ^^^ mix 0 w) 27 * prime1 + prime4) bs

/-- the last bytes, one by one -/
def bytes (h : UInt64) (bs : List UInt8) : UInt64 :=
  bs.foldl (fun h b => rotate (h ^^^ b.toUInt64 * prime5) 11 * prime1) h

/-- fewer than eight bytes: four at once if there are as many -/
def tail (h : UInt64) (length : Nat) (bs : List UInt8) : UInt64 :=
  if 4 ≤ length then
    let (w, bs) := word 4 bs
    bytes (rotate (h ^^^ w * prime1) 23 * prime2 + prime3) bs
  else bytes h bs

def avalanche (h : UInt64) : UInt64 :=
  let h := (h ^^^ (h >>> 33)) * prime2
  let h := (h ^^^ (h >>> 29)) * prime3
  h ^^^ (h >>> 32)

def digest (bs : List UInt8) : UInt64 :=
  let length := bs.length
  let (h, bs) :=
    if 32 ≤ length then
      let (l, bs) := stripes (length / 32) Lanes.start bs
      (l.total, bs)
    else (seed + prime5, bs)
  let (h, bs) := words (length % 32 / 8) (h + UInt64.ofNat length) bs
  avalanche (tail h (length % 8) bs)

/-- the bytes of a text -/
def encode (s : String) : List UInt8 := s.toUTF8.toList

/-- every text followed by a zero byte -/
def stream (parts : List String) : List UInt8 := parts.flatMap fun s => encode s ++ [0]

def ofText (s : String) : UInt64 := digest (encode s)
def ofParts (parts : List String) : UInt64 := digest (stream parts)

def hexDigitAt (n : Nat) (place : Nat) : Char :=
  let d := n / Nat.pow 16 place % 16
  if d < 10 then Char.ofNat (48 + d) else Char.ofNat (87 + d)

/-- sixteen hexadecimal digits -/
def hex (h : UInt64) : String :=
  String.ofList ((List.range 16).map fun i => hexDigitAt h.toNat (15 - i))

theorem stream_cons (s : String) (parts : List String) :
    stream (s :: parts) = encode s ++ 0 :: stream parts := by
  simp [stream]

end Scripting.Fingerprint
