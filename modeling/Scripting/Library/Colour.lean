/-!
# Packed colours

A colour is one number of 64 bits with a sign: red from its bit 16 on, green from its bit 8 on, and
blue.  Each channel is a number from 0 to 255.  The channels of any number at all, negative ones
included, are those of its lowest 24 bits.
-/

namespace Scripting.Colour

inductive Channel where
  | red | green | blue
deriving DecidableEq, Repr

def Channel.name : Channel → String
  | .red => "red"
  | .green => "green"
  | .blue => "blue"

def inRange (v : Int64) : Bool := decide (0 ≤ v) && decide (v ≤ 255)

/-- a channel with a value it cannot have -/
structure OutOfRange where
  channel : Channel
  value : Int
deriving DecidableEq, Repr

def OutOfRange.message (e : OutOfRange) : String :=
  e.channel.name ++ " channel out of range: " ++ toString e.value

/-- the first channel out of range decides -/
def pack (r g b : Int64) : Except OutOfRange Int64 :=
  if !inRange r then .error ⟨.red, r.toInt⟩
  else if !inRange g then .error ⟨.green, g.toInt⟩
  else if !inRange b then .error ⟨.blue, b.toInt⟩
  else .ok (r <<< 16 ||| g <<< 8 ||| b)

def red (c : Int64) : Int64 := (c >>> 16) &&& 0xff
def green (c : Int64) : Int64 := (c >>> 8) &&& 0xff
def blue (c : Int64) : Int64 := c &&& 0xff

def black : Int := 0
def white : Int := 0xffffff

end Scripting.Colour
