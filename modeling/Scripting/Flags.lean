/-!
# Compiler flags

The four options that go with a compile request.  As a number each option is one bit; further bits
are dropped.
-/

namespace Scripting

structure Flags where
  executable : Bool := false
  inMemory : Bool := false
  debugInfo : Bool := false
  warningsAsErrors : Bool := false
deriving DecidableEq, Repr, Inhabited

namespace Flags

/-- what a host compiles with: in memory and nothing else -/
def standard : Flags := ⟨false, true, false, false⟩

def all : Flags := ⟨true, true, true, true⟩
def empty : Flags := ⟨false, false, false, false⟩

def ofBits (n : Nat) : Flags := ⟨n.testBit 0, n.testBit 1, n.testBit 2, n.testBit 3⟩

def bits (f : Flags) : Nat :=
  f.executable.toNat + 2 * f.inMemory.toNat + 4 * f.debugInfo.toNat + 8 * f.warningsAsErrors.toNat

/-- `op` on each option -/
def zipWith (op : Bool → Bool → Bool) (f g : Flags) : Flags :=
  ⟨op f.executable g.executable, op f.inMemory g.inMemory, op f.debugInfo g.debugInfo,
    op f.warningsAsErrors g.warningsAsErrors⟩

def union : Flags → Flags → Flags := zipWith (· || ·)
def intersection : Flags → Flags → Flags := zipWith (· && ·)
def difference : Flags → Flags → Flags := zipWith fun a b => a && !b
def symmetric : Flags → Flags → Flags := zipWith fun a b => a != b
def complement (f : Flags) : Flags := all.difference f

/-- every option of `g` is set in `f` -/
def contains (f g : Flags) : Bool := f.intersection g == g

def intersects (f g : Flags) : Bool := f.intersection g != empty

/-- the names of the options that are set, in the order of their bits -/
def names (f : Flags) : List String :=
  (if f.executable then ["GENERATE_EXECUTABLE"] else []) ++
  (if f.inMemory then ["GENERATE_IN_MEMORY"] else []) ++
  (if f.debugInfo then ["INCLUDE_DEBUG_INFO"] else []) ++
  (if f.warningsAsErrors then ["WARNINGS_AS_ERRORS"] else [])

/-- whether a number has no bit beyond the four options -/
def isExact (n : Nat) : Bool := decide (n < 16)

@[simp] theorem ofBits_bits (f : Flags) : ofBits f.bits = f := by
  obtain ⟨a, b, c, d⟩ := f
  cases a <;> cases b <;> cases c <;> cases d <;> rfl

end Flags

end Scripting
