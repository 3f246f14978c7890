/-!
# Text buffers

A text that is kept as one string, of which some first bytes are the header and the rest is the
body.  A statement goes to the very front, and is part of the header from then on; a new body
replaces what stands behind the header.

The header is only a number of bytes.  Where no character of the text begins after that many bytes
there is nothing to cut, and `header?`, `body?` and `setBody?` fail.  `Splits` says that the number
is the size of a header that the text really begins with; then none of them fails.
-/

namespace Scripting

structure Buffer where
  text : String := ""
  /-- how many bytes of the text are the header -/
  header : Nat := 0
deriving DecidableEq, Repr

namespace Buffer

/-- where the body begins -/
def start? (b : Buffer) : Option b.text.Pos :=
  if h : String.Pos.Raw.IsValid b.text ⟨b.header⟩ then some (b.text.pos ⟨b.header⟩ h) else none

def body? (b : Buffer) : Option String := b.start?.map fun p => (b.text.sliceFrom p).copy

def prepend (b : Buffer) (statement : String) : Buffer :=
  ⟨statement ++ b.text, b.header + statement.utf8ByteSize⟩

/-- `b` holds `header` and then `body` -/
structure Splits (b : Buffer) (header body : String) : Prop where
  text : b.text = header ++ body
  size : b.header = header.utf8ByteSize

namespace Splits

variable {b : Buffer} {header body : String}

/-- a buffer is known by what it holds -/
theorem eq (s : b.Splits header body) : b = ⟨header ++ body, header.utf8ByteSize⟩ := by
  rw [← s.text, ← s.size]

theorem prepend (s : b.Splits header body) (statement : String) :
    (b.prepend statement).Splits (statement ++ header) body where
  text := by rw [Buffer.prepend, s.text, String.append_assoc]
  size := by rw [Buffer.prepend, s.size, String.utf8ByteSize_append, Nat.add_comm]

end Splits

end Buffer

end Scripting
