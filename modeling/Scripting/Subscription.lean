import Scripting.Diagnostic

/-!
# Subscriptions

Handlers that want to hear of failed compiles.  Each gets a number of its own, and no number is ever
given twice.  A report notifies every live handler, in the order they subscribed, with its first
diagnostic; a report without diagnostics notifies nobody.
-/

namespace Scripting

structure Subscriptions where
  next : Nat := 0
  /-- in the order they subscribed -/
  live : List Nat := []
deriving DecidableEq, Repr, Inhabited

namespace Subscriptions

def subscribe (s : Subscriptions) : Subscriptions × Nat :=
  (⟨s.next + 1, s.live ++ [s.next]⟩, s.next)

/-- whether there was such a handler -/
def unsubscribe (s : Subscriptions) (id : Nat) : Subscriptions × Bool :=
  ({ s with live := s.live.filter (· != id) }, s.live.contains id)

def notices (s : Subscriptions) (r : Report) : List (Nat × Diagnostic) :=
  match r.head? with
  | some d => s.live.map fun id => (id, d)
  | none => []

end Subscriptions

end Scripting
