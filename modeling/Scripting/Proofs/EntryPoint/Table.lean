import Mathlib.Data.List.Induction
import Scripting.EntryPoint
import Scripting.Proofs.Assoc

/-!
# What a table of entry points answers

A table is built export by export, and answers what a look through all of them would answer:

* `entry?_ofExports`      the entry of a module is that of the exports with its key, in order;
* `methods_ofExports`     the overloads of a method are its exports among those;
* `Export.first?`         the first export with a key, a method name and an arity;
* `invokeWith_of_first`   it is the one that a call by name reaches.
-/

namespace Scripting

namespace Export

/-- the exports, if there are any -/
def any? (xs : List Export) : Option (List Export) := if xs.isEmpty then none else some xs

@[simp] theorem any?_nil : any? [] = none := rfl
theorem any?_of_ne_nil {xs : List Export} (h : xs ≠ []) : any? xs = some xs := by
  simp [any?, h]
theorem any?_concat (xs : List Export) (x : Export) :
    any? (xs ++ [x]) = some ((any? xs).getD [] ++ [x]) := by
  cases xs <;> rfl

/-- the first export of a module with a method name that takes so many arguments -/
def first? (xs : List Export) (name : QualifiedName) (method : String) (n : Nat) :
    Option Export :=
  (overloads xs name method).find? fun x => x.arity == n

theorem first?_eq_find? (xs : List Export) (name : QualifiedName) (method : String) (n : Nat) :
    first? xs name method n =
      xs.find? fun x => x.home.key == name.key && (x.name == method && x.arity == n) := by
  simp only [first?, overloads, ofModule, List.find?_filter, Bool.decide_and,
    Bool.decide_eq_true]

theorem first?_of_overloads {xs : List Export} {name : QualifiedName} {method : String}
    (h : overloads xs name method = []) (n : Nat) : first? xs name method n = none := by
  rw [first?, h]
  rfl

theorem ofModule_concat (xs : List Export) (x : Export) (name : QualifiedName) :
    ofModule (xs ++ [x]) name =
      if x.home.key = name.key then ofModule xs name ++ [x] else ofModule xs name := by
  rw [ofModule, List.filter_append]
  split <;> rename_i h <;> simp [h, ofModule]

end Export

namespace Entry

/-- the entry of a module that has just these exports -/
def ofExports? : List Export → Option Entry
  | [] => none
  | x :: xs => some ((x :: xs).foldl add ⟨x.home, []⟩)

theorem ofExports?_concat (xs : List Export) (x : Export) :
    ofExports? (xs ++ [x]) = some (((ofExports? xs).getD ⟨x.home, []⟩).add x) := by
  cases xs with
  | nil => rfl
  | cons y ys =>
    rw [List.cons_append, ofExports?, ← List.cons_append, List.foldl_append]
    rfl

theorem ordered_methods (xs : List Export) {e : Entry} (h : Assoc.Ordered e.methods) :
    Assoc.Ordered (xs.foldl add e).methods := by
  induction xs generalizing e with
  | nil => exact h
  | cons x xs ih => exact ih (Assoc.ordered_update h _ _)

/-- the overloads of a method are the exports of its name, in order -/
theorem methods_ofExports (xs : List Export) (method : String) :
    (ofExports? xs).bind (fun e => Assoc.get? method e.methods) =
      Export.any? (xs.filter fun x => x.name == method) := by
  -- on the last export, because an entry adds behind what it has
  induction xs using List.reverseRecOn with
  | nil => rfl
  | append_singleton xs x ih =>
    have ho : Assoc.Ordered ((ofExports? xs).getD ⟨x.home, []⟩).methods := by
      cases xs with
      | nil => exact Assoc.ordered_nil
      | cons y ys => exact ordered_methods _ Assoc.ordered_nil
    have hg : ∀ name, Assoc.get? name ((ofExports? xs).getD ⟨x.home, []⟩).methods =
        (ofExports? xs).bind fun e => Assoc.get? name e.methods := by
      intro name
      cases ofExports? xs <;> rfl
    rw [ofExports?_concat, Option.bind_some, add, Assoc.get?_update ho, hg, hg, ih,
      List.filter_append]
    by_cases h : method = x.name
    · subst h
      simp [Export.any?_concat, ih]
    · simp [h, Ne.symm h]

end Entry

namespace Table

theorem ordered_add {t : Table} (h : Assoc.Ordered t) (x : Export) : Assoc.Ordered (t.add x) :=
  Assoc.ordered_update h _ _

theorem ofExports_concat (xs : List Export) (x : Export) :
    ofExports (xs ++ [x]) = (ofExports xs).add x := by
  rw [ofExports, List.foldl_append]
  rfl

theorem ordered_ofExports (xs : List Export) : Assoc.Ordered (ofExports xs) := by
  induction xs using List.reverseRecOn with
  | nil => exact Assoc.ordered_nil
  | append_singleton xs x ih => exact ofExports_concat xs x ▸ ordered_add ih x

/-- **A table answers what a look through the exports answers.** -/
theorem entry?_ofExports (xs : List Export) (name : QualifiedName) :
    Table.entry? (ofExports xs) name = Entry.ofExports? (Export.ofModule xs name) := by
  induction xs using List.reverseRecOn with
  | nil => rfl
  | append_singleton xs x ih =>
    rw [ofExports_concat, add, entry?, Assoc.get?_update (ordered_ofExports xs),
      Export.ofModule_concat]
    by_cases h : x.home.key = name.key
    · rw [if_pos h, if_pos h.symm, Entry.ofExports?_concat, ← ih, h]
      rfl
    · rw [if_neg h, if_neg (Ne.symm h), ← ih]
      rfl

theorem methods_ofExports (xs : List Export) (name : QualifiedName) (method : String) :
    let found := Table.entry? (ofExports xs) name
    found.bind (fun e => Assoc.get? method e.methods) =
      Export.any? (Export.overloads xs name method) := by
  dsimp only
  rw [entry?_ofExports, Entry.methods_ofExports]
  rfl

end Table

namespace Running

/-- what a caller by name is told of the end of a call -/
def passOn : Except CallFault Data → Except HostFault Data
  | .ok v => .ok v
  | .error (.invocation f) => .error (executionFailure f)
  | .error fault => .error (.call fault)

/-- what a call of an export answers and leaves behind, or of none -/
def callFirst (u : CompiledUnit) (x? : Option Export) (args : List Data) :
    Except CallFault Data × Trace :=
  match x? with
  | none => (.error (.parameterCount args.length), {})
  | some x => ((u.call x args).result, { calls := [(x, args)], events := (u.call x args).events })

section
variable {u : CompiledUnit} {space owner method : String} (fingerprint : UInt64)

theorem call_overloads (name : QualifiedName) (args : List Data) :
    (ofUnit u fingerprint).call (Export.overloads u.exports name method) args =
      callFirst u (Export.first? u.exports name method args.length) args := rfl

/-- a method that a module has is looked up, and the overload that fits is called -/
theorem invokeWith_of_overloads {args : List Data}
    (h : Export.overloads u.exports (QualifiedName.inNamespace space owner) method ≠ []) :
    let name := QualifiedName.inNamespace space owner
    let reached := callFirst u (Export.first? u.exports name method args.length) args
    (ofUnit u fingerprint).invokeWith space owner method args =
      (passOn reached.1, reached.2) := by
  intro name reached
  have hm := Table.methods_ofExports u.exports name method
  rw [Export.any?_of_ne_nil h, Option.bind_eq_some_iff] at hm
  obtain ⟨entry, he, hg⟩ := hm
  have ht : (ofUnit u fingerprint).table = Table.ofExports u.exports := rfl
  have hc : (ofUnit u fingerprint).call (Export.overloads u.exports name method) args = reached :=
    call_overloads fingerprint name args
  simp only [invokeWith, ht, he, hg, name, hc]
  obtain ⟨result, trace⟩ := reached
  cases result with
  | ok v => rfl
  | error fault => cases fault <;> rfl

/-- a call by name reaches the first export that fits, once and with the arguments given -/
theorem invokeWith_of_first {args : List Data} {x : Export}
    (h : Export.first? u.exports (QualifiedName.inNamespace space owner) method args.length =
      some x) :
    (ofUnit u fingerprint).invokeWith space owner method args =
      (passOn (u.call x args).result, { calls := [(x, args)], events := (u.call x args).events }) := by
  have hne : Export.overloads u.exports (QualifiedName.inNamespace space owner) method ≠ [] := by
    intro e
    rw [Export.first?_of_overloads e] at h
    cases h
  rw [invokeWith_of_overloads fingerprint hne, h]
  rfl

end

end Running

end Scripting
