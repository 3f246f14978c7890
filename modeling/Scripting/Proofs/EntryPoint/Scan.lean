import Scripting.Host
import Scripting.Proofs.EntryPoint.Table

/-!
# The table of entry points against a look through the exports

* `invokeWith_eq_scan`    a call by name answers what a look through all exports answers (`scan`);
* `ascending_names`       the names of the modules ascend;
* `mem_names_ofExports`   and they are the first spellings, one for each key;
* `call_scan`             all of it, for every host that holds a unit.
-/

namespace Scripting

namespace Export

section
variable {xs : List Export} {name : QualifiedName} {method : String}

theorem ofModule_eq_nil_iff : ofModule xs name = [] ↔ ∀ x ∈ xs, x.home.key ≠ name.key := by
  simp [ofModule]

theorem overloads_eq_nil_iff :
    overloads xs name method = [] ↔ ∀ x ∈ xs, x.home.key = name.key → x.name ≠ method := by
  simp only [overloads, ofModule, List.filter_filter, List.filter_eq_nil_iff, Bool.and_eq_true,
    beq_iff_eq, not_and']

theorem first?_eq_none_iff {n : Nat} : first? xs name method n = none ↔
    ∀ x ∈ xs, x.home.key = name.key → x.name = method → x.arity ≠ n := by
  simp [first?_eq_find?]

theorem overloads_of_ofModule (h : ofModule xs name = []) : overloads xs name method = [] := by
  rw [overloads, h]
  rfl

end

end Export

/-! ## calls by name -/

namespace Running

/-- what a look through the exports answers to a call by name: it asks for the module, then for the
method, then for the number of arguments -/
def scan (u : CompiledUnit) (name : QualifiedName) (method : String) (args : List Data) :
    Except HostFault Data × Trace :=
  if Export.ofModule u.exports name = [] then (.error (.typeNotFound name.display), {})
  else if Export.overloads u.exports name method = [] then (.error (.methodNotFound method), {})
  else
    let reached := callFirst u (Export.first? u.exports name method args.length) args
    (passOn reached.1, reached.2)

section
variable (u : CompiledUnit) (fingerprint : UInt64)

theorem entry?_ofUnit_eq_none_iff {name : QualifiedName} :
    (ofUnit u fingerprint).table.entry? name = none ↔ Export.ofModule u.exports name = [] := by
  rw [show (ofUnit u fingerprint).table = Table.ofExports u.exports from rfl,
    Table.entry?_ofExports]
  cases Export.ofModule u.exports name <;> simp [Entry.ofExports?]

/-- what a call answers is passed on as it is, or as a failure of the call -/
theorem passOn_eq_ok_iff {result : Except CallFault Data} {v : Data} :
    passOn result = .ok v ↔ result = .ok v := by
  rcases result with (_ | _ | _) | _ <;> simp [passOn]

theorem passOn_ne_typeNotFound (result : Except CallFault Data) (t : String) :
    passOn result ≠ .error (.typeNotFound t) := by
  rcases result with (_ | _ | _) | _ <;> simp [passOn, executionFailure]

theorem passOn_ne_methodNotFound (result : Except CallFault Data) (m : String) :
    passOn result ≠ .error (.methodNotFound m) := by
  rcases result with (_ | _ | _) | _ <;> simp [passOn, executionFailure]

/-- **A call by name answers what a look through the exports answers.** -/
theorem invokeWith_eq_scan (space owner method : String) (args : List Data) :
    (ofUnit u fingerprint).invokeWith space owner method args =
      scan u (QualifiedName.inNamespace space owner) method args := by
  unfold scan
  split
  · rename_i hm
    rw [invokeWith, (entry?_ofUnit_eq_none_iff u fingerprint).mpr hm]
  · rename_i hm
    split
    · rename_i ho
      obtain ⟨entry, he⟩ := Option.ne_none_iff_exists'.mp
        (mt (entry?_ofUnit_eq_none_iff u fingerprint).mp hm)
      have hg := Table.methods_ofExports u.exports (QualifiedName.inNamespace space owner) method
      rw [show Table.ofExports u.exports = (ofUnit u fingerprint).table from rfl, he, ho] at hg
      have hg : Assoc.get? method entry.methods = none := hg
      simp only [invokeWith, he, hg]
    · rename_i ho
      exact invokeWith_of_overloads fingerprint ho

/-- where no export fits, nothing happens -/
theorem trace_of_no_first {space owner method : String} {args : List Data}
    (h : Export.first? u.exports (QualifiedName.inNamespace space owner) method args.length =
      none) : ((ofUnit u fingerprint).invokeWith space owner method args).2 = {} := by
  rw [invokeWith_eq_scan, scan, h]
  split
  · rfl
  · split <;> rfl

theorem calls_of_no_first {space owner method : String} {args : List Data}
    (h : Export.first? u.exports (QualifiedName.inNamespace space owner) method args.length =
      none) : ((ofUnit u fingerprint).invokeWith space owner method args).2.calls = [] := by
  rw [trace_of_no_first u fingerprint h]

end

end Running

/-! ## names of modules -/

namespace Entry

theorem name_foldl_add (xs : List Export) (e : Entry) : (xs.foldl add e).name = e.name := by
  induction xs generalizing e with
  | nil => rfl
  | cons x xs ih => exact ih (e.add x)

/-- an entry is named as its first export is -/
theorem name_ofExports? {xs : List Export} {e : Entry} (h : ofExports? xs = some e) :
    ∃ x, xs.head? = some x ∧ x.home = e.name := by
  cases xs with
  | nil => cases h
  | cons x xs =>
    cases h
    exact ⟨x, rfl, (name_foldl_add (x :: xs) ⟨x.home, []⟩).symm⟩

end Entry

namespace Table

/-- the export that gave a module its name: the first one with the key of `name` -/
def namer? (xs : List Export) (name : QualifiedName) : Option Export :=
  xs.find? fun x => x.home.key == name.key

theorem name_entry? {xs : List Export} {name : QualifiedName} {e : Entry}
    (h : Table.entry? (ofExports xs) name = some e) :
    ∃ x, namer? xs name = some x ∧ x.home = e.name := by
  rw [entry?_ofExports] at h
  obtain ⟨x, hx, hn⟩ := Entry.name_ofExports? h
  rw [Export.ofModule, List.head?_filter] at hx
  exact ⟨x, hx, hn⟩

/-- every key of a table is that of an export -/
theorem exists_of_mem_ofExports {xs : List Export} {e : String × Entry} (he : e ∈ ofExports xs) :
    ∃ x ∈ xs, x.home.key = e.1 := by
  induction xs using List.reverseRecOn generalizing e with
  | nil => cases he
  | append_singleton xs x ih =>
    rw [ofExports_concat] at he
    rcases Assoc.mem_update he with hk | he
    · exact ⟨x, List.mem_append_right xs List.mem_cons_self, hk.symm⟩
    · obtain ⟨y, hy, hk⟩ := ih he
      exact ⟨y, List.mem_append_left [x] hy, hk⟩

/-- an entry of a table is named as the first export with its key is -/
theorem namer?_of_mem {xs : List Export} {e : String × Entry} (he : e ∈ ofExports xs) :
    ∃ x, namer? xs x.home = some x ∧ x.home = e.2.name ∧ x.home.key = e.1 := by
  obtain ⟨y, -, hy⟩ := exists_of_mem_ofExports he
  have hg : Table.entry? (ofExports xs) y.home = some e.2 := by
    unfold Table.entry?
    rw [hy]
    exact (Assoc.get?_eq_some_iff (ordered_ofExports xs)).mpr he
  obtain ⟨x, hx, hn⟩ := name_entry? hg
  have hk : x.home.key = y.home.key := by simpa using List.find?_some hx
  exact ⟨x, by rw [namer?, hk]; exact hx, hn, hk.trans hy⟩

theorem mem_names {t : Table} {s : String} :
    s ∈ t.names ↔ ∃ e ∈ t, e.2.name.display = s := by
  rw [names, List.mem_mergeSort, List.mem_map]

/-- the names are the displays of the exports that come first with their keys -/
theorem mem_names_ofExports {xs : List Export} {s : String} :
    s ∈ (ofExports xs).names ↔ ∃ x, namer? xs x.home = some x ∧ x.home.display = s := by
  rw [mem_names]
  constructor
  · rintro ⟨e, he, rfl⟩
    obtain ⟨x, hx, hn, -⟩ := namer?_of_mem he
    exact ⟨x, hx, by rw [hn]⟩
  · rintro ⟨x, hx, rfl⟩
    have hm : x ∈ Export.ofModule xs x.home :=
      List.mem_filter.mpr ⟨List.mem_of_find?_eq_some hx, by simp⟩
    obtain ⟨e, he⟩ : ∃ e, Table.entry? (ofExports xs) x.home = some e := by
      rw [entry?_ofExports]
      cases hl : Export.ofModule xs x.home with
      | nil => rw [hl] at hm; cases hm
      | cons y ys => exact ⟨_, rfl⟩
    obtain ⟨y, hy, hn⟩ := name_entry? he
    obtain rfl : x = y := Option.some_inj.mp (hx.symm.trans hy)
    exact ⟨(x.home.key, e), (Assoc.get?_eq_some_iff (ordered_ofExports xs)).mp he, by rw [hn]⟩

/-- two entries differ in their keys, so they differ in their names -/
theorem nodup_displays (xs : List Export) :
    ((ofExports xs).map fun e => e.2.name.display).Nodup := by
  rw [List.Nodup, List.pairwise_map]
  refine (ordered_ofExports xs).imp_of_mem fun {a b} ha hb hlt hd => ?_
  obtain ⟨x, -, hx, hxk⟩ := namer?_of_mem ha
  obtain ⟨y, -, hy, hyk⟩ := namer?_of_mem hb
  refine String.ne_of_lt hlt ?_
  rw [← hxk, ← hyk, QualifiedName.key, QualifiedName.key, hx, hy, hd]

theorem ascending_names (xs : List Export) : (ofExports xs).names.Pairwise (· < ·) := by
  have sorted : (ofExports xs).names.Pairwise (· ≤ ·) := by
    refine (List.pairwise_mergeSort (fun a b c hab hbc => ?_) (fun a b => ?_) _).imp
      of_decide_eq_true
    · simp only [decide_eq_true_eq] at hab hbc ⊢
      exact String.le_trans hab hbc
    · simpa using String.le_total a b
  have distinct : (ofExports xs).names.Nodup :=
    (List.mergeSort_perm _ _).nodup_iff.mpr (nodup_displays xs)
  refine (sorted.and distinct).imp fun {a b} h => ?_
  rcases Decidable.em (a < b) with hlt | hlt
  · exact hlt
  · exact absurd (String.le_antisymm h.1 (String.not_lt.mp hlt)) h.2

end Table

/-- **Calls by name and the names of modules**, for every host that holds a unit.  A call reports
the module that no export has, then the method that none of the module's has, then the number of
arguments that none of the method's takes; otherwise it calls the first export that fits, once and
with the arguments given.  The names of the modules ascend, and there is one for each key: the
display of the first export with it. -/
theorem call_scan (h : Host) (u : CompiledUnit) (fingerprint : UInt64) :
    let h := { h with running? := some (Running.ofUnit u fingerprint) }
    (∀ (owner method : String) (args : List Data),
      let name := QualifiedName.inNamespace h.space owner
      let noModule := ∀ x ∈ u.exports, x.home.key ≠ name.key
      let noMethod := ∀ x ∈ u.exports, x.home.key = name.key → x.name ≠ method
      let noOverload := ∀ x ∈ u.exports, x.home.key = name.key → x.name = method →
        x.arity ≠ args.length
      let first := u.exports.find? fun x =>
        x.home.key == name.key && (x.name == method && x.arity == args.length)
      let answer := h.call owner method args
      (∀ t, answer.1 = .error (.typeNotFound t) ↔ t = name.display ∧ noModule) ∧
      (∀ m, answer.1 = .error (.methodNotFound m) ↔ m = method ∧ ¬ noModule ∧ noMethod) ∧
      (answer.1 = .error (.call (.parameterCount args.length)) ∧ answer.2.calls = [] ↔
        ¬ noMethod ∧ noOverload) ∧
      answer.2.calls = first.toList.map (·, args) ∧
      ∀ x ∈ first, ∀ v, answer.1 = .ok v ↔ (u.call x args).result = .ok v) ∧
    h.modules.Pairwise (· < ·) ∧
    ∀ s, s ∈ h.modules ↔
      ∃ x, (u.exports.find? fun y => y.home.key == x.home.key) = some x ∧ x.home.display = s := by
  intro h
  refine ⟨fun owner method args => ?_, Table.ascending_names u.exports,
    fun s => Table.mem_names_ofExports⟩
  intro name noModule noMethod noOverload first answer
  have hfirst : first = Export.first? u.exports name method args.length :=
    (Export.first?_eq_find? ..).symm
  have hanswer : answer = Running.scan u name method args :=
    Running.invokeWith_eq_scan u fingerprint h.space owner method args
  rw [hanswer, hfirst, ← show _ ↔ noModule from Export.ofModule_eq_nil_iff,
    ← show _ ↔ noMethod from Export.overloads_eq_nil_iff,
    ← show _ ↔ noOverload from Export.first?_eq_none_iff]
  unfold Running.scan
  by_cases hm : Export.ofModule u.exports name = []
  · have ho : Export.overloads u.exports name method = [] := Export.overloads_of_ofModule hm
    have hf := Export.first?_of_overloads ho args.length
    simp [hm, ho, hf, eq_comm]
  by_cases ho : Export.overloads u.exports name method = []
  · have hf := Export.first?_of_overloads ho args.length
    simp [hm, ho, hf, eq_comm]
  rw [if_neg hm, if_neg ho]
  cases hf : Export.first? u.exports name method args.length with
  | none => simp [hm, ho, Running.callFirst, Running.passOn]
  | some x => simp [hm, ho, Running.callFirst, Running.passOn_eq_ok_iff,
      Running.passOn_ne_typeNotFound, Running.passOn_ne_methodNotFound]

end Scripting
