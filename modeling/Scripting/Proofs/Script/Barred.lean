import Scripting.Script.Value

/-!
# Values that do not cross the border

A function, a range or bytes anywhere in a value bar the whole value from the host.

* `barred?`            the first part of a value that is barred, in the order of the parts;
* `toData_ok_iff`      a value has a host value exactly if there is none;
* `toData_of_barred`   and is refused for the first one otherwise.
-/

namespace Scripting.Script.Value

mutual

/-- the first part that has no host value -/
def barred? : Value → Option Value
  | list items => barredItems? items
  | record fields => barredFields? fields
  | function name cells => some (function name cells)
  | range first last inclusive => some (range first last inclusive)
  | steps first last step => some (steps first last step)
  | floatSteps first last step => some (floatSteps first last step)
  | bytes bs => some (bytes bs)
  | _ => none

def barredItems? : List Value → Option Value
  | [] => none
  | v :: vs => (barred? v).or (barredItems? vs)

def barredFields? : List (String × Value) → Option Value
  | [] => none
  | (_, v) :: rest => (barred? v).or (barredFields? rest)

end

/-- a conversion succeeds if nothing is barred, and is refused for what is -/
def Refuses {α : Type} (result : Except String α) : Option Value → Prop
  | none => ∃ a, result = .ok a
  | some w => result = .error (barrier w)

theorem Refuses.map {α β : Type} {result : Except String α} {w? : Option Value}
    (h : Refuses result w?) (f : α → β) : Refuses (result.map f) w? := by
  cases w? with
  | none =>
    obtain ⟨a, rfl⟩ := h
    exact ⟨f a, rfl⟩
  | some w =>
    rw [show result = .error (barrier w) from h]
    rfl

/-- of two conversions one after the other the first that is refused counts -/
theorem Refuses.seq {α β γ : Type} {first : Except String α} {second : Except String β}
    {v? w? : Option Value} (hv : Refuses first v?) (hw : Refuses second w?) (f : α → β → γ) :
    Refuses (do let a ← first; let b ← second; .ok (f a b)) (v?.or w?) := by
  cases v? with
  | some v =>
    rw [show first = .error (barrier v) from hv]
    rfl
  | none =>
    obtain ⟨a, rfl⟩ := hv
    cases w? with
    | some w =>
      rw [show second = .error (barrier w) from hw]
      rfl
    | none =>
      obtain ⟨b, rfl⟩ := hw
      exact ⟨f a b, rfl⟩

mutual

theorem refuses_toData (v : Value) : Refuses v.toData v.barred? := by
  cases v with
  | list items => exact (refuses_toItems items).map _
  | record fields => exact (refuses_toFields fields).map _
  | function name cells => rfl
  | range first last inclusive => rfl
  | steps first last step => rfl
  | floatSteps first last step => rfl
  | bytes bs => rfl
  | _ => exact ⟨_, rfl⟩

theorem refuses_toItems (vs : List Value) : Refuses (toItems vs) (barredItems? vs) := by
  cases vs with
  | nil => exact ⟨[], rfl⟩
  | cons v vs => exact (refuses_toData v).seq (refuses_toItems vs) _

theorem refuses_toFields (fs : List (String × Value)) :
    Refuses (toFields fs) (barredFields? fs) := by
  cases fs with
  | nil => exact ⟨[], rfl⟩
  | cons f fs =>
    obtain ⟨k, v⟩ := f
    exact (refuses_toData v).seq (refuses_toFields fs) fun d ds => (k, d) :: ds

end

theorem toData_of_barred {v w : Value} (h : v.barred? = some w) : v.toData = .error (barrier w) := by
  have hv := refuses_toData v
  rw [h] at hv
  exact hv

theorem toData_ok_iff (v : Value) : (∃ d, v.toData = .ok d) ↔ v.barred? = none := by
  have hv := refuses_toData v
  constructor
  · rintro ⟨d, hd⟩
    cases h : v.barred? with
    | none => rfl
    | some w =>
      rw [toData_of_barred h] at hd
      cases hd
  · intro h
    rw [h] at hv
    exact hv

end Scripting.Script.Value
