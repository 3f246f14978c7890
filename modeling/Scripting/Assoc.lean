/-!
# Lists of named values in ascending order

An association list keyed by text.  `insert` keeps the keys in strictly ascending order and replaces
the value of a key that is already there, so the list is the same whatever the order in which its
entries came.
-/

namespace Scripting.Assoc

variable {α : Type}

def insert (key : String) (v : α) : List (String × α) → List (String × α)
  | [] => [(key, v)]
  | (k, w) :: rest =>
    if key = k then (key, v) :: rest
    else if key < k then (key, v) :: (k, w) :: rest
    else (k, w) :: insert key v rest

def get? (key : String) : List (String × α) → Option α
  | [] => none
  | (k, w) :: rest => if key = k then some w else get? key rest

def erase (key : String) : List (String × α) → List (String × α)
  | [] => []
  | (k, w) :: rest => if key = k then rest else (k, w) :: erase key rest

/-- the value of `key` becomes what `f` makes of the one before, if there was any -/
def update (key : String) (f : Option α → α) : List (String × α) → List (String × α)
  | [] => [(key, f none)]
  | (k, w) :: rest =>
    if key = k then (key, f (some w)) :: rest
    else if key < k then (key, f none) :: (k, w) :: rest
    else (k, w) :: update key f rest

/-- the entries of `l`, of two with one key the later -/
def ofList (l : List (String × α)) : List (String × α) :=
  l.foldl (fun acc e => insert e.1 e.2 acc) []

theorem get?_insert_self (key : String) (v : α) (l : List (String × α)) :
    get? key (insert key v l) = some v := by
  induction l with
  | nil => simp [insert, get?]
  | cons e rest ih =>
    obtain ⟨k, w⟩ := e
    simp only [insert]
    split
    · simp [get?]
    · split
      · simp [get?]
      · rename_i hne _
        simp [get?, hne, ih]

theorem get?_insert_of_ne {key other : String} (h : other ≠ key) (v : α)
    (l : List (String × α)) : get? other (insert key v l) = get? other l := by
  induction l with
  | nil => simp [insert, get?, h]
  | cons e rest ih =>
    obtain ⟨k, w⟩ := e
    simp only [insert]
    split
    · rename_i hk; subst hk; simp [get?, h]
    · split
      · simp [get?, h]
      · simp [get?, ih]

theorem update_const (key : String) (v : α) (l : List (String × α)) :
    update key (fun _ => v) l = insert key v l := by
  induction l with
  | nil => rfl
  | cons e rest ih => obtain ⟨k, w⟩ := e; simp [update, insert, ih]

end Scripting.Assoc
