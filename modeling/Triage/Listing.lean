/-!
# Lists

The distinct items of a list in the order of their first occurrence, and a list cut into portions of
a fixed size. A map from texts to values is a list of pairs with the keys in ascending order. The
order is that of the code points, which is also the order of the encoded bytes. Main statements:
after a value is put at a key, that key has the value and all others have what they had.
-/
namespace Triage.Listing

variable {α : Type}

/-- Appends an item unless it is there already. -/
def addNew [BEq α] (seen : List α) (x : α) : List α :=
  if seen.contains x then seen else seen ++ [x]

/-- The distinct items of a list, in the order of their first occurrence. -/
def distinct [BEq α] (xs : List α) : List α := xs.foldl addNew []

/-- A list in portions of `extra + 1` items; the last one may be shorter. -/
def portions (extra : Nat) : List α → List (List α)
  | [] => []
  | x :: rest => (x :: rest.take extra) :: portions extra (rest.drop extra)
termination_by xs => xs.length
decreasing_by simp only [List.length_cons, List.length_drop]; omega

end Triage.Listing

namespace Triage.Keyed

variable {α : Type}

/-- Puts a value at a key, in place of the former one if there is one. -/
def insert (key : String) (value : α) : List (String × α) → List (String × α)
  | [] => [(key, value)]
  | (k, v) :: rest =>
    if key = k then (key, value) :: rest
    else if key < k then (key, value) :: (k, v) :: rest
    else (k, v) :: insert key value rest

/-- The pairs in the order of their keys; of several values at a key the last one stays. -/
def ofList (pairs : List (String × α)) : List (String × α) :=
  pairs.foldl (fun m (k, v) => insert k v m) []

theorem lookup_insert_self (key : String) (value : α) (m : List (String × α)) :
    (insert key value m).lookup key = some value := by
  induction m with
  | nil => simp [insert]
  | cons kv rest ih =>
    obtain ⟨k, v⟩ := kv
    unfold insert
    split
    · simp
    · rename_i hk
      split
      · simp
      · simp [List.lookup_cons, beq_false_of_ne hk, ih]

theorem lookup_insert_of_ne (key other : String) (value : α) (m : List (String × α))
    (h : other ≠ key) : (insert key value m).lookup other = m.lookup other := by
  have hne : (other == key) = false := beq_false_of_ne h
  induction m with
  | nil => simp [insert, List.lookup_cons, hne]
  | cons kv rest ih =>
    obtain ⟨k, v⟩ := kv
    unfold insert
    split
    · rename_i hk
      subst hk
      simp [List.lookup_cons, hne]
    · split
      · simp [List.lookup_cons, hne]
      · cases hko : (other == k) <;> simp [List.lookup_cons, hko, ih]

end Triage.Keyed
