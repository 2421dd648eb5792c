/-!
# Assignments in order

Keys with values in the order in which the keys were first given. A key that is given again keeps
its place and takes the new value (`lookup_put_self`).
-/

namespace StoredSql.Ordered

variable {α : Type}

/-- Gives a key a value: in its place if it has one, else at the end. -/
def put : List (String × α) → String → α → List (String × α)
  | [], key, value => [(key, value)]
  | (k, v) :: rest, key, value =>
    if k = key then (key, value) :: rest else (k, v) :: put rest key value

/-- Entries with one value for each key: that of its last entry in the place of its first. -/
def ofEntries (entries : List (String × α)) : List (String × α) :=
  entries.foldl (fun kvs entry => put kvs entry.1 entry.2) []

theorem lookup_put_self (kvs : List (String × α)) (key : String) (value : α) :
    (put kvs key value).lookup key = some value := by
  induction kvs with
  | nil => simp [put]
  | cons kv rest ih =>
    obtain ⟨k, v⟩ := kv
    by_cases h : k = key
    · simp [put, h]
    · simp [put, h, List.lookup_cons, ih, beq_eq_false_iff_ne.2 (Ne.symm h)]

end StoredSql.Ordered
