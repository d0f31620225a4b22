/-!
# Association lists

Pairs of a key and a value in which a key occurs once. A new key goes to the end, a known one keeps its
place and takes the new value, so the last value written to a key is the one found.
-/
namespace PageScript.Assoc

variable {α β : Type} [BEq α]

def put (key : α) (value : β) : List (α × β) → List (α × β)
  | [] => [(key, value)]
  | (k, v) :: entries => if key == k then (key, value) :: entries else (k, v) :: put key value entries

@[simp] theorem lookup_put_self [LawfulBEq α] (key : α) (value : β) (entries : List (α × β)) :
    (put key value entries).lookup key = some value := by
  induction entries with
  | nil => simp [put]
  | cons entry entries ih =>
    obtain ⟨k, v⟩ := entry
    by_cases h : (key == k) = true
    · simp [put, h]
    · simp [put, List.lookup_cons, h, ih]

theorem lookup_put_of_ne [LawfulBEq α] {key other : α} (h : other ≠ key) (value : β)
    (entries : List (α × β)) : (put key value entries).lookup other = entries.lookup other := by
  have hne : (other == key) = false := by simpa using h
  induction entries with
  | nil => simp [put, List.lookup_cons, hne]
  | cons entry entries ih =>
    obtain ⟨k, v⟩ := entry
    by_cases hk : (key == k) = true
    · have : key = k := by simpa using hk
      subst this
      simp [put, List.lookup_cons, hne]
    · simp [put, List.lookup_cons, hk, ih]

/-- The entries written one after another. -/
def ofList (entries : List (α × β)) : List (α × β) :=
  entries.foldl (fun written entry => put entry.1 entry.2 written) []

end PageScript.Assoc
